import Mathlib.Logic.Function.Basic
import UsbRadioPlus.Sys.Fallible

/-!
# Sequences of exchanges with a device

Every exchange asks first whether to stop, then whether its operand is good; what the device answers
decides whether the next one is made. `answers` gives both decisions at each place of the history, so a
fact about all of them is one about every pattern of cancellations and failures.

A straight-line program is the list of its steps (`perform`); `perform_follows` says what any run of it
leaves, `perform_calm` what an undisturbed one does. `store` is a bank of registers behind a list of
writes.
-/

namespace Sys
namespace Exchange

variable {ε ξ : Type}

/-- What is seen of a call. -/
inductive Event (ξ : Type) where
  | cancelled
  | exchanged (x : ξ) (ok : Bool)
  deriving DecidableEq, Repr

/-- A cancellation or a failed exchange. -/
def Event.Ends : Event ξ → Prop
  | .cancelled => True
  | .exchanged _ ok => ok = false

/-- What is decided at each place of the history. -/
structure Answers (ε : Type) where
  cancelled : Nat → Bool
  answer : Nat → Except ε Unit

/-- Nothing is cancelled and nothing fails. -/
def calm : Answers ε := ⟨fun _ => false, fun _ => .ok ()⟩

/-- A part of an exchange. -/
abbrev Exchanging (ε ξ α : Type) : Type := Fallible (List (Event ξ)) ε α

section
variable (stopped : ε) (answers : Answers ε)

/-- One exchange, with the error `stopped` where it is cancelled. -/
def call (x : Except ε ξ) : Exchanging ε ξ Unit := fun t =>
  if answers.cancelled t.length then some (.error stopped, t ++ [.cancelled])
  else match x with
    | .error e => some (.error e, t)
    | .ok x => some (answers.answer t.length, t ++ [.exchanged x (answers.answer t.length).isOk])

/-! ## Straight-line programs -/

/-- A check between exchanges, or an exchange. -/
inductive Step (ε ξ : Type) where
  | check (r : Except ε Unit)
  | call (x : Except ε ξ)

/-- The effect of a step. -/
def Step.run : Step ε ξ → Exchanging ε ξ Unit
  | .check r => Fallible.of r
  | .call x => Exchange.call stopped answers x

/-- The steps in their order, up to the first that fails. -/
def perform (steps : List (Step ε ξ)) : Exchanging ε ξ Unit := steps.forM (Step.run stopped answers)

end

/-- The step does not refuse its operands. -/
def Step.Good : Step ε ξ → Prop
  | .check r => r.isOk
  | .call x => x.isOk

/-- The call of a step. -/
def Step.exchange? : Step ε ξ → Option ξ
  | .check _ => none
  | .call (.error _) => none
  | .call (.ok x) => some x

/-- The exchanges of a program, in its order. -/
def exchanges (steps : List (Step ε ξ)) : List ξ := steps.filterMap Step.exchange?

theorem mem_exchanges_iff {steps : List (Step ε ξ)} {x : ξ} :
    x ∈ exchanges steps ↔ .call (.ok x) ∈ steps := by
  rw [exchanges, List.mem_filterMap]
  constructor
  · rintro ⟨s, hs, hx⟩
    match s with
    | .check _ | .call (.error _) => nomatch hx
    | .call (.ok y) => exact Option.some.inj hx ▸ hs
  · exact fun hx => ⟨_, hx, rfl⟩

variable {stopped : ε} {answers : Answers ε} {steps : List (Step ε ξ)}

theorem perform_nil : perform stopped answers ([] : List (Step ε ξ)) = pure () := rfl

theorem perform_cons {s : Step ε ξ} :
    perform stopped answers (s :: steps) =
      s.run stopped answers >>= fun _ => perform stopped answers steps := rfl

theorem perform_append {steps' : List (Step ε ξ)} :
    perform stopped answers (steps ++ steps') =
      perform stopped answers steps >>= fun _ => perform stopped answers steps' := by
  induction steps with
  | nil => rfl
  | cons s steps ih =>
    rw [List.cons_append, perform_cons, perform_cons, ih]
    funext t
    simp only [Fallible.bind_apply]
    rcases s.run stopped answers t with _ | ⟨_ | _, _⟩ <;> rfl

theorem perform_singleton {s : Step ε ξ} : perform stopped answers [s] = s.run stopped answers := by
  funext t
  rw [perform_cons, Fallible.bind_apply]
  rcases s.run stopped answers t with _ | ⟨_ | _, _⟩ <;> rfl

theorem perform_pair {s s' : Step ε ξ} : perform stopped answers [s, s'] =
    s.run stopped answers >>= fun _ => s'.run stopped answers := by
  rw [perform_cons, perform_singleton]

theorem whenever_perform {c : Bool} :
    Fallible.whenever c (perform stopped answers steps) =
      perform stopped answers (if c then steps else []) := by
  cases c <;> rfl

theorem forM_eq_perform {ι : Type} {f : ι → Exchanging ε ξ Unit} {g : ι → List (Step ε ξ)}
    (h : ∀ i, f i = perform stopped answers (g i)) (l : List ι) :
    l.forM f = perform stopped answers (l.flatMap g) := by
  induction l with
  | nil => rfl
  | cons i l ih =>
    rw [List.flatMap_cons, perform_append, ← h i, ← ih]
    rfl

/-- What a run of a program leaves: exchanges of the program, none behind one that ended it, and all of
them behind a success. -/
structure Follows (steps : List (Step ε ξ)) (r : Except ε Unit) (u : List (Event ξ)) : Prop where
  planned : ∀ x ok, .exchanged x ok ∈ u → .call (.ok x) ∈ steps
  ends : ∀ pre e post, u = pre ++ e :: post → e.Ends → post = []
  done : r = .ok () → u = (exchanges steps).map (.exchanged · true) ∧ ∀ s ∈ steps, s.Good

/-- One step: it succeeds and leaves its exchange, or it fails and leaves at most one event, which ends
the run. -/
theorem run_cases (stopped : ε) (answers : Answers ε) (s : Step ε ξ) (t : List (Event ξ)) :
    ∃ r u, s.run stopped answers t = some (r, t ++ u) ∧
      ((r = .ok () ∧ s.Good ∧ u = s.exchange?.toList.map (.exchanged · true)) ∨
        ∃ e, r = .error e ∧ ∀ ev ∈ u, u = [ev] ∧ ev.Ends ∧
          ∀ x ok, ev = .exchanged x ok → s = .call (.ok x)) := by
  match s with
  | .check (.ok ()) => exact ⟨_, [], by simp [Step.run, Fallible.of], .inl ⟨rfl, rfl, rfl⟩⟩
  | .check (.error e) => exact ⟨_, [], by simp [Step.run, Fallible.of], .inr ⟨e, rfl, by simp⟩⟩
  | .call x =>
    by_cases hc : answers.cancelled t.length = true
    · refine ⟨_, [.cancelled], by simp only [Step.run, call, if_pos hc], .inr ⟨stopped, rfl, ?_⟩⟩
      simp [Event.Ends]
    · match x with
      | .error e =>
        refine ⟨_, [], by simp only [Step.run, call, if_neg hc, List.append_nil], .inr ⟨e, rfl, ?_⟩⟩
        simp
      | .ok x =>
        refine ⟨answers.answer t.length, [.exchanged x (answers.answer t.length).isOk],
          by simp only [Step.run, call, if_neg hc], ?_⟩
        cases ha : answers.answer t.length with
        | ok _ => exact .inl ⟨rfl, rfl, rfl⟩
        | error e =>
          refine .inr ⟨e, rfl, ?_⟩
          simp [Event.Ends, Except.isOk, Except.toBool]

theorem Follows.nil : Follows ([] : List (Step ε ξ)) (.ok ()) [] :=
  ⟨by simp, by simp, fun _ => ⟨rfl, by simp⟩⟩

/-- A step that succeeded stands in front of the rest. -/
theorem Follows.cons {s : Step ε ξ} (hs : s.Good) {r : Except ε Unit} {u : List (Event ξ)}
    (h : Follows steps r u) :
    Follows (s :: steps) r (s.exchange?.toList.map (.exchanged · true) ++ u) := by
  match s with
  | .check _ => exact ⟨fun x ok hx => List.mem_cons_of_mem _ (h.planned x ok hx), h.ends, fun hr =>
      ⟨(h.done hr).1, List.forall_mem_cons.mpr ⟨hs, (h.done hr).2⟩⟩⟩
  | .call (.error _) => nomatch hs
  | .call (.ok y) =>
    refine ⟨fun x ok hx => ?_, fun pre e post hu he => ?_, fun hr =>
      ⟨?_, List.forall_mem_cons.mpr ⟨hs, (h.done hr).2⟩⟩⟩
    · rcases List.mem_cons.mp hx with heq | hx
      · obtain ⟨rfl, -⟩ := Event.exchanged.inj heq
        exact List.mem_cons_self
      · exact List.mem_cons_of_mem _ (h.planned x ok hx)
    · cases pre with
      | nil =>
        obtain ⟨rfl, -⟩ := List.cons.inj hu
        exact nomatch he
      | cons _ pre => exact h.ends pre e post (List.cons.inj hu).2 he
    · rw [(h.done hr).1]
      rfl

/-- A step that failed ends the run. -/
theorem Follows.stop {s : Step ε ξ} {e : ε} {u : List (Event ξ)}
    (h : ∀ ev ∈ u, u = [ev] ∧ ev.Ends ∧ ∀ x ok, ev = .exchanged x ok → s = .call (.ok x)) :
    Follows (s :: steps) (.error e) u := by
  refine ⟨fun x ok hx => ?_, fun pre ev post hu _ => ?_, fun hr => (nomatch hr)⟩
  · rw [(h _ hx).2.2 x ok rfl]
    exact List.mem_cons_self
  · have hone := (h ev (by simp [hu])).1
    rw [hu] at hone
    have hlen := congrArg List.length hone
    simp only [List.length_append, List.length_cons, List.length_nil] at hlen
    exact List.eq_nil_of_length_eq_zero (by omega)

theorem perform_follows (stopped : ε) (answers : Answers ε) (steps : List (Step ε ξ))
    (t : List (Event ξ)) :
    ∃ r u, perform stopped answers steps t = some (r, t ++ u) ∧ Follows steps r u := by
  induction steps generalizing t with
  | nil => exact ⟨_, [], by simp [perform_nil]; rfl, Follows.nil⟩
  | cons s steps ih =>
    rw [perform_cons, Fallible.bind_apply]
    obtain ⟨r, u, hrun, ⟨rfl, hgood, rfl⟩ | ⟨e, rfl, hstop⟩⟩ :=
      run_cases stopped answers s t
    · obtain ⟨r, v, hrest, hfollows⟩ := ih (t ++ s.exchange?.toList.map (.exchanged · true))
      rw [hrun]
      exact ⟨r, _, by simp only [hrest, List.append_assoc], hfollows.cons hgood⟩
    · rw [hrun]
      exact ⟨_, u, rfl, Follows.stop hstop⟩

/-! ## Undisturbed runs -/

theorem run_calm {s : Step ε ξ} (h : s.Good) (t : List (Event ξ)) :
    s.run stopped calm t = some (.ok (), t ++ s.exchange?.toList.map (.exchanged · true)) := by
  match s with
  | .check (.ok ()) => simp [Step.run, Fallible.of, Step.exchange?]
  | .check (.error _) => nomatch h
  | .call (.error _) => nomatch h
  | .call (.ok x) => rfl

/-- Where no step refuses its operands, an undisturbed run makes every exchange. -/
theorem perform_calm (h : ∀ s ∈ steps, s.Good) (t : List (Event ξ)) :
    perform stopped calm steps t = some (.ok (), t ++ (exchanges steps).map (.exchanged · true)) := by
  induction steps generalizing t with
  | nil => simp [perform_nil, exchanges]; rfl
  | cons s steps ih =>
    obtain ⟨hs, hsteps⟩ := List.forall_mem_cons.mp h
    rw [perform_cons, Fallible.bind_apply, run_calm hs]
    simp only [ih hsteps, exchanges, List.filterMap_cons, List.append_assoc]
    cases s.exchange? <;> simp

/-- Behind steps that refuse nothing, an undisturbed run makes the next exchange. -/
theorem perform_calm_mem {front rest : List (Step ε ξ)} {x : ξ} (h : ∀ s ∈ front, s.Good)
    (t : List (Event ξ)) :
    ∃ r t', perform stopped calm (front ++ .call (.ok x) :: rest) t = some (r, t') ∧
      .exchanged x true ∈ t' := by
  obtain ⟨r, u, hrest, -⟩ := perform_follows stopped calm rest
    (t ++ (exchanges front).map (.exchanged · true) ++ [.exchanged x true])
  refine ⟨r, t ++ (exchanges front).map (.exchanged · true) ++ [.exchanged x true] ++ u, ?_, by simp⟩
  rw [perform_append, Fallible.bind_apply, perform_calm h, perform_cons]
  exact (Fallible.bind_apply ..).trans hrest

/-! ## Registers -/

section
variable {κ υ : Type} [DecidableEq κ] {regs : κ → υ} {k : κ} {v : υ}

/-- The registers behind writes, the oldest first. -/
def store (regs : κ → υ) (writes : List (κ × υ)) : κ → υ :=
  writes.foldl (fun r p => Function.update r p.1 p.2) regs

theorem store_of_forall_ne {writes : List (κ × υ)} (h : ∀ p ∈ writes, p.1 ≠ k) :
    store regs writes k = regs k := by
  induction writes generalizing regs with
  | nil => rfl
  | cons p writes ih =>
    obtain ⟨hp, hwrites⟩ := List.forall_mem_cons.mp h
    exact (ih hwrites).trans (Function.update_of_ne (Ne.symm hp) ..)

/-- A register that is written, and with one value only. -/
theorem store_of_mem {writes : List (κ × υ)} (hmem : (k, v) ∈ writes)
    (h : ∀ p ∈ writes, p.1 = k → p.2 = v) : store regs writes k = v := by
  induction writes generalizing regs with
  | nil => nomatch hmem
  | cons p writes ih =>
    obtain ⟨hp, hwrites⟩ := List.forall_mem_cons.mp h
    by_cases hrest : (k, v) ∈ writes
    · exact ih hrest hwrites
    · obtain rfl : (k, v) = p := (List.mem_cons.mp hmem).resolve_right hrest
      have hlast : ∀ q ∈ writes, q.1 ≠ k := fun q hq hk => hrest (by
        rw [← hk, ← hwrites q hq hk]
        exact hq)
      exact (store_of_forall_ne hlast).trans (Function.update_self k v regs)

/-- The last writes decide. -/
theorem store_of_suffix {front rest : List (κ × υ)} (hmem : (k, v) ∈ rest)
    (h : ∀ p ∈ rest, p.1 = k → p.2 = v) : store regs (front ++ rest) k = v := by
  rw [store, List.foldl_append]
  exact store_of_mem hmem h

end

end Exchange
end Sys
