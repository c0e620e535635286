import Mathlib.Logic.Function.Iterate
import Mathlib.Tactic.ByContra

/-!
# A slot between a writer and a reader

The writer clears the answer of the reader and offers a value in a slot of one place. The reader
takes the value, accepts or rejects it, records it where it was accepted, and answers: these are
`read` steps of their own. An answer other than zero gives the slot back to the writer.

* `Idle`: nothing is offered and the reader does nothing. Only the writer can change that.
* `Pending v`: the slot is with the value `v`, from the cleared answer to the answer about `v`.
  Steps of the reader keep it, and behind the answer the slot is idle (`Pending.idle`). The answer
  of acceptance means that the reader has adopted `v` (`Pending.adopted`).
-/

namespace Sys

universe u

/-- Where the reader of a slot is. -/
inductive Reading (V : Type u) where
  | idle
  /-- It took the value. -/
  | deciding (v : V)
  /-- It accepted the value. -/
  | recording (v : V)
  | answering (answer : Int)
  deriving DecidableEq, Repr

/-- A slot with its reader. -/
structure Slot (V : Type u) where
  offered : Option V
  /-- 0: none; 1: accepted; -1: rejected. -/
  answer : Int
  /-- The last value that the reader recorded, for all to see. -/
  recorded : Option V
  reading : Reading V
  /-- The last value that the reader accepted. -/
  adopted : Option V
  deriving DecidableEq, Repr

namespace Slot

variable {V : Type u} {s : Slot V} {v : V}

/-- The slot in front of any offer. -/
def fresh : Slot V := ⟨none, 0, none, .idle, none⟩

/-- The writer clears the answer. -/
def clear (s : Slot V) : Slot V := { s with answer := 0 }

/-- The writer offers a value. -/
def offer (s : Slot V) (v : V) : Slot V := { s with offered := some v }

/-- The next step of the reader; `accepts` decides about a value. -/
def read (s : Slot V) (accepts : Bool) : Slot V :=
  match s.reading with
  | .idle => match s.offered with
    | none => s
    | some v => { s with offered := none, reading := .deciding v }
  | .deciding v =>
    if accepts then { s with adopted := some v, reading := .recording v }
    else { s with reading := .answering (-1) }
  | .recording v => { s with recorded := some v, reading := .answering 1 }
  | .answering answer => { s with answer, reading := .idle }

/-- All steps of an idle reader at once. -/
def readAll (s : Slot V) (accepts : Bool) : Slot V :=
  match s.offered with
  | none => s
  | some v =>
    if accepts then { s with offered := none, adopted := some v, recorded := some v, answer := 1 }
    else { s with offered := none, answer := -1 }

/-! ## Idle slots -/

/-- Nothing is offered and the reader does nothing. -/
structure Idle (s : Slot V) : Prop where
  offered : s.offered = none
  reading : s.reading = .idle

theorem idle_fresh : Idle (fresh : Slot V) := ⟨rfl, rfl⟩

theorem Idle.clear (h : Idle s) : Idle s.clear := ⟨h.offered, h.reading⟩

theorem Idle.read (h : Idle s) (accepts : Bool) : s.read accepts = s := by
  unfold Slot.read
  rw [h.reading]
  simp only [h.offered]

/-! ## Pending values -/

/-- The slot is with the value `v`. -/
inductive Pending (v : V) (s : Slot V) : Prop where
  | cleared : s.offered = none → s.reading = .idle → s.answer = 0 → Pending v s
  | offered : s.offered = some v → s.reading = .idle → s.answer = 0 → Pending v s
  | deciding : s.offered = none → s.reading = .deciding v → s.answer = 0 → Pending v s
  | recording : s.offered = none → s.reading = .recording v → s.answer = 0 →
    s.adopted = some v → Pending v s
  | answering (answer : Int) : s.offered = none → s.reading = .answering answer → s.answer = 0 →
    (answer = -1 ∨ answer = 1 ∧ s.adopted = some v ∧ s.recorded = some v) → Pending v s
  | answered : s.offered = none → s.reading = .idle →
    (s.answer = -1 ∨ s.answer = 1 ∧ s.adopted = some v ∧ s.recorded = some v) → Pending v s

theorem Idle.pending_offer (h : Idle s) (ha : s.answer = 0) (v : V) : Pending v (s.offer v) :=
  .offered rfl h.reading ha

/-- The reader keeps the value. -/
theorem Pending.read (h : Pending v s) (accepts : Bool) : Pending v (s.read accepts) := by
  cases h with
  | cleared ho hr ha =>
    rw [Idle.read ⟨ho, hr⟩]
    exact .cleared ho hr ha
  | offered ho hr ha =>
    simp only [Slot.read, hr, ho]
    exact .deciding rfl rfl ha
  | deciding ho hr ha =>
    simp only [Slot.read, hr]
    cases accepts with
    | true => exact .recording ho rfl ha rfl
    | false => exact .answering (-1) ho rfl ha (.inl rfl)
  | recording ho hr ha had =>
    simp only [Slot.read, hr]
    exact .answering 1 ho rfl ha (.inr ⟨rfl, had, rfl⟩)
  | answering answer ho hr ha hv =>
    simp only [Slot.read, hr]
    exact .answered ho rfl hv
  | answered ho hr hv =>
    rw [Idle.read ⟨ho, hr⟩]
    exact .answered ho hr hv

/-- Behind its answer the slot is idle. -/
theorem Pending.idle (h : Pending v s) (ha : s.answer ≠ 0) : Idle s := by
  cases h with
  | answered ho hr _ => exact ⟨ho, hr⟩
  | cleared _ _ h0 | offered _ _ h0 | deciding _ _ h0 | recording _ _ h0 | answering _ _ _ h0 =>
    exact absurd h0 ha

/-- The answer of acceptance. -/
theorem Pending.adopted (h : Pending v s) (ha : 0 < s.answer) :
    s.adopted = some v ∧ s.recorded = some v := by
  cases h with
  | answered _ _ hv =>
    rcases hv with hv | ⟨-, hv⟩
    · omega
    · exact hv
  | cleared _ _ h0 | offered _ _ h0 | deciding _ _ h0 | recording _ _ h0 | answering _ _ _ h0 =>
    omega

/-! ## All steps at once -/

/-- Four steps take an idle reader through the value that is offered. -/
theorem readAll_eq_iterate (hr : s.reading = .idle) (accepts : Bool) :
    s.readAll accepts = (fun t => t.read accepts)^[4] s := by
  cases ho : s.offered with
  | none =>
    have hfix : s.read accepts = s := Idle.read ⟨ho, hr⟩ accepts
    rw [Function.iterate_fixed hfix, readAll, ho]
  | some v =>
    obtain ⟨offered, answer, recorded, reading, adopted⟩ := s
    obtain rfl : reading = .idle := hr
    obtain rfl : offered = some v := ho
    cases accepts <;> rfl

theorem Pending.readAll (h : Pending v s) (hr : s.reading = .idle) (accepts : Bool) :
    Pending v (s.readAll accepts) := by
  rw [readAll_eq_iterate hr]
  exact Function.Iterate.rec (Pending v) h (fun _ h => h.read accepts) 4

theorem Idle.readAll (h : Idle s) (accepts : Bool) : s.readAll accepts = s := by
  simp only [Slot.readAll, h.offered]

theorem reading_readAll (s : Slot V) (accepts : Bool) : (s.readAll accepts).reading = s.reading := by
  unfold readAll
  split
  · rfl
  · split <;> rfl

end Slot

end Sys
