import Mathlib.Data.List.Basic
import Mathlib.Logic.Function.Basic
import UsbRadioPlus.Sys.Run

/-!
# Lines, their edges and a log of edges

Lines have levels, and an observer reports the lines that changed since its last look (`edges`).
`replay` puts reported levels back. An edge may get lost on its way.

`EdgeLog` carries what every operation keeps: no edge is missing without being counted, and where none
was lost the replay from the first look gives the last one. `edgeLog` is the system of the operations;
a program that refines it (`Sys.Simulation`) has its properties.
-/

namespace Sys

variable {ι : Type*} [DecidableEq ι]

/-- The lines that changed, with their new levels. -/
def edges (lines : List ι) (old new : ι → Bool) : List (ι × Bool) :=
  (lines.filter fun i => old i != new i).map fun i => (i, new i)

/-- The number of lines that differ. -/
def differing (lines : List ι) (old new : ι → Bool) : Nat := lines.countP fun i => old i != new i

/-- The changes over a list of looks, newest first. -/
def edgeTotal (lines : List ι) : List (ι → Bool) → Nat
  | new :: old :: looks => differing lines old new + edgeTotal lines (old :: looks)
  | _ => 0

/-- Put levels back. -/
def replay (levels : ι → Bool) (es : List (ι × Bool)) : ι → Bool :=
  es.foldl (fun levels e => Function.update levels e.1 e.2) levels

omit [DecidableEq ι] in
@[simp] theorem length_edges (lines : List ι) (old new : ι → Bool) :
    (edges lines old new).length = differing lines old new := by
  rw [edges, List.length_map, differing, List.countP_eq_length_filter]

omit [DecidableEq ι] in
theorem edges_append (lines lines' : List ι) (old new : ι → Bool) :
    edges (lines ++ lines') old new = edges lines old new ++ edges lines' old new := by
  rw [edges, List.filter_append, List.map_append]
  rfl

theorem replay_append (levels : ι → Bool) (es es' : List (ι × Bool)) :
    replay levels (es ++ es') = replay (replay levels es) es' :=
  List.foldl_append

/-- Replaying the edges from the old levels gives the new ones. -/
theorem replay_edges {lines : List ι} (complete : ∀ i, i ∈ lines) (old new : ι → Bool) :
    replay old (edges lines old new) = new := by
  -- the lines whose edge is still to come may have any level
  suffices h : ∀ (lines : List ι) (levels : ι → Bool),
      (∀ i, i ∉ lines ∨ old i = new i → levels i = new i) →
        replay levels (edges lines old new) = new from
    h lines old fun i hi => hi.resolve_left (not_not_intro (complete i))
  clear complete lines
  intro lines
  induction lines with
  | nil => exact fun levels h => funext fun i => h i (.inl List.not_mem_nil)
  | cons i lines ih =>
    intro levels h
    by_cases hi : old i = new i
    · rw [edges, List.filter_cons_of_neg (by simp [hi])]
      refine ih levels fun j hj => h j ?_
      by_cases hij : j = i
      · exact .inr (hij ▸ hi)
      · exact hj.imp_left fun hj => List.not_mem_cons_of_ne_of_not_mem hij hj
    · rw [edges, List.filter_cons_of_pos (by simpa using hi)]
      refine ih (Function.update levels i (new i)) fun j hj => ?_
      by_cases hij : j = i
      · rw [hij, Function.update_self]
      · rw [Function.update_of_ne hij]
        exact h j (hj.imp_left fun hj => List.not_mem_cons_of_ne_of_not_mem hij hj)

/-! ## The log -/

/-- The looks, newest first, and the edges that are not lost, oldest first. -/
structure EdgeLog (lines : List ι) where
  seen : List (ι → Bool)
  events : List (ι × Bool)
  dropped : Nat
  counted : events.length + dropped = edgeTotal lines seen
  replayed : dropped = 0 → ∀ first ∈ seen.getLast?, ∀ last ∈ seen.head?,
    replay first events = last

namespace EdgeLog

variable {lines : List ι}

@[ext] theorem ext {log log' : EdgeLog lines} (hseen : log.seen = log'.seen)
    (hevents : log.events = log'.events) (hdropped : log.dropped = log'.dropped) : log = log' := by
  cases log
  cases log'
  simp_all only

/-- The log in front of the first observation. -/
def empty : EdgeLog lines where
  seen := []
  events := []
  dropped := 0
  counted := rfl
  replayed := fun _ _ h => (nomatch h)

/-- What a look reports. The first one reports nothing. -/
def report (log : EdgeLog lines) (new : ι → Bool) : List (ι × Bool) :=
  match log.seen with
  | [] => []
  | old :: _ => edges lines old new

/-- An observation joins the log with its edges. -/
def observe (complete : ∀ i, i ∈ lines) (log : EdgeLog lines) (new : ι → Bool) : EdgeLog lines where
  seen := new :: log.seen
  events := log.events ++ log.report new
  dropped := log.dropped
  counted := by
    rw [report, List.length_append]
    have hcounted := log.counted
    rcases hseen : log.seen with _ | ⟨old, looks⟩
    · rw [hseen] at hcounted
      simpa [edgeTotal] using hcounted
    · rw [hseen] at hcounted
      simp only [length_edges, edgeTotal]
      omega
  replayed := by
    intro hdropped first hfirst last hlast
    obtain rfl := Option.some.inj hlast
    rw [report]
    rcases hseen : log.seen with _ | ⟨old, looks⟩
    · have hempty : log.events = [] := by
        have hcounted := log.counted
        rw [hseen, edgeTotal] at hcounted
        · exact List.eq_nil_of_length_eq_zero (by omega)
        · exact fun _ _ _ h => nomatch h
      rw [hseen] at hfirst
      obtain rfl := Option.some.inj hfirst
      rw [hempty]
      rfl
    · rw [hseen, List.getLast?_cons_cons, ← hseen] at hfirst
      have hold := log.replayed hdropped first hfirst old (by rw [hseen]; rfl)
      simp only
      rw [replay_append, hold, replay_edges complete]

/-- An edge is lost. -/
def drop (log : EdgeLog lines) (k : Fin log.events.length) : EdgeLog lines where
  seen := log.seen
  events := log.events.eraseIdx k
  dropped := log.dropped + 1
  counted := by
    have hcounted := log.counted
    have hlen := List.length_eraseIdx_add_one k.isLt
    omega
  replayed := fun h => (nomatch h)

end EdgeLog

/-- What happens to a log. -/
inductive EdgeAct (ι : Type*) where
  | observe (levels : ι → Bool)
  /-- The edge at an index is lost. -/
  | drop (k : Nat)

/-- The looks and the losses, in any order. -/
def edgeLog {lines : List ι} (complete : ∀ i, i ∈ lines) : System (EdgeLog lines) (EdgeAct ι) where
  init log := log = .empty
  step log
    | .observe levels => some (log.observe complete levels)
    | .drop k => if h : k < log.events.length then some (log.drop ⟨k, h⟩) else none

end Sys
