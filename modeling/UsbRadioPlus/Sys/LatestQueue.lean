import Mathlib.Data.List.Basic
import UsbRadioPlus.Sys.Run

/-!
# Queues that keep the latest values

A producer offers values one at a time, a consumer takes the oldest one that waits. An offer may be
dropped, and it may first replace all the values that wait. Every settled offer has one fate, so a
value that is neither waiting nor taken was dropped or was replaced by a later offer (`later`).

`LatestQueue` carries what every operation keeps: no value is taken that was offered behind a
waiting one (`fifo`). `latest` is the system of the operations; a program that refines it
(`Sys.Simulation`) has its properties.
-/

namespace Sys

/-- What becomes of an offer. `replaced k`: offer number `k` replaced it while it waited. -/
inductive Fate where
  | waiting
  | taken
  | replaced (by' : Nat)
  | dropped
  deriving DecidableEq, Repr

variable {T : Type*}

/-- The values with a fate, oldest first. -/
def valuesOf (fate : Fate) (es : List (T × Fate)) : List T :=
  (es.filter fun e => e.2 = fate).map (·.1)

/-- Neither waiting nor taken. -/
def Fate.isLost : Fate → Bool
  | .replaced _ => true
  | .dropped => true
  | _ => false

/-- The offers, oldest first; offer number `k` is the entry at index `k`, the pending one the next. -/
structure LatestQueue (T : Type*) where
  entries : List (T × Fate)
  pending : Option T
  fifo : entries.Pairwise fun a b => a.2 = .waiting → b.2 ≠ .taken
  later : ∀ (i : Nat) e k, entries[i]? = some e → e.2 = .replaced k → i < k

@[simp] theorem valuesOf_nil (f : Fate) : valuesOf f ([] : List (T × Fate)) = [] := rfl

theorem valuesOf_append (f : Fate) (es es' : List (T × Fate)) :
    valuesOf f (es ++ es') = valuesOf f es ++ valuesOf f es' := by
  simp [valuesOf]

theorem valuesOf_cons (f : Fate) (e : T × Fate) (es : List (T × Fate)) :
    valuesOf f (e :: es) = if e.2 = f then e.1 :: valuesOf f es else valuesOf f es := by
  by_cases h : e.2 = f <;> simp [valuesOf, h]

theorem valuesOf_sublist (f : Fate) (es : List (T × Fate)) :
    (valuesOf f es).Sublist (es.map (·.1)) :=
  List.filter_sublist.map _

/-- Every entry waits, is taken or is lost. -/
theorem length_entries (es : List (T × Fate)) :
    es.length = (valuesOf .waiting es).length + (valuesOf .taken es).length +
      es.countP fun e => e.2.isLost := by
  induction es with
  | nil => rfl
  | cons e es ih =>
    obtain ⟨v, f⟩ := e
    rw [valuesOf_cons, valuesOf_cons, List.countP_cons, List.length_cons, ih]
    cases f <;> simp [Fate.isLost] <;> omega

/-! ## The operations on the entries -/

/-- The oldest waiting value is taken. -/
def takeFirst : List (T × Fate) → List (T × Fate)
  | [] => []
  | e :: es => if e.2 = .waiting then (e.1, .taken) :: es else e :: takeFirst es

/-- All waiting values are replaced. -/
def replaceAll (k : Nat) (es : List (T × Fate)) : List (T × Fate) :=
  es.map fun e => if e.2 = .waiting then (e.1, .replaced k) else e

theorem map_fst_takeFirst (es : List (T × Fate)) : (takeFirst es).map (·.1) = es.map (·.1) := by
  induction es with
  | nil => rfl
  | cons e es ih =>
    rw [takeFirst]
    split
    · rfl
    · rw [List.map_cons, ih, List.map_cons]

theorem map_fst_replaceAll (k : Nat) (es : List (T × Fate)) :
    (replaceAll k es).map (·.1) = es.map (·.1) := by
  rw [replaceAll, List.map_map]
  refine List.map_congr_left fun e _ => ?_
  simp only [Function.comp_apply]
  split <;> rfl

/-- What a take does: the first waiting value becomes the last taken one. -/
theorem valuesOf_takeFirst {es : List (T × Fate)}
    (hf : es.Pairwise fun a b => a.2 = .waiting → b.2 ≠ .taken) {v : T} {ws : List T}
    (h : valuesOf .waiting es = v :: ws) :
    valuesOf .waiting (takeFirst es) = ws ∧
      valuesOf .taken (takeFirst es) = valuesOf .taken es ++ [v] := by
  induction es with
  | nil => cases h
  | cons e es ih =>
    obtain ⟨hhead, htail⟩ := List.pairwise_cons.mp hf
    rw [valuesOf_cons] at h
    rw [takeFirst]
    by_cases he : e.2 = .waiting
    · rw [if_pos he] at h ⊢
      obtain ⟨rfl, rfl⟩ := List.cons.inj h
      have hnone : valuesOf .taken es = [] := by
        rw [valuesOf, List.map_eq_nil_iff, List.filter_eq_nil_iff]
        exact fun b hb => by simpa using hhead b hb he
      simp [valuesOf_cons, hnone, he]
    · rw [if_neg he] at h ⊢
      obtain ⟨h1, h2⟩ := ih htail h
      rw [valuesOf_cons, valuesOf_cons, valuesOf_cons, if_neg he, h2]
      refine ⟨h1, ?_⟩
      split <;> rfl

theorem fifo_takeFirst {es : List (T × Fate)}
    (hf : es.Pairwise fun a b => a.2 = .waiting → b.2 ≠ .taken) :
    (takeFirst es).Pairwise fun a b => a.2 = .waiting → b.2 ≠ .taken := by
  induction es with
  | nil => exact .nil
  | cons e es ih =>
    obtain ⟨-, htail⟩ := List.pairwise_cons.mp hf
    rw [takeFirst]
    split
    · exact List.pairwise_cons.mpr ⟨fun _ _ h => by simp at h, htail⟩
    · rename_i he
      exact List.pairwise_cons.mpr ⟨fun _ _ h => absurd h he, ih htail⟩

/-- An entry of the list after a take is an old one, or taken. -/
theorem getElem?_takeFirst (es : List (T × Fate)) (i : Nat) :
    (takeFirst es)[i]? = es[i]? ∨
      ∃ v, es[i]? = some (v, .waiting) ∧ (takeFirst es)[i]? = some (v, .taken) := by
  induction es generalizing i with
  | nil => exact .inl rfl
  | cons e es ih =>
    rw [takeFirst]
    split
    · rename_i he
      cases i with
      | zero => exact .inr ⟨e.1, by simp [← he], rfl⟩
      | succ i => exact .inl rfl
    · cases i with
      | zero => exact .inl rfl
      | succ i => exact ih i

theorem countP_takeFirst (es : List (T × Fate)) :
    (takeFirst es).countP (fun e => e.2.isLost) = es.countP fun e => e.2.isLost := by
  induction es with
  | nil => rfl
  | cons e es ih =>
    rw [takeFirst]
    split
    · rename_i he
      rw [List.countP_cons, List.countP_cons, he]
      rfl
    · rw [List.countP_cons, List.countP_cons, ih]

/-- What a replacement does: nothing waits, as many more are lost. -/
theorem valuesOf_replaceAll (k : Nat) (es : List (T × Fate)) :
    valuesOf .waiting (replaceAll k es) = [] ∧
      valuesOf .taken (replaceAll k es) = valuesOf .taken es ∧
      (replaceAll k es).countP (fun e => e.2.isLost) =
        es.countP (fun e => e.2.isLost) + (valuesOf .waiting es).length := by
  induction es with
  | nil => exact ⟨rfl, rfl, rfl⟩
  | cons e es ih =>
    obtain ⟨h1, h2, h3⟩ := ih
    have hcons : replaceAll k (e :: es) =
        (if e.2 = .waiting then (e.1, Fate.replaced k) else e) :: replaceAll k es := rfl
    rw [hcons, valuesOf_cons, valuesOf_cons, valuesOf_cons, valuesOf_cons, List.countP_cons,
      List.countP_cons, h1, h2, h3]
    by_cases he : e.2 = .waiting
    · simp [he, Fate.isLost]
      omega
    · simp [he]
      omega

theorem getElem?_replaceAll (k : Nat) (es : List (T × Fate)) (i : Nat) :
    (replaceAll k es)[i]? = es[i]? ∨
      ∃ v, es[i]? = some (v, .waiting) ∧ (replaceAll k es)[i]? = some (v, .replaced k) := by
  rw [replaceAll, List.getElem?_map]
  cases h : es[i]? with
  | none => exact .inl rfl
  | some e =>
    by_cases he : e.2 = .waiting
    · exact .inr ⟨e.1, by rw [← he], by simp [he]⟩
    · exact .inl (by simp [he])

/-! ## The queue -/

namespace LatestQueue

/-- The values that wait to be taken. -/
def waiting (q : LatestQueue T) : List T := valuesOf .waiting q.entries

/-- The values that were taken. -/
def taken (q : LatestQueue T) : List T := valuesOf .taken q.entries

/-- All the values that were offered. -/
def offered (q : LatestQueue T) : List T := q.entries.map (·.1) ++ q.pending.toList

/-- The number of values that were dropped or replaced. -/
def lost (q : LatestQueue T) : Nat := q.entries.countP fun e => e.2.isLost

/-- The queue in front of the first offer. -/
def empty : LatestQueue T := ⟨[], none, .nil, by simp⟩

/-- A value that is neither in the queue nor dropped yet. -/
def offer (q : LatestQueue T) (v : T) : LatestQueue T := { q with pending := some v }

/-- The pending offer waits or is dropped. -/
def settle (q : LatestQueue T) (v : T) (f : Fate) (hf : f = .waiting ∨ f = .dropped) :
    LatestQueue T where
  entries := q.entries ++ [(v, f)]
  pending := none
  fifo := by
    refine List.pairwise_append.mpr ⟨q.fifo, List.pairwise_singleton _ _, fun a _ b hb _ => ?_⟩
    rw [List.mem_singleton.mp hb]
    rcases hf with rfl | rfl <;> simp
  later := by
    intro i e k hi he
    rcases Nat.lt_or_ge i q.entries.length with h | h
    · rw [List.getElem?_append_left h] at hi
      exact q.later i e k hi he
    · rw [List.getElem?_append_right h] at hi
      obtain rfl := List.mem_singleton.mp (List.mem_of_getElem? hi)
      rcases hf with rfl | rfl <;> simp at he

/-- The pending offer replaces the values that wait. -/
def evict (q : LatestQueue T) : LatestQueue T where
  entries := replaceAll q.entries.length q.entries
  pending := q.pending
  fifo := by
    refine List.Pairwise.imp_of_mem (fun {a b} ha _ _ hw => ?_)
      (List.pairwise_of_forall (R := fun _ _ => True) fun _ _ => trivial)
    obtain ⟨e, -, rfl⟩ := List.mem_map.mp ha
    split at hw
    · simp at hw
    · rename_i hne
      exact absurd hw hne
  later := by
    intro i e k hi he
    rcases getElem?_replaceAll q.entries.length q.entries i with h | ⟨v, h1, h2⟩
    · exact q.later i e k (h ▸ hi) he
    · rw [h2] at hi
      obtain rfl := Option.some.inj hi
      obtain rfl : q.entries.length = k := by simpa using he
      exact (List.getElem?_eq_some_iff.mp h1).1

/-- The oldest waiting value is taken. -/
def take (q : LatestQueue T) : LatestQueue T where
  entries := takeFirst q.entries
  pending := q.pending
  fifo := fifo_takeFirst q.fifo
  later := by
    intro i e k hi he
    rcases getElem?_takeFirst q.entries i with h | ⟨v, h1, h2⟩
    · exact q.later i e k (h ▸ hi) he
    · rw [h2] at hi
      obtain rfl := Option.some.inj hi
      simp at he

/-- The values taken are some of the values offered, in their order. -/
theorem taken_sublist (q : LatestQueue T) : q.taken.Sublist q.offered :=
  (valuesOf_sublist _ _).trans (List.sublist_append_left _ _)

section Settle

variable (q : LatestQueue T) (v : T)

@[simp] theorem waiting_enqueue : (q.settle v .waiting (.inl rfl)).waiting = q.waiting ++ [v] := by
  simp [waiting, settle, valuesOf_append, valuesOf_cons]

@[simp] theorem waiting_drop : (q.settle v .dropped (.inr rfl)).waiting = q.waiting := by
  simp [waiting, settle, valuesOf_append, valuesOf_cons]

@[simp] theorem taken_enqueue : (q.settle v .waiting (.inl rfl)).taken = q.taken := by
  simp [taken, settle, valuesOf_append, valuesOf_cons]

@[simp] theorem taken_drop : (q.settle v .dropped (.inr rfl)).taken = q.taken := by
  simp [taken, settle, valuesOf_append, valuesOf_cons]

@[simp] theorem lost_enqueue : (q.settle v .waiting (.inl rfl)).lost = q.lost := by
  simp [lost, settle, Fate.isLost]

@[simp] theorem lost_drop : (q.settle v .dropped (.inr rfl)).lost = q.lost + 1 := by
  simp [lost, settle, Fate.isLost]

end Settle

section Evict

variable (q : LatestQueue T)

@[simp] theorem waiting_evict : q.evict.waiting = [] := (valuesOf_replaceAll _ _).1

@[simp] theorem taken_evict : q.evict.taken = q.taken := (valuesOf_replaceAll _ _).2.1

@[simp] theorem lost_evict : q.evict.lost = q.lost + q.waiting.length :=
  (valuesOf_replaceAll _ _).2.2

@[simp] theorem offered_evict : q.evict.offered = q.offered := by
  rw [offered, evict, map_fst_replaceAll, offered]

end Evict

section Take

variable {q : LatestQueue T} {v : T} {ws : List T} (h : q.waiting = v :: ws)
include h

theorem waiting_take : q.take.waiting = ws := (valuesOf_takeFirst q.fifo h).1

theorem taken_take : q.take.taken = q.taken ++ [v] := (valuesOf_takeFirst q.fifo h).2

end Take

@[simp] theorem offered_take (q : LatestQueue T) : q.take.offered = q.offered := by
  rw [offered, take, map_fst_takeFirst, offered]

@[simp] theorem lost_take (q : LatestQueue T) : q.take.lost = q.lost := countP_takeFirst _

/-! ## The system -/

/-- The operations. -/
inductive Op (T : Type*) where
  | offer (v : T)
  | enqueue
  | drop
  | evict
  | take

/-- One offer at a time; only a pending offer is admitted, dropped or replaces others; only a
waiting value is taken. -/
def step (q : LatestQueue T) : Op T → Option (LatestQueue T)
  | .offer v => match q.pending with
    | none => some (q.offer v)
    | some _ => none
  | .enqueue => q.pending.map fun v => q.settle v .waiting (.inl rfl)
  | .drop => q.pending.map fun v => q.settle v .dropped (.inr rfl)
  | .evict => q.pending.map fun _ => q.evict
  | .take => match q.waiting with
    | [] => none
    | _ :: _ => some q.take

/-- All sequences of operations. -/
def latest (T : Type*) : System (LatestQueue T) (Op T) := ⟨fun q => q = .empty, step⟩

end LatestQueue
end Sys
