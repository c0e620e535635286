import Mathlib.Data.List.Sort
import Mathlib.Order.Defs.LinearOrder

/-!
# Ordered maps

`BTreeMap K V` is the list of its entries in strictly increasing key order, so two maps with the
same entries are equal and iteration is the list itself. `insert` replaces the value of a key that
is there. `get?_insert` and `get?_foldl_insert` (the last pair of a list decides) are what callers
use; they never look at `entries`.
-/

namespace Rust

variable {K V : Type} [LinearOrder K]

/-- An ordered map. -/
structure BTreeMap (K V : Type) [LinearOrder K] where
  entries : List (K × V)
  sorted : entries.Pairwise (·.1 < ·.1)

namespace BTreeMap

/-- `BTreeMap::new`. -/
def empty : BTreeMap K V := ⟨[], .nil⟩

/-- The entries after an insertion. -/
@[grind =] def insertEntries (k : K) (v : V) : List (K × V) → List (K × V)
  | [] => [(k, v)]
  | e :: es =>
    if k < e.1 then (k, v) :: e :: es
    else if k = e.1 then (k, v) :: es
    else e :: insertEntries k v es

theorem mem_insertEntries {k : K} {v : V} {es : List (K × V)} {e : K × V}
    (h : e ∈ insertEntries k v es) : e = (k, v) ∨ e ∈ es := by
  induction es with
  | nil => exact .inl (by simpa [insertEntries] using h)
  | cons d es ih =>
    rw [insertEntries] at h
    split at h
    · exact List.mem_cons.mp h
    · split at h
      · exact (List.mem_cons.mp h).imp_right (List.mem_cons_of_mem _)
      · rcases List.mem_cons.mp h with rfl | h
        · exact .inr List.mem_cons_self
        · exact (ih h).imp_right (List.mem_cons_of_mem _)

theorem pairwise_insertEntries (k : K) (v : V) {es : List (K × V)}
    (h : es.Pairwise (·.1 < ·.1)) : (insertEntries k v es).Pairwise (·.1 < ·.1) := by
  induction es with
  | nil => simp [insertEntries]
  | cons e es ih =>
    obtain ⟨he, hes⟩ := List.pairwise_cons.mp h
    rw [insertEntries]
    split
    · rename_i hk
      refine List.pairwise_cons.mpr ⟨fun d hd => ?_, h⟩
      rcases List.mem_cons.mp hd with rfl | hd
      · exact hk
      · exact lt_trans hk (he d hd)
    · split
      · rename_i hk
        exact List.pairwise_cons.mpr ⟨fun d hd => by simpa [hk] using he d hd, hes⟩
      · rename_i hlt hne
        refine List.pairwise_cons.mpr ⟨fun d hd => ?_, ih hes⟩
        rcases mem_insertEntries hd with rfl | hd
        · exact lt_of_le_of_ne (not_lt.mp hlt) (Ne.symm hne)
        · exact he d hd

/-- `BTreeMap::insert`. -/
def insert (m : BTreeMap K V) (k : K) (v : V) : BTreeMap K V :=
  ⟨insertEntries k v m.entries, pairwise_insertEntries k v m.sorted⟩

/-- `BTreeMap::get`. -/
def get? (m : BTreeMap K V) (k : K) : Option V :=
  (m.entries.find? fun e => e.1 = k).map (·.2)

@[simp] theorem get?_empty (k : K) : (empty : BTreeMap K V).get? k = none := rfl

theorem find?_insertEntries (k : K) (v : V) (es : List (K × V)) (k' : K)
    (h : es.Pairwise (·.1 < ·.1)) :
    (insertEntries k v es).find? (fun e => e.1 = k') =
      if k' = k then some (k, v) else es.find? fun e => e.1 = k' := by
  induction es with
  | nil =>
    by_cases hk : k' = k
    · simp [insertEntries, hk]
    · simp [insertEntries, hk, Ne.symm hk]
  | cons e es ih =>
    rw [insertEntries]
    split
    · by_cases hk : k' = k
      · simp [hk]
      · simp [List.find?_cons, hk, Ne.symm hk]
    · split
      · rename_i hke
        by_cases hk : k' = k
        · simp [hk]
        · simp [hk, ← hke, Ne.symm hk]
      · rename_i hne
        rw [List.find?_cons, ih (List.pairwise_cons.mp h).2]
        by_cases hk : k' = k
        · subst hk
          simp [Ne.symm hne]
        · rw [if_neg hk, if_neg hk, List.find?_cons]

@[simp] theorem get?_insert (m : BTreeMap K V) (k : K) (v : V) (k' : K) :
    (m.insert k v).get? k' = if k' = k then some v else m.get? k' := by
  unfold get? insert
  rw [find?_insertEntries k v m.entries k' m.sorted]
  split <;> rfl

/-- Inserting pairs one after the other: the last pair of a key decides its value. -/
theorem get?_foldl_insert (ps : List (K × V)) (m : BTreeMap K V) (k : K) :
    (ps.foldl (fun m p => m.insert p.1 p.2) m).get? k =
      (((ps.filter fun p => p.1 = k).getLast?).map (·.2)).or (m.get? k) := by
  induction ps generalizing m with
  | nil => simp
  | cons p ps ih =>
    rw [List.foldl_cons, ih, get?_insert]
    by_cases hk : p.1 = k
    · subst hk
      rcases h : (ps.filter fun q => q.1 = p.1).getLast? with _ | q
      · simp [List.getLast?_cons, h]
      · simp [List.getLast?_cons, h]
    · simp [hk, Ne.symm hk]

/-- Entries with the same keys and values make the same map. -/
theorem get?_eq_some_iff {m : BTreeMap K V} {k : K} {v : V} :
    m.get? k = some v ↔ (k, v) ∈ m.entries := by
  unfold get?
  constructor
  · intro h
    obtain ⟨e, he, rfl⟩ := Option.map_eq_some_iff.mp h
    have hk : e.1 = k := by simpa using List.find?_some he
    have := List.mem_of_find?_eq_some he
    rwa [← hk]
  · intro h
    obtain ⟨a, b, hab⟩ := List.append_of_mem h
    have hs := m.sorted
    rw [hab, List.pairwise_append] at hs
    have hne : ∀ e ∈ a, ¬ e.1 = k := fun e he =>
      ne_of_lt (hs.2.2 e he (k, v) List.mem_cons_self)
    rw [hab, List.find?_append, List.find?_eq_none.mpr (by simpa using hne)]
    simp

theorem ext_get? {m m' : BTreeMap K V} (h : ∀ k, m.get? k = m'.get? k) : m = m' := by
  have hmem (e : K × V) : e ∈ m.entries ↔ e ∈ m'.entries := by
    rw [← get?_eq_some_iff (k := e.1) (v := e.2), h, get?_eq_some_iff]
  have : Std.Irrefl fun e e' : K × V => e.1 < e'.1 := ⟨fun e => lt_irrefl e.1⟩
  have : Std.Antisymm fun e e' : K × V => e.1 < e'.1 :=
    ⟨fun e e' hlt hgt => absurd hgt (lt_asymm hlt)⟩
  obtain ⟨entries, sorted⟩ := m
  obtain ⟨entries', sorted'⟩ := m'
  obtain rfl : entries = entries' := sorted.eq_of_mem_iff sorted' hmem
  rfl

/-- `BTreeMap::extend`. -/
def extend (m m' : BTreeMap K V) : BTreeMap K V :=
  m'.entries.foldl (fun m e => m.insert e.1 e.2) m

/-- The second map decides where it has the key. -/
theorem get?_extend (m m' : BTreeMap K V) (k : K) :
    (m.extend m').get? k = (m'.get? k).or (m.get? k) := by
  rw [extend, get?_foldl_insert]
  congr 1
  cases h : m'.get? k with
  | none =>
    refine Option.map_eq_none_iff.mpr (List.getLast?_eq_none_iff.mpr ?_)
    refine List.filter_eq_nil_iff.mpr fun e he hk => ?_
    rw [← of_decide_eq_true hk, get?_eq_some_iff.mpr he] at h
    cases h
  | some v =>
    cases hlast : (m'.entries.filter fun e => e.1 = k).getLast? with
    | none =>
      have := List.filter_eq_nil_iff.mp (List.getLast?_eq_none_iff.mp hlast)
      exact absurd (decide_eq_true rfl) (this _ (get?_eq_some_iff.mp h))
    | some e =>
      obtain ⟨he, hk⟩ := List.mem_filter.mp (List.mem_of_getLast? hlast)
      rw [← of_decide_eq_true hk, get?_eq_some_iff.mpr he] at h
      exact h

end BTreeMap
end Rust
