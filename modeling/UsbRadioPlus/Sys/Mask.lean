import Mathlib.Data.BitVec

/-!
# Bit masks as sets of places

A mask is the set of the places that it has a bit at. `Apart` and `Within` are stated as a program
tests them, with one `&&&`; `apart_iff` and `within_iff` give the bits, and the operations of
`BitVec` on single bits do the rest.
-/

namespace Sys
namespace Mask

variable {w : Nat} {x y z : BitVec w}

/-- The masks have no place in common. -/
def Apart (x y : BitVec w) : Prop := x &&& y = 0#w

/-- Every place of the first mask is one of the second. -/
def Within (x y : BitVec w) : Prop := x &&& ~~~y = 0#w

instance : Decidable (Apart x y) := inferInstanceAs (Decidable (_ = _))
instance : Decidable (Within x y) := inferInstanceAs (Decidable (_ = _))

theorem apart_iff : Apart x y ↔ ∀ i, x.getLsbD i = true → y.getLsbD i = false := by
  constructor
  · intro h i hx
    have hi : (x &&& y).getLsbD i = (0#w).getLsbD i := congrArg (BitVec.getLsbD · i) h
    rw [BitVec.getLsbD_and, BitVec.getLsbD_zero, hx, Bool.true_and] at hi
    exact hi
  · intro h
    refine BitVec.eq_of_getLsbD_eq fun i _ => ?_
    rw [BitVec.getLsbD_and, BitVec.getLsbD_zero]
    cases hx : x.getLsbD i with
    | false => rfl
    | true => exact h i hx

theorem within_iff : Within x y ↔ ∀ i, x.getLsbD i = true → y.getLsbD i = true := by
  constructor
  · intro h i hx
    have hi : (x &&& ~~~y).getLsbD i = (0#w).getLsbD i := congrArg (BitVec.getLsbD · i) h
    rw [BitVec.getLsbD_and, BitVec.getLsbD_not, BitVec.getLsbD_zero, hx, Bool.true_and,
      decide_eq_true (BitVec.lt_of_getLsbD hx), Bool.true_and, Bool.not_eq_false'] at hi
    exact hi
  · intro h
    refine BitVec.eq_of_getLsbD_eq fun i _ => ?_
    rw [BitVec.getLsbD_and, BitVec.getLsbD_not, BitVec.getLsbD_zero]
    cases hx : x.getLsbD i with
    | false => rfl
    | true => rw [h i hx, Bool.not_true, Bool.and_false, Bool.and_false]

theorem apart_zero : Apart 0#w x := BitVec.zero_and

theorem within_zero : Within 0#w x := BitVec.zero_and

theorem within_refl : Within x x := within_iff.mpr fun _ h => h

theorem Apart.symm (h : Apart x y) : Apart y x := (BitVec.and_comm y x).trans h

theorem Within.trans (h : Within x y) (h' : Within y z) : Within x z := by
  rw [within_iff] at *
  exact fun i hi => h' i (h i hi)

/-- What lies apart from a mask lies apart from its parts. -/
theorem Apart.mono (h : Apart x y) (h' : Within z y) : Apart x z := by
  rw [apart_iff, within_iff] at *
  intro i hi
  by_contra hz
  exact absurd ((h i hi).symm.trans (h' i (by simpa using hz))) (by simp)

theorem Apart.mono_left (h : Apart x y) (h' : Within z x) : Apart z y := (h.symm.mono h').symm

theorem apart_or (h : Apart x y) (h' : Apart x z) : Apart x (y ||| z) := by
  rw [apart_iff] at *
  intro i hi
  simp [h i hi, h' i hi]

theorem within_or_left : Within x (x ||| y) := within_iff.mpr fun i hi => by simp [hi]

theorem within_or_right : Within y (x ||| y) := within_iff.mpr fun i hi => by simp [hi]

theorem within_and_left : Within (x &&& y) x := within_iff.mpr fun i hi => by
  rw [BitVec.getLsbD_and, Bool.and_eq_true] at hi
  exact hi.1

theorem Within.getLsbD_eq_false (h : Within x y) {i : Nat} (hi : y.getLsbD i = false) :
    x.getLsbD i = false := by
  by_contra hx
  exact absurd ((within_iff.mp h i (by simpa using hx)).symm.trans hi) (by simp)

theorem within_and_right : Within (x &&& y) y := within_iff.mpr fun i hi => by
  rw [BitVec.getLsbD_and, Bool.and_eq_true] at hi
  exact hi.2

/-- A place outside the mask keeps its bit. -/
theorem getLsbD_clear {i : Nat} (h : y.getLsbD i = false) :
    (x &&& ~~~y).getLsbD i = x.getLsbD i := by
  rw [BitVec.getLsbD_and, BitVec.getLsbD_not, h]
  cases hx : x.getLsbD i with
  | false => rfl
  | true => simp [BitVec.lt_of_getLsbD hx]

theorem getLsbD_fill {i : Nat} (h : y.getLsbD i = false) :
    (x ||| y).getLsbD i = x.getLsbD i := by
  rw [BitVec.getLsbD_or, h, Bool.or_false]

/-- A part of `z` lies apart from what lies apart in `z`. -/
theorem apart_of_within (h : Within x z) (h' : Apart x (y &&& z)) : Apart x y := by
  rw [within_iff] at h
  rw [apart_iff] at *
  intro i hi
  simpa [h i hi] using h' i hi

/-- What is cleared lies apart. -/
theorem apart_clear (x y : BitVec w) : Apart (x &&& ~~~y) y := apart_iff.mpr fun i hi => by
  simp only [BitVec.getLsbD_and, BitVec.getLsbD_not, Bool.and_eq_true, Bool.not_eq_true'] at hi
  exact hi.2.2

/-! ## Masks that are gathered from places -/

section
variable {ι : Type} {bit : ι → BitVec w} {p q : ι → Bool} {l : List ι}

/-- The bits of the members with `p`. -/
def gather (bit : ι → BitVec w) (p : ι → Bool) (l : List ι) : BitVec w :=
  l.foldl (fun mask i => if p i then mask ||| bit i else mask) 0#w

theorem getLsbD_gather (k : Nat) :
    (gather bit p l).getLsbD k = l.any fun i => p i && (bit i).getLsbD k := by
  have hacc : ∀ acc : BitVec w, (l.foldl (fun mask i => if p i then mask ||| bit i else mask)
      acc).getLsbD k = (acc.getLsbD k || l.any fun i => p i && (bit i).getLsbD k) := by
    induction l with
    | nil => simp
    | cons i l ih =>
      intro acc
      rw [List.foldl_cons, ih, List.any_cons]
      cases p i <;> simp [Bool.or_assoc]
  rw [gather, hacc, BitVec.getLsbD_zero, Bool.false_or]

/-- Members with `p` and members with `q` have no place in common. -/
theorem apart_gather (h : ∀ i ∈ l, ∀ j ∈ l, p i → q j → Apart (bit i) (bit j)) :
    Apart (gather bit p l) (gather bit q l) := by
  refine apart_iff.mpr fun k hk => ?_
  simp only [getLsbD_gather, List.any_eq_true, Bool.and_eq_true] at hk
  obtain ⟨i, hi, hp, hbit⟩ := hk
  simp only [getLsbD_gather, List.any_eq_false, Bool.and_eq_true, not_and]
  intro j hj hq
  simpa using apart_iff.mp (h i hi j hj hp hq) k hbit

theorem within_gather (h : ∀ i ∈ l, p i → q i) : Within (gather bit p l) (gather bit q l) := by
  refine within_iff.mpr fun k hk => ?_
  simp only [getLsbD_gather, List.any_eq_true, Bool.and_eq_true] at hk ⊢
  obtain ⟨i, hi, hp, hbit⟩ := hk
  exact ⟨i, hi, h i hi hp, hbit⟩

/-- Every place of the mask is one of a member. -/
theorem gather_within {x : BitVec w} (h : ∀ i ∈ l, p i → Within (bit i) x) :
    Within (gather bit p l) x := by
  refine within_iff.mpr fun k hk => ?_
  simp only [getLsbD_gather, List.any_eq_true, Bool.and_eq_true] at hk
  obtain ⟨i, hi, hp, hbit⟩ := hk
  exact within_iff.mp (h i hi hp) k hbit

end

/-! ## A field above its flags -/

/-- A mask below `2 ^ k` has no place from `k` on. -/
theorem getLsbD_low {k : Nat} (h : x.toNat < 2 ^ k) (i : Nat) : x.getLsbD (k + i) = false :=
  Nat.testBit_lt_two_pow (Nat.lt_of_lt_of_le h (Nat.pow_le_pow_right (by omega) (by omega)))

/-- The field keeps its value when flags below it are set. -/
theorem fill_ushiftRight {k : Nat} (h : y.toNat < 2 ^ k) : (x ||| y) >>> k = x >>> k := by
  refine BitVec.eq_of_getLsbD_eq fun i _ => ?_
  rw [BitVec.getLsbD_ushiftRight, BitVec.getLsbD_ushiftRight, getLsbD_fill (getLsbD_low h i)]

/-- The field keeps its value when flags below it are cleared. -/
theorem clear_ushiftRight {k : Nat} (h : y.toNat < 2 ^ k) : (x &&& ~~~y) >>> k = x >>> k := by
  refine BitVec.eq_of_getLsbD_eq fun i _ => ?_
  rw [BitVec.getLsbD_ushiftRight, BitVec.getLsbD_ushiftRight, getLsbD_clear (getLsbD_low h i)]

end Mask
end Sys
