import UsbRadioPlus.Driver.RemoteRequest
import UsbRadioPlus.Sys.Checked
import Mathlib.Algebra.Group.Defs
import Mathlib.Algebra.Ring.Int.Defs

/-!
# The scalar of a setting

`scalar` has a value exactly where the entered number is one of the setting (`ScalarValue`), and panics
nowhere: a magnitude below `2 ^ 64` with at most six further decimal places is far below the bounds of
`i128`.
-/

namespace UsbRadioPlus.Driver

open Sys Rust UsbRadioPlus.Core

variable {setting : Setting} {operation : RemoteOperation}

/-- The entered number stands for `v` units of the setting. -/
def Represents (setting : Setting) (operation : RemoteOperation) (v : Int) : Prop :=
  if setting.units = 3 then
    operation.decimalPlaces = 0 ∧ ∃ a b c : Fin 8,
      signedMagnitude operation * 10 ^ setting.decimalPlaces.toNat =
        100 * a.val + 10 * b.val + c.val ∧ v = 64 * a.val + 8 * b.val + c.val
  else v * 10 ^ operation.decimalPlaces.toNat =
    signedMagnitude operation * 10 ^ setting.decimalPlaces.toNat

/-- The operation is one that the setting takes. -/
structure Admits (setting : Setting) (operation : RemoteOperation) : Prop where
  writable : setting.writable = true
  kind : 1 ≤ setting.valueKind ∧ setting.valueKind ≤ 5
  flags : operation.flags &&& ~~~1 = 0
  entered : operation.decimalPlaces ≤ 6
  places : setting.decimalPlaces ≤ 6
  /-- A switch, an unsigned number and a choice have no sign. -/
  signed : operation.flags &&& 1 ≠ 0 →
    setting.valueKind ≠ 1 ∧ setting.valueKind ≠ 2 ∧ setting.valueKind ≠ 5

/-- `v` is the value of the operation for the setting. -/
structure ScalarValue (setting : Setting) (operation : RemoteOperation) (v : Int64) : Prop where
  admits : Admits setting operation
  represents : Represents setting operation v.toInt
  limits : setting.minimum ≤ v ∧ v ≤ setting.maximum
  choices : setting.choices = [] ∨ v ∈ setting.choices

/-! ## Conversions -/

theorem i128_eq {x : Int} (h : -2 ^ 127 ≤ x ∧ x < 2 ^ 127) : i128 x = pure x := if_pos h

theorem yields_tryI64 (x : Int) : Yields (tryI64 x) fun v => v.toInt = x := by
  refine Yields.ite (fun h => Yields.pure fun v => ?_) fun h => Yields.throw fun v hv => h ?_
  · have hround : (Int64.ofInt x).toInt = x := Int64.toInt_ofInt_of_le (by omega) (by omega)
    constructor
    · rintro rfl
      exact hround
    · intro hv
      exact Int64.toInt.inj (hround.trans hv.symm)
  · have hlow := Int64.le_toInt v
    have hhigh := Int64.toInt_lt v
    omega

theorem yields_octal (value : Int64) : Yields (octal value) fun v => ∃ a b c : Fin 8,
    value.toInt = 100 * a.val + 10 * b.val + c.val ∧ v.toInt = 64 * a.val + 8 * b.val + c.val := by
  have hparse := DcsCode.parse_digits value.toInt
  unfold octal
  cases hcode : DcsCode.parse (formatWidth 3 value.toInt ++ ['N']) with
  | none =>
    refine Yields.throw fun v ⟨a, b, c, hvalue, _⟩ => ?_
    have h := (hparse _).mpr ⟨a, b, c, hvalue, rfl⟩
    rw [hcode] at h
    exact absurd h (by simp)
  | some code =>
    obtain ⟨a, b, c, hvalue, hv⟩ := (hparse code.value).mp (by rw [hcode]; rfl)
    have hlt := code.lt
    have hround : (Int64.ofNat code.value).toInt = code.value := Int64.toInt_ofNat_of_lt (by omega)
    refine Yields.pure fun v => ?_
    constructor
    · rintro rfl
      exact ⟨a, b, c, hvalue, by rw [hround, hv]; push_cast; rfl⟩
    · rintro ⟨a', b', c', hvalue', hv'⟩
      obtain ⟨rfl, rfl, rfl⟩ : a = a' ∧ b = b' ∧ c = c' := by omega
      refine Int64.toInt.inj (hround.trans ?_)
      rw [hv', hv]
      push_cast
      rfl

theorem pow_bounds {k : Nat} (h : k ≤ 6) : 0 < (10 : Int) ^ k ∧ (10 : Int) ^ k ≤ 1000000 := by
  have hpos : 0 < 10 ^ k := Nat.pow_pos (by omega)
  have hle : 10 ^ k ≤ 10 ^ 6 := Nat.pow_le_pow_right (by omega) h
  have hcast : ((10 ^ k : Nat) : Int) = 10 ^ k := Int.natCast_pow 10 k
  omega

/-- The value in the decimal places of the setting, where there is one. -/
theorem yields_rescale {value : Int} (hvalue : value.natAbs < 2 ^ 64) {places entered : UInt32}
    (hplaces : places ≤ 6) (hentered : entered ≤ 6) :
    Yields (rescale value places entered) fun w =>
      w * 10 ^ entered.toNat = value * 10 ^ places.toNat := by
  have hplaces : places.toNat ≤ 6 := UInt32.le_iff_toNat_le.mp hplaces
  have hentered : entered.toNat ≤ 6 := UInt32.le_iff_toNat_le.mp hentered
  unfold rescale
  refine Yields.ite (fun h => ?_) fun h => ?_
  · have hle : entered.toNat ≤ places.toNat := UInt32.le_iff_toNat_le.mp h
    obtain ⟨hpos, hbound⟩ := pow_bounds (k := places.toNat - entered.toNat) (by omega)
    have hsplit : (10 : Int) ^ places.toNat =
        10 ^ (places.toNat - entered.toNat) * 10 ^ entered.toNat := by
      rw [← pow_add, Nat.sub_add_cancel hle]
    have hproduct : (value * 10 ^ (places.toNat - entered.toNat)).natAbs < 2 ^ 64 * 1000001 := by
      rw [Int.natAbs_mul]
      exact Nat.mul_lt_mul_of_lt_of_le hvalue (by omega) (by omega)
    rw [i128_eq (by omega), pure_bind, i128_eq (by omega)]
    refine Yields.pure fun w => ?_
    rw [hsplit, ← Int.mul_assoc, Int.mul_eq_mul_right_iff (Int.ne_of_gt (pow_bounds hentered).1)]
    exact eq_comm
  · have hlt : places.toNat < entered.toNat := by
      rw [UInt32.le_iff_toNat_le] at h
      omega
    obtain ⟨hpos, hbound⟩ := pow_bounds (k := entered.toNat - places.toNat) (by omega)
    have hsplit : (10 : Int) ^ entered.toNat =
        10 ^ (entered.toNat - places.toNat) * 10 ^ places.toNat := by
      rw [← pow_add, Nat.sub_add_cancel hlt.le]
    have hexact : ∀ w : Int, w * 10 ^ entered.toNat = value * 10 ^ places.toNat ↔
        value = 10 ^ (entered.toNat - places.toNat) * w := by
      intro w
      rw [hsplit, ← Int.mul_assoc, Int.mul_eq_mul_right_iff (Int.ne_of_gt (pow_bounds hplaces).1), Int.mul_comm w]
      exact eq_comm
    rw [i128_eq (by omega), pure_bind]
    refine Yields.ite (fun hrest => Yields.throwing fun w hw => hrest ?_) fun hrest => ?_
    · exact Int.tmod_eq_zero_of_dvd ⟨w, (hexact w).mp hw⟩
    · obtain ⟨k, rfl⟩ := Int.dvd_of_tmod_eq_zero (not_not.mp hrest)
      have hquotient := Int.mul_tdiv_cancel_left k (Int.ne_of_gt hpos)
      have hk : k.natAbs < 2 ^ 64 := by
        rw [Int.natAbs_mul] at hvalue
        exact (Nat.le_mul_of_pos_left k.natAbs (by omega)).trans_lt hvalue
      dsimp only
      rw [hquotient, i128_eq (by omega)]
      exact Yields.pure fun w => by rw [hexact, Int.mul_eq_mul_left_iff (Int.ne_of_gt hpos)]

theorem natAbs_signedMagnitude (operation : RemoteOperation) : (signedMagnitude operation).natAbs < 2 ^ 64 := by
  have h := operation.magnitude.toNat_lt
  unfold signedMagnitude
  split <;> omega

/-- Within the limits and the choices. -/
def Setting.Allows (setting : Setting) (v : Int64) : Prop :=
  (setting.minimum ≤ v ∧ v ≤ setting.maximum) ∧ (setting.choices = [] ∨ v ∈ setting.choices)

theorem admits_iff : Admits setting operation ↔
    ¬ (!setting.writable || !(decide (1 ≤ setting.valueKind) && decide (setting.valueKind ≤ 5))) =
      true ∧
    ¬ (decide (operation.flags &&& ~~~1 ≠ 0) || decide (6 < operation.decimalPlaces) ||
      decide (6 < setting.decimalPlaces) || decide (operation.flags &&& 1 ≠ 0) &&
        (decide (setting.valueKind = 1) || decide (setting.valueKind = 2) ||
          decide (setting.valueKind = 5))) = true := by
  simp only [Bool.or_eq_true, Bool.and_eq_true, Bool.not_eq_true', Bool.and_eq_false_iff,
    decide_eq_true_eq, decide_eq_false_iff_not, not_or, not_and_or, not_not, UInt32.not_lt,
    Bool.not_eq_false]
  constructor
  · rintro ⟨hwritable, ⟨hlow, hhigh⟩, hflags, hentered, hplaces, hsigned⟩
    refine ⟨⟨hwritable, hlow, hhigh⟩, ⟨⟨hflags, hentered⟩, hplaces⟩, ?_⟩
    by_cases h : operation.flags &&& 1 = 0
    · exact .inl h
    · exact .inr (and_assoc.mpr (hsigned h))
  · rintro ⟨⟨hwritable, hlow, hhigh⟩, ⟨⟨hflags, hentered⟩, hplaces⟩, hsigned⟩
    exact ⟨hwritable, ⟨hlow, hhigh⟩, hflags, hentered, hplaces,
      fun h => and_assoc.mp (hsigned.resolve_left h)⟩

/-- What follows the conversion of the value. -/
theorem yields_allowed (setting : Setting) (value : Int64) :
    Yields (if (decide (value < setting.minimum) || decide (setting.maximum < value) ||
        !setting.choices.isEmpty && !setting.choices.contains value) = true then
      (throw invalid : Prepared PUnit) >>= fun _ => pure value else pure value)
    fun v => value = v ∧ setting.Allows v := by
  have hallows : setting.Allows value ↔ ¬ (decide (value < setting.minimum) ||
      decide (setting.maximum < value) ||
        !setting.choices.isEmpty && !setting.choices.contains value) = true := by
    simp only [Setting.Allows, Bool.or_eq_true, Bool.and_eq_true, Bool.not_eq_true',
      decide_eq_true_eq, not_or, not_and_or, Int64.not_lt, Bool.not_eq_false, List.isEmpty_iff,
      List.contains_iff_mem]
  refine Yields.ite (fun h => Yields.throwing fun v hv => ?_) fun h => Yields.pure fun v => ?_
  · exact hallows.mp (hv.1 ▸ hv.2) h
  · exact ⟨fun hv => ⟨hv, hv ▸ hallows.mpr h⟩, fun hv => hv.1⟩

/-- The scalar is the value of the operation for the setting; where there is none, it fails. -/
theorem scalar_yields (setting : Setting) (operation : RemoteOperation) :
    Yields (scalar setting operation) (ScalarValue setting operation) := by
  unfold scalar
  refine Yields.ite (fun h => Yields.throwing fun v hv => (admits_iff.mp hv.admits).1 h)
    fun hkind => ?_
  refine Yields.ite (fun h => Yields.throwing fun v hv => (admits_iff.mp hv.admits).2 h)
    fun hflags => ?_
  have hadmits : Admits setting operation := admits_iff.mpr ⟨hkind, hflags⟩
  have hmagnitude := natAbs_signedMagnitude operation
  have hvalue : ∀ v, ScalarValue setting operation v ↔
      Represents setting operation v.toInt ∧ setting.Allows v := fun v =>
    ⟨fun h => ⟨h.represents, h.limits, h.choices⟩, fun h => ⟨hadmits, h.1, h.2.1, h.2.2⟩⟩
  rw [i128_eq (by omega), pure_bind]
  refine (yields_rescale hmagnitude hadmits.places hadmits.entered).bind
    (R := fun w v => (if setting.units = 3 then operation.decimalPlaces = 0 ∧ ∃ a b c : Fin 8,
      w = 100 * a.val + 10 * b.val + c.val ∧ v.toInt = 64 * a.val + 8 * b.val + c.val
      else v.toInt = w) ∧ setting.Allows v) (fun w _ => ?_) fun v => ?_
  · refine (yields_tryI64 w).bind (R := fun x v => (if setting.units = 3 then
        operation.decimalPlaces = 0 ∧ ∃ a b c : Fin 8, x.toInt = 100 * a.val + 10 * b.val + c.val ∧
          v.toInt = 64 * a.val + 8 * b.val + c.val
        else v = x) ∧ setting.Allows v) (fun x _ => ?_) fun v => ?_
    · refine Yields.ite (fun hunits => ?_) fun hunits => ?_
      · refine Yields.ite (fun hplaces => Yields.throwing fun v hv => ?_) fun hplaces => ?_
        · rw [if_pos hunits] at hv
          exact hplaces hv.1.1
        · refine (yields_octal x).bind (fun code _ => yields_allowed setting code) fun v => ?_
          rw [if_pos hunits]
          constructor
          · exact fun h => ⟨v, h.1.2, rfl, h.2⟩
          · rintro ⟨code, hcode, rfl, hallows⟩
            exact ⟨⟨not_not.mp hplaces, hcode⟩, hallows⟩
      · rw [pure_bind]
        refine (yields_allowed setting x).imp fun v => ?_
        rw [if_neg hunits, eq_comm (a := x)]
    · by_cases hunits : setting.units = 3
      · simp only [if_pos hunits]
        constructor
        · rintro ⟨⟨hplaces, a, b, c, hw, hv⟩, hallows⟩
          have hround : (Int64.ofInt w).toInt = w := Int64.toInt_ofInt_of_le (by omega) (by omega)
          exact ⟨Int64.ofInt w, hround, ⟨hplaces, a, b, c, hround.trans hw, hv⟩, hallows⟩
        · rintro ⟨x, rfl, h⟩
          exact h
      · simp only [if_neg hunits]
        constructor
        · exact fun h => ⟨v, h.1, rfl, h.2⟩
        · rintro ⟨x, rfl, rfl, hallows⟩
          exact ⟨rfl, hallows⟩
  · rw [hvalue, Represents]
    by_cases hunits : setting.units = 3
    · simp only [if_pos hunits]
      constructor
      · rintro ⟨⟨hplaces, hdigits⟩, hallows⟩
        refine ⟨_, ?_, ⟨hplaces, hdigits⟩, hallows⟩
        rw [hplaces]
        exact Int.mul_one _
      · rintro ⟨w, hw, ⟨hplaces, a, b, c, hdigits, hv⟩, hallows⟩
        rw [hplaces] at hw
        have hw : w = signedMagnitude operation * 10 ^ setting.decimalPlaces.toNat :=
          (Int.mul_one w).symm.trans hw
        exact ⟨⟨hplaces, a, b, c, hw ▸ hdigits, hv⟩, hallows⟩
    · simp only [if_neg hunits]
      constructor
      · exact fun h => ⟨v.toInt, h.1, rfl, h.2⟩
      · rintro ⟨w, hw, rfl, hallows⟩
        exact ⟨hw, hallows⟩

end UsbRadioPlus.Driver
