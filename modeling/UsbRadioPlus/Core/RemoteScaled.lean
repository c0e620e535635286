import Mathlib.Algebra.Order.Field.Rat
import Mathlib.Tactic.FieldSimp
import UsbRadioPlus.Rust.Checked
import UsbRadioPlus.Rust.Radix
import UsbRadioPlus.Sys.Checked

/-!
# Exact decimal scaling (`rust/core/src/remote_configuration.rs`)

`scaled` reads a decimal number as a number of units of `10 ^ -places`. With at most nine places it panics
nowhere and has a value exactly where the text stands for one (`IsScaled`).
-/

namespace UsbRadioPlus
namespace Core

open Sys Rust Rust.Str

/-- The values of a `u32`. -/
def U32_LIMIT : Nat := 2 ^ 32

/-- `ok()?` and the operator behind a checked operation. -/
def orNone {α : Type} (a : Option α) : ExceptT Unit Option α :=
  match a with
  | some a => pure a
  | none => throw ()

/-- A plain operation panics. -/
def orPanic {α : Type} (a : Option α) : ExceptT Unit Option α := ExceptT.mk (a.map .ok)

/-- `10_u32.pow(exponent)` -/
def pow10 (exponent : Nat) : ExceptT Unit Option Nat :=
  orPanic (if 10 ^ exponent < U32_LIMIT then some (10 ^ exponent) else none)

/-- The second summand of `scaled`. -/
def scaledFraction (fraction : Str) (places : Nat) : ExceptT Unit Option Nat :=
  if fraction = [] then pure 0
  else do
    let units ← orNone (fromStrRadix 10 U32_LIMIT fraction)
    let exponent ← orPanic (checkedSub places (byteLen fraction))
    let scale ← pow10 exponent
    orNone (checkedMul U32_LIMIT units scale)

/-- `scaled` behind `split_once`. -/
def scaledParts (whole fraction : Str) (places : Nat) : ExceptT Unit Option Nat :=
  if whole = [] ∨ ¬ whole.all Char.isDigit ∨ places < byteLen fraction ∨
      ¬ fraction.all Char.isDigit then throw ()
  else do
    let units ← orNone (fromStrRadix 10 U32_LIMIT whole)
    let scale ← pow10 places
    let units ← orNone (checkedMul U32_LIMIT units scale)
    let rest ← scaledFraction fraction places
    orNone (checkedAdd U32_LIMIT units rest)

/-- `scaled`: a number with at most `places` decimals, in units of the last one. -/
def scaled (value : Str) (places : Nat) : ExceptT Unit Option Nat :=
  let (whole, fraction) := (splitOnce '.' value).getD (value, [])
  scaledParts whole fraction places

/-- Digits, and behind a point at most `places` more; `n` is the number times ten to the places. -/
def IsScaled (value : Str) (places n : Nat) : Prop :=
  ∃ whole fraction : Str, (value = whole ∧ fraction = [] ∨ value = whole ++ '.' :: fraction) ∧
    whole ≠ [] ∧ (∀ c ∈ whole, c.isDigit) ∧ (∀ c ∈ fraction, c.isDigit) ∧ fraction.length ≤ places ∧
    (n : Rat) = (radixValue 10 whole + radixValue 10 fraction / 10 ^ fraction.length) * 10 ^ places ∧
    n < U32_LIMIT

theorem yields_orNone {α : Type} {a : Option α} : Yields (orNone a) fun b => a = some b := by
  cases a with
  | none => exact Yields.throw fun b h => (nomatch h)
  | some a => exact Yields.pure fun b => by rw [Option.some.injEq]

theorem yields_orPanic {α : Type} {a : Option α} {b : α} (h : a = some b) :
    Yields (orPanic a) fun c => c = b := by
  subst h
  exact Yields.pure fun c => eq_comm

theorem yields_pow10 {exponent : Nat} (h : exponent ≤ 9) :
    Yields (pow10 exponent) fun n => n = 10 ^ exponent := by
  have hlt : 10 ^ exponent < U32_LIMIT :=
    (Nat.pow_le_pow_right (by omega : 0 < 10) h).trans_lt (by decide)
  exact yields_orPanic (if_pos hlt)

theorem byteLen_digits {text : Str} (h : text.all Char.isDigit = true) : byteLen text = text.length := by
  induction text with
  | nil => rfl
  | cons c text ih =>
    rw [List.all_cons, Bool.and_eq_true] at h
    have hsize : c.utf8Size = 1 := by
      have hdigit := h.1
      simp only [Char.isDigit, Bool.and_eq_true, decide_eq_true_eq] at hdigit
      have hle : c.val ≤ 127 := UInt32.le_trans hdigit.2 (by decide : (57 : UInt32) ≤ 127)
      exact if_pos hle
    have hrest := ih h.2
    simp only [byteLen, List.map_cons, List.sum_cons, List.length_cons] at hrest ⊢
    omega

theorem head?_digits {text : Str} (h : text.all Char.isDigit = true) : text.head? ≠ some '+' := by
  intro hplus
  have hdigit := List.all_eq_true.mp h '+' (List.mem_of_mem_head? hplus)
  exact absurd hdigit (by decide)

/-- The number of a text of digits, where it fits. -/
theorem yields_parse {text : Str} (h : text.all Char.isDigit = true) (hnil : text ≠ []) :
    Yields (orNone (fromStrRadix 10 U32_LIMIT text)) fun n =>
      radixValue 10 text = n ∧ n < U32_LIMIT := by
  refine yields_orNone.imp fun n => ?_
  rw [fromStrRadix_eq_some_iff (head?_digits h), and_iff_right hnil,
    and_iff_right (radixDigits_of_isDigit h)]

/-- A number times a power of ten, where it fits. -/
theorem yields_scale {places : Nat} {n : Nat} :
    Yields (orNone (checkedMul U32_LIMIT n (10 ^ places))) fun m =>
      n * 10 ^ places = m ∧ m < U32_LIMIT := by
  refine yields_orNone.imp fun m => ?_
  rw [checkedMul_eq_some_iff]
  exact ⟨fun ⟨hlt, heq⟩ => ⟨heq, heq ▸ hlt⟩, fun ⟨heq, hlt⟩ => ⟨heq ▸ hlt, heq⟩⟩

theorem le_mul_pow (n k : Nat) : n ≤ n * 10 ^ k := Nat.le_mul_of_pos_right n (Nat.pow_pos (by omega))

theorem yields_scaledFraction {fraction : Str} {places : Nat} (h : fraction.all Char.isDigit = true)
    (hlength : fraction.length ≤ places) (hplaces : places ≤ 9) :
    Yields (scaledFraction fraction places) fun m =>
      radixValue 10 fraction * 10 ^ (places - fraction.length) = m ∧ m < U32_LIMIT := by
  refine Yields.ite (fun hnil => Yields.pure fun m => ?_) fun hnil => ?_
  · subst hnil
    rw [radixValue, radixValueFrom, List.foldl_nil, Nat.zero_mul]
    exact ⟨fun heq => ⟨heq, heq ▸ by decide⟩, And.left⟩
  · have hexponent : checkedSub places (byteLen fraction) = some (places - fraction.length) := by
      rw [byteLen_digits h, checkedSub_of_le hlength]
    refine (yields_parse h hnil).bind (R := fun n m => n * 10 ^ (places - fraction.length) = m ∧
      m < U32_LIMIT) (fun n _ => ?_) fun m => ?_
    · exact (yields_orPanic hexponent).bindTo ((yields_pow10 (by omega)).bindTo yields_scale)
    · constructor
      · rintro ⟨rfl, hlt⟩
        exact ⟨_, ⟨rfl, (le_mul_pow _ _).trans_lt hlt⟩, rfl, hlt⟩
      · rintro ⟨n, ⟨rfl, -⟩, hm⟩
        exact hm

/-- What the two parts stand for, where it fits. -/
theorem yields_parts (whole fraction : Str) {places : Nat} (hplaces : places ≤ 9) :
    Yields (scaledParts whole fraction places) fun n =>
      (whole ≠ [] ∧ whole.all Char.isDigit = true ∧ fraction.all Char.isDigit = true ∧
        fraction.length ≤ places) ∧
      radixValue 10 whole * 10 ^ places +
        radixValue 10 fraction * 10 ^ (places - fraction.length) = n ∧ n < U32_LIMIT := by
  refine Yields.ite (fun h => Yields.throw fun n ⟨⟨hnil, hwhole, hfraction, hlength⟩, _⟩ => ?_)
    fun h => ?_
  · rcases h with h | h | h | h
    · exact hnil h
    · exact h hwhole
    · exact absurd hlength (Nat.not_le.mpr (byteLen_digits hfraction ▸ h))
    · exact h hfraction
  · simp only [not_or, not_not, Nat.not_lt] at h
    obtain ⟨hnil, hwhole, hbytes, hfraction⟩ := h
    have hlength : fraction.length ≤ places := byteLen_digits hfraction ▸ hbytes
    have hparts : whole ≠ [] ∧ whole.all Char.isDigit = true ∧ fraction.all Char.isDigit = true ∧
        fraction.length ≤ places := ⟨hnil, hwhole, hfraction, hlength⟩
    simp only [and_iff_right hparts]
    refine (yields_parse hwhole hnil).bind (R := fun units n => units * 10 ^ places +
        radixValue 10 fraction * 10 ^ (places - fraction.length) = n ∧ n < U32_LIMIT)
      (fun units _ => (yields_pow10 hplaces).bindTo ?_) fun n => ?_
    · refine yields_scale.bind (R := fun scaled n => scaled +
          radixValue 10 fraction * 10 ^ (places - fraction.length) = n ∧ n < U32_LIMIT)
        (fun scaled _ => ?_) fun n => ?_
      · refine (yields_scaledFraction hfraction hlength hplaces).bind
          (R := fun rest n => scaled + rest = n ∧ n < U32_LIMIT) (fun rest _ => ?_) fun n => ?_
        · refine yields_orNone.imp fun n => ?_
          rw [checkedAdd_eq_some_iff]
          exact ⟨fun ⟨hlt, heq⟩ => ⟨heq, heq ▸ hlt⟩, fun ⟨heq, hlt⟩ => ⟨heq ▸ hlt, heq⟩⟩
        · constructor
          · rintro ⟨rfl, hlt⟩
            exact ⟨_, ⟨rfl, (Nat.le_add_left _ _).trans_lt hlt⟩, rfl, hlt⟩
          · rintro ⟨rest, ⟨rfl, -⟩, hn⟩
            exact hn
      · constructor
        · rintro ⟨rfl, hlt⟩
          exact ⟨_, ⟨rfl, (Nat.le_add_right _ _).trans_lt hlt⟩, rfl, hlt⟩
        · rintro ⟨scaled, ⟨rfl, -⟩, hn⟩
          exact hn
    · constructor
      · rintro ⟨rfl, hlt⟩
        exact ⟨_, ⟨rfl, ((le_mul_pow _ _).trans (Nat.le_add_right _ _)).trans_lt hlt⟩, rfl, hlt⟩
      · rintro ⟨units, ⟨rfl, -⟩, hn⟩
        exact hn

/-- The number of units is the decimal number times ten to the places. -/
theorem units_eq_iff {whole fraction : Str} {places n : Nat} (hlength : fraction.length ≤ places) :
    radixValue 10 whole * 10 ^ places +
        radixValue 10 fraction * 10 ^ (places - fraction.length) = n ↔
      (n : Rat) =
        (radixValue 10 whole + radixValue 10 fraction / 10 ^ fraction.length) * 10 ^ places := by
  have hpow : (10 : Rat) ^ places = 10 ^ fraction.length * 10 ^ (places - fraction.length) := by
    rw [← pow_add, Nat.add_sub_cancel' hlength]
  have hne : (10 : Rat) ^ fraction.length ≠ 0 := pow_ne_zero _ (by norm_num)
  have hunits : ((radixValue 10 whole * 10 ^ places +
      radixValue 10 fraction * 10 ^ (places - fraction.length) : Nat) : Rat) =
        (radixValue 10 whole + radixValue 10 fraction / 10 ^ fraction.length) * 10 ^ places := by
    push_cast
    rw [hpow]
    field_simp
  rw [← hunits, Nat.cast_inj, eq_comm]

/-- A text has one reading as digits and digits behind a point. -/
theorem parts_eq {value whole fraction : Str} (hwhole : ∀ c ∈ whole, c.isDigit = true)
    (h : value = whole ∧ fraction = [] ∨ value = whole ++ '.' :: fraction) :
    (splitOnce '.' value).getD (value, []) = (whole, fraction) := by
  have hpoint : '.' ∉ whole := fun hmem => absurd (hwhole '.' hmem) (by decide)
  rcases h with ⟨rfl, rfl⟩ | rfl
  · rw [splitOnce_eq_none_iff.mpr hpoint, Option.getD_none]
  · rw [splitOnce_of_notMem hpoint, Option.getD_some]

/-- The parts of a text make it up. -/
theorem eq_parts (value : Str) :
    value = ((splitOnce '.' value).getD (value, [])).1 ∧
        ((splitOnce '.' value).getD (value, [])).2 = [] ∨
      value = ((splitOnce '.' value).getD (value, [])).1 ++
        '.' :: ((splitOnce '.' value).getD (value, [])).2 := by
  cases h : splitOnce '.' value with
  | none => exact .inl ⟨rfl, rfl⟩
  | some parts => exact .inr (splitOnce_eq_some_iff.mp h).1

/-- `scaled` panics on no text, and has exactly the value that the text stands for. -/
theorem scaled_exact (value : Str) {places : Nat} (hplaces : places ≤ 9) :
    Yields (scaled value places) (IsScaled value places) := by
  have hyields := yields_parts ((splitOnce '.' value).getD (value, [])).1
    ((splitOnce '.' value).getD (value, [])).2 hplaces
  refine hyields.imp fun n => ?_
  constructor
  · rintro ⟨⟨hnil, hwhole, hfraction, hlength⟩, hunits, hlt⟩
    exact ⟨_, _, eq_parts value, hnil, List.all_eq_true.mp hwhole, List.all_eq_true.mp hfraction,
      hlength, (units_eq_iff hlength).mp hunits, hlt⟩
  · rintro ⟨whole, fraction, htext, hnil, hwhole, hfraction, hlength, hunits, hlt⟩
    rw [parts_eq hwhole htext]
    exact ⟨⟨hnil, List.all_eq_true.mpr hwhole, List.all_eq_true.mpr hfraction, hlength⟩,
      (units_eq_iff hlength).mpr hunits, hlt⟩

/-- `12.5` with one place, and a number that does not fit. -/
theorem scaled_exact_125 : Yields (scaled "12.5".toList 1) (IsScaled "12.5".toList 1) ∧
    (scaled "12.5".toList 1).run = some (.ok 125) ∧
    (scaled "429496730".toList 1).run = some (.error ()) :=
  ⟨scaled_exact "12.5".toList (by decide), by decide, by decide⟩

end Core
end UsbRadioPlus
