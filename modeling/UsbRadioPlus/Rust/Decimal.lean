import UsbRadioPlus.Rust.Str

/-!
# Decimal numbers in text

`formatWidth` is the zero-padded format of an integer, and `fromStrRadix` reads an unsigned one. Checked arithmetic of `i128` is the arithmetic
of the integers where it does not panic.
-/

namespace Rust

/-- `{value:0width}`: the sign counts. -/
def formatWidth (width : Nat) (value : Int) : Str :=
  let sign := if value < 0 then ['-'] else []
  let digits := Nat.toDigits 10 value.natAbs
  sign ++ List.replicate (width - (sign.length + digits.length)) '0' ++ digits

/-- `char::to_digit` -/
def toDigit (radix : Nat) (c : Char) : Option Nat :=
  let value :=
    if c.isDigit then some (c.toNat - '0'.toNat)
    else if c.isLower then some (c.toNat - 'a'.toNat + 10)
    else if c.isUpper then some (c.toNat - 'A'.toNat + 10)
    else none
  value.filter (· < radix)

/-- The value of digits behind a prefix of value `n`. -/
def digitsFrom (radix : Nat) : (n : Nat) → Str → Option Nat
  | n, [] => some n
  | n, c :: rest => (toDigit radix c).bind fun d => digitsFrom radix (n * radix + d) rest

/-- `from_str_radix` of an unsigned type with the values below `limit`. -/
def fromStrRadix (radix limit : Nat) (text : Str) : Option Nat :=
  let digits := match text with
    | '+' :: rest => rest
    | _ => text
  if digits = [] then none else (digitsFrom radix 0 digits).filter (· < limit)

theorem formatWidth_of_neg (width : Nat) {value : Int} (h : value < 0) :
    ∃ text, formatWidth width value = '-' :: text := by
  refine ⟨List.replicate (width - (1 + (Nat.toDigits 10 value.natAbs).length)) '0' ++
    Nat.toDigits 10 value.natAbs, ?_⟩
  simp [formatWidth, if_pos h]

theorem formatWidth_natCast (width n : Nat) : formatWidth width n =
    List.replicate (width - (Nat.toDigits 10 n).length) '0' ++ Nat.toDigits 10 n := by
  have h : ¬ ((n : Int) < 0) := by omega
  simp only [formatWidth, if_neg h, Int.natAbs_natCast, List.nil_append, List.length_nil,
    Nat.zero_add]

/-- Three digits. -/
theorem formatWidth_three {a b c : Nat} (ha : a < 10) (hb : b < 10) (hc : c < 10) :
    formatWidth 3 (100 * a + 10 * b + c : Nat) = [a.digitChar, b.digitChar, c.digitChar] := by
  rw [formatWidth_natCast]
  have hten : 1 < 10 := by omega
  rcases Nat.eq_zero_or_pos a with rfl | hpos
  · rcases Nat.eq_zero_or_pos b with rfl | hpos
    · have h : 100 * 0 + 10 * 0 + c = c := by omega
      rw [h, Nat.toDigits_of_lt_base hc]
      rfl
    · have h : 100 * 0 + 10 * b + c = 10 * b + c := by omega
      rw [h, ← Nat.toDigits_append_toDigits hten hpos hc, Nat.toDigits_of_lt_base hb,
        Nat.toDigits_of_lt_base hc]
      rfl
  · have h : 100 * a + 10 * b + c = 10 * (10 * a + b) + c := by omega
    rw [h, ← Nat.toDigits_append_toDigits hten (by omega) hc,
      ← Nat.toDigits_append_toDigits hten hpos hb, Nat.toDigits_of_lt_base ha,
      Nat.toDigits_of_lt_base hb, Nat.toDigits_of_lt_base hc]
    rfl

/-- More digits than the width. -/
theorem lt_length_formatWidth (width : Nat) {n : Nat} (hwidth : 0 < width) (h : 10 ^ width ≤ n) :
    width < (formatWidth width n).length := by
  have hlength : ¬ (Nat.toDigits 10 n).length ≤ width := by
    rw [Nat.length_toDigits_le_iff (by omega) hwidth]
    omega
  rw [formatWidth_natCast, List.length_append]
  omega

end Rust
