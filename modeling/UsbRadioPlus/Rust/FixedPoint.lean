import UsbRadioPlus.Rust.Float

/-!
# Numbers with a fixed number of places

`fixed` is the format `{:.places}` of an `f64`: the exact value, rounded to the nearest decimal with that
many places, ties to even. A number has its sign even where its digits are zeros.
-/

namespace Rust
namespace F64

/-- `n / d` with `places` digits behind the point. -/
def fixedDigits (places n d : Nat) : Str :=
  let digits := Nat.toDigits 10 (roundHalfEven (n * 10 ^ places) d)
  let padded := List.replicate (places + 1 - digits.length) '0' ++ digits
  let whole := padded.length - places
  padded.take whole ++ (if places = 0 then [] else '.' :: padded.drop whole)

/-- `{:.places}` -/
def fixed (places : Nat) : F64 → Str
  | .nan => "NaN".toList
  | .infinite negative => if negative then "-inf".toList else "inf".toList
  | .negZero => '-' :: fixedDigits places 0 1
  | .finite value =>
    (if value < 0 then ['-'] else []) ++ fixedDigits places value.num.natAbs value.den

/-- A character of a formatted number. -/
def isFixedChar (c : Char) : Bool := c.isAlphanum || c == '.' || c == '-'

theorem all_toDigits (n : Nat) : (Nat.toDigits 10 n).all isFixedChar = true := by
  refine List.all_eq_true.mpr fun c hc => ?_
  have hdigit := Nat.isDigit_of_mem_toDigits (by decide) (by decide) hc
  simp [isFixedChar, Char.isAlphanum, hdigit]

theorem all_fixedDigits (places n d : Nat) : (fixedDigits places n d).all isFixedChar = true := by
  have hpadded : ∀ c ∈ List.replicate (places + 1 - (Nat.toDigits 10
        (roundHalfEven (n * 10 ^ places) d)).length) '0' ++
      Nat.toDigits 10 (roundHalfEven (n * 10 ^ places) d), isFixedChar c = true := by
    intro c hc
    rcases List.mem_append.mp hc with h | h
    · rw [List.eq_of_mem_replicate h]
      decide
    · exact List.all_eq_true.mp (all_toDigits _) c h
  rw [fixedDigits, List.all_append, Bool.and_eq_true]
  refine ⟨List.all_eq_true.mpr fun c hc => hpadded c (List.mem_of_mem_take hc), ?_⟩
  split
  · rfl
  · rw [List.all_cons, Bool.and_eq_true]
    exact ⟨by decide, List.all_eq_true.mpr fun c hc => hpadded c (List.mem_of_mem_drop hc)⟩

theorem all_fixed (places : Nat) (x : F64) : (fixed places x).all isFixedChar = true := by
  cases x with
  | nan => exact (by decide : "NaN".toList.all isFixedChar = true)
  | infinite negative =>
    cases negative with
    | true => exact (by decide : "-inf".toList.all isFixedChar = true)
    | false => exact (by decide : "inf".toList.all isFixedChar = true)
  | negZero =>
    rw [fixed, List.all_cons, Bool.and_eq_true]
    exact ⟨by decide, all_fixedDigits _ _ _⟩
  | finite value =>
    rw [fixed, List.all_append, Bool.and_eq_true]
    refine ⟨?_, all_fixedDigits _ _ _⟩
    split
    · decide
    · rfl

example : fixed 3 (-0.0625) = "-0.062".toList ∧ fixed 2 48000 = "48000.00".toList := by decide +kernel

end F64
end Rust
