import UsbRadioPlus.Rust.Decimal

/-!
# Tones, codes and frames of a radio (`core/src/radio_control.rs`, `core/src/station_config.rs`)

Three octal digits and a polarity are a DCS code. `parse_digits` says which numbers, printed with three
digits, are one.
-/

namespace UsbRadioPlus.Core

open Rust

/-! ## Radio control -/

/-- 50 to 300 Hz. -/
structure CtcssTone where
  tenthsHz : UInt16
  inRange : 500 ≤ tenthsHz ∧ tenthsHz ≤ 3000
  deriving DecidableEq

/-- One complete legacy frame. -/
structure RemoteRadio where
  receiveHz : UInt32
  transmitHz : UInt32
  receiveCtcss : Option CtcssTone
  transmitCtcss : Option CtcssTone
  highPower : Bool
  deriving DecidableEq

/-- A frame of the port. -/
inductive ParallelRadioRequest where
  | selectChannel (channel : UInt8)
  | configure (radio : RemoteRadio)
  deriving DecidableEq

/-! ## DCS codes -/

/-- The polarity of a code. -/
inductive DcsPolarity where
  | normal
  | inverted
  deriving DecidableEq, Repr

/-- A code of nine bits. -/
structure DcsCode where
  value : Nat
  polarity : DcsPolarity
  lt : value < 512
  deriving Repr

namespace DcsCode

instance : DecidableEq DcsCode := fun a b =>
  decidable_of_iff (a.value = b.value ∧ a.polarity = b.polarity) (by cases a; cases b; simp)

/-- An octal digit. -/
def octalDigit (c : Char) : Option (Fin 8) :=
  match c with
  | '0' => some 0
  | '1' => some 1
  | '2' => some 2
  | '3' => some 3
  | '4' => some 4
  | '5' => some 5
  | '6' => some 6
  | '7' => some 7
  | _ => none

/-- The polarity that a letter names. -/
def polarityOf (c : Char) : Option DcsPolarity :=
  match c with
  | 'N' | 'n' => some .normal
  | 'I' | 'i' => some .inverted
  | _ => none

/-- `from_str`. -/
def parse : Str → Option DcsCode
  | [a, b, c, p] => do
    let a ← octalDigit a
    let b ← octalDigit b
    let c ← octalDigit c
    let polarity ← polarityOf p
    pure ⟨a.val * 64 + b.val * 8 + c.val, polarity, by omega⟩
  | _ => none

theorem octalDigit_digitChar {d : Nat} (h : d < 10) :
    octalDigit d.digitChar = if h : d < 8 then some ⟨d, h⟩ else none := by
  match d, h with
  | 0, _ | 1, _ | 2, _ | 3, _ | 4, _ | 5, _ | 6, _ | 7, _ | 8, _ | 9, _ => rfl

theorem parse_eq_none {text : Str} (h : text.length ≠ 4) : parse text = none := by
  unfold parse
  split
  · exact absurd rfl h
  · rfl

theorem value_parse_digitChars {a b c : Nat} (ha : a < 10) (hb : b < 10) (hc : c < 10) :
    (parse [a.digitChar, b.digitChar, c.digitChar, 'N']).map (·.value) =
      if a < 8 ∧ b < 8 ∧ c < 8 then some (64 * a + 8 * b + c) else none := by
  simp only [parse, octalDigit_digitChar ha, octalDigit_digitChar hb, octalDigit_digitChar hc]
  by_cases hoctal : a < 8 ∧ b < 8 ∧ c < 8
  · obtain ⟨ha, hb, hc⟩ := hoctal
    simp [ha, hb, hc, polarityOf]
    omega
  · rw [if_neg hoctal]
    by_cases ha : a < 8
    · by_cases hb : b < 8
      · simp [ha, hb, show ¬ c < 8 from fun hc => hoctal ⟨ha, hb, hc⟩]
      · simp [ha, hb]
    · simp [ha]

/-- The value of a printed number as a code. -/
theorem parse_digits (value : Int) (code : Nat) :
    (parse (formatWidth 3 value ++ ['N'])).map (·.value) = some code ↔
      ∃ a b c : Fin 8, value = 100 * a.val + 10 * b.val + c.val ∧
        code = 64 * a.val + 8 * b.val + c.val := by
  rcases Int.lt_or_le value 0 with hneg | hnonneg
  · obtain ⟨text, htext⟩ := formatWidth_of_neg 3 hneg
    have hnone : parse (formatWidth 3 value ++ ['N']) = none := by
      rw [htext, List.cons_append]
      unfold parse
      split
      · next heq =>
        obtain rfl : '-' = _ := (List.cons.inj heq).1
        rfl
      · rfl
    rw [hnone]
    refine ⟨fun h => absurd h (by simp), fun ⟨a, b, c, hvalue, _⟩ => ?_⟩
    omega
  · obtain ⟨n, rfl⟩ := Int.eq_ofNat_of_zero_le hnonneg
    rcases Nat.lt_or_ge n 1000 with hlt | hge
    · obtain ⟨a, b, c, ha, hb, hc, rfl⟩ : ∃ a b c, a < 10 ∧ b < 10 ∧ c < 10 ∧
          n = 100 * a + 10 * b + c := ⟨n / 100, n / 10 % 10, n % 10, by omega⟩
      rw [formatWidth_three ha hb hc, List.cons_append, List.cons_append, List.cons_append,
        List.nil_append, value_parse_digitChars ha hb hc]
      constructor
      · intro h
        split at h
        · next hoctal =>
          obtain rfl := Option.some.inj h
          exact ⟨⟨a, hoctal.1⟩, ⟨b, hoctal.2.1⟩, ⟨c, hoctal.2.2⟩, by push_cast; rfl, rfl⟩
        · exact absurd h (by simp)
      · rintro ⟨a', b', c', hvalue, rfl⟩
        obtain ⟨rfl, rfl, rfl⟩ : a = a' ∧ b = b' ∧ c = c' := by omega
        rw [if_pos ⟨a'.isLt, b'.isLt, c'.isLt⟩]
    · have hlong := lt_length_formatWidth 3 (by omega) hge
      rw [parse_eq_none (by rw [List.length_append, List.length_singleton]; omega)]
      refine ⟨fun h => absurd h (by simp), fun ⟨a, b, c, hvalue, _⟩ => ?_⟩
      omega

end DcsCode
end UsbRadioPlus.Core
