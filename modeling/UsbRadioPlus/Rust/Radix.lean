import UsbRadioPlus.Rust.Decimal

/-!
# What digits stand for

`digitsFrom` and `fromStrRadix` have a value exactly on texts of digits (`digitsFrom_eq_some_iff`,
`fromStrRadix_eq_some_iff`), and that is `radixValue`.
-/

namespace Rust

/-- The number behind a number `n` and more digits. -/
def radixValueFrom (radix n : Nat) (text : Str) : Nat :=
  text.foldl (fun n c => n * radix + (toDigit radix c).getD 0) n

/-- The number of the digits of a text. -/
def radixValue (radix : Nat) (text : Str) : Nat := radixValueFrom radix 0 text

/-- Every character is a digit. -/
def RadixDigits (radix : Nat) (text : Str) : Prop := ∀ c ∈ text, (toDigit radix c).isSome

instance (radix : Nat) (text : Str) : Decidable (RadixDigits radix text) :=
  inferInstanceAs (Decidable (∀ c ∈ text, _))

variable {radix limit n v : Nat} {text : Str}

theorem digitsFrom_eq_some_iff :
    digitsFrom radix n text = some v ↔ RadixDigits radix text ∧ radixValueFrom radix n text = v := by
  induction text generalizing n with
  | nil =>
    rw [digitsFrom, Option.some.injEq]
    exact (and_iff_right fun c hc => (nomatch hc)).symm
  | cons c text ih =>
    rw [digitsFrom]
    cases hc : toDigit radix c with
    | none =>
      refine iff_of_false (fun h => (nomatch h)) fun h => ?_
      have hdigit := h.1 c List.mem_cons_self
      rw [hc] at hdigit
      cases hdigit
    | some d =>
      rw [Option.bind_some, ih]
      refine and_congr ?_ ?_
      · rw [RadixDigits, RadixDigits, List.forall_mem_cons, hc]
        exact (and_iff_right rfl).symm
      · rw [radixValueFrom, radixValueFrom, List.foldl_cons, hc, Option.getD_some]

/-- A text without a sign. -/
theorem fromStrRadix_eq_some_iff (h : text.head? ≠ some '+') :
    fromStrRadix radix limit text = some v ↔
      text ≠ [] ∧ RadixDigits radix text ∧ radixValue radix text = v ∧ v < limit := by
  have hfrom : fromStrRadix radix limit text =
      if text = [] then none else (digitsFrom radix 0 text).filter (· < limit) := by
    rw [fromStrRadix]
    rintro rest rfl
    exact h rfl
  rw [hfrom]
  by_cases hnil : text = []
  · simp only [if_pos hnil]
    exact iff_of_false (fun hnone => (nomatch hnone)) fun hv => hv.1 hnil
  · simp only [if_neg hnil]
    rw [Option.filter_eq_some_iff, digitsFrom_eq_some_iff, decide_eq_true_iff, and_iff_right hnil,
      and_assoc, radixValue]

/-- A text with a sign: only one is read. -/
theorem fromStrRadix_plus_eq_some_iff :
    fromStrRadix radix limit ('+' :: text) = some v ↔
      text ≠ [] ∧ RadixDigits radix text ∧ radixValue radix text = v ∧ v < limit := by
  have hfrom : fromStrRadix radix limit ('+' :: text) =
      if text = [] then none else (digitsFrom radix 0 text).filter (· < limit) := rfl
  rw [hfrom]
  by_cases hnil : text = []
  · simp only [if_pos hnil]
    exact iff_of_false (fun hnone => (nomatch hnone)) fun hv => hv.1 hnil
  · simp only [if_neg hnil]
    rw [Option.filter_eq_some_iff, digitsFrom_eq_some_iff, decide_eq_true_iff, and_iff_right hnil,
      and_assoc, radixValue]

theorem toDigit_isDigit {c : Char} (h : c.isDigit = true) : (toDigit 10 c).isSome = true := by
  have hlt : c.toNat - '0'.toNat < 10 := by
    have hle : c.val ≤ 57 := by
      simp only [Char.isDigit, Bool.and_eq_true, decide_eq_true_eq] at h
      exact h.2
    have hnat : c.toNat ≤ 57 := hle
    have hzero : '0'.toNat = 48 := rfl
    omega
  simp only [toDigit, h, if_true, Option.filter_some, decide_eq_true hlt, Option.isSome_some]

theorem radixDigits_of_isDigit (h : text.all Char.isDigit = true) : RadixDigits 10 text :=
  fun c hc => toDigit_isDigit (List.all_eq_true.mp h c hc)

end Rust
