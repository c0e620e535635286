import UsbRadioPlus.Rust.Radix
import UsbRadioPlus.Station.Configuration

/-!
# The integers of a configuration (`parse_c_unsigned` of `rust/core/src/station_config.rs`)

`CUnsigned` is the grammar of the unsigned integers of C, with the number that a text denotes. The sign
and the prefix are peeled off by hand, and the rest is read by `from_str_radix`, which takes a sign of
its own: a text with a `+` in front of its digits is read as well (`SecondSign`). These texts apart,
the texts that are read are those of the grammar (`parseCUnsigned_iff`).
-/

namespace UsbRadioPlus.Station

open Rust Rust.Str

/-! ## The grammar -/

/-- An unsigned integer of C without a sign. -/
inductive CMagnitude : Str → Nat → Prop where
  | hexadecimal {x : Char} {digits : Str} (hletter : x = 'x' ∨ x = 'X') (hnil : digits ≠ [])
      (hdigits : RadixDigits 16 digits) : CMagnitude ('0' :: x :: digits) (radixValue 16 digits)
  | octal {digits : Str} (hdigits : RadixDigits 8 digits) :
      CMagnitude ('0' :: digits) (radixValue 8 digits)
  | decimal {c : Char} {digits : Str} (hzero : c ≠ '0') (hdigits : RadixDigits 10 (c :: digits)) :
      CMagnitude (c :: digits) (radixValue 10 (c :: digits))

/-- A text spells a number, with or without a plus sign. -/
inductive CUnsigned : Str → Nat → Prop where
  | plain {text : Str} {n : Nat} (h : CMagnitude text n) : CUnsigned text n
  | plus {text : Str} {n : Nat} (h : CMagnitude text n) : CUnsigned ('+' :: text) n

/-- A sign where the digits should start. -/
inductive SignedDigits : Str → Nat → Prop where
  | hexadecimal {x : Char} {digits : Str} (hletter : x = 'x' ∨ x = 'X') (hnil : digits ≠ [])
      (hdigits : RadixDigits 16 digits) :
      SignedDigits ('0' :: x :: '+' :: digits) (radixValue 16 digits)
  | octal {digits : Str} (hnil : digits ≠ []) (hdigits : RadixDigits 8 digits) :
      SignedDigits ('0' :: '+' :: digits) (radixValue 8 digits)
  | decimal {digits : Str} (hnil : digits ≠ []) (hdigits : RadixDigits 10 digits) :
      SignedDigits ('+' :: digits) (radixValue 10 digits)

/-- The text behind one `+`. -/
def unsignedPart : Str → Str
  | '+' :: rest => rest
  | text => text

/-- Behind an optional `+` and the prefix another `+` is in front of digits whose value fits. -/
def SecondSign (value : Str) : Prop := ∃ n, SignedDigits (unsignedPart (trim value)) n ∧ n < WORD

/-! ## Texts without a sign -/

section Magnitude

variable {text : Str} {n : Nat}

theorem not_radixDigits_plus {radix : Nat} {digits : Str} : ¬ RadixDigits radix ('+' :: digits) := by
  intro h
  have hplus := h '+' List.mem_cons_self
  cases hplus

/-- `from_str_radix` reads digits, or a sign and digits. -/
theorem fromStrRadix_eq_some_iff_or {radix limit : Nat} :
    fromStrRadix radix limit text = some n ↔
      (text ≠ [] ∧ RadixDigits radix text ∧ radixValue radix text = n ∨
        ∃ digits, text = '+' :: digits ∧ digits ≠ [] ∧ RadixDigits radix digits ∧
          radixValue radix digits = n) ∧ n < limit := by
  by_cases hplus : text.head? = some '+'
  · obtain ⟨digits, rfl⟩ : ∃ digits, text = '+' :: digits := by
      cases text with
      | nil => cases hplus
      | cons c digits => exact ⟨digits, by rw [Option.some.inj hplus]⟩
    rw [fromStrRadix_plus_eq_some_iff]
    constructor
    · rintro ⟨hnil, hdigits, hvalue, hlt⟩
      exact ⟨.inr ⟨digits, rfl, hnil, hdigits, hvalue⟩, hlt⟩
    · rintro ⟨⟨-, hdigits, -⟩ | ⟨_, hcons, hnil, hdigits, hvalue⟩, hlt⟩
      · exact absurd hdigits not_radixDigits_plus
      · obtain rfl := (List.cons.inj hcons).2
        exact ⟨hnil, hdigits, hvalue, hlt⟩
  · rw [fromStrRadix_eq_some_iff hplus]
    constructor
    · rintro ⟨hnil, hdigits, hvalue, hlt⟩
      exact ⟨.inl ⟨hnil, hdigits, hvalue⟩, hlt⟩
    · rintro ⟨⟨hnil, hdigits, hvalue⟩ | ⟨_, rfl, -⟩, hlt⟩
      · exact ⟨hnil, hdigits, hvalue, hlt⟩
      · exact absurd rfl hplus

theorem radixDigits_cons {radix : Nat} {c : Char} {digits : Str} :
    RadixDigits radix (c :: digits) ↔ (toDigit radix c).isSome ∧ RadixDigits radix digits :=
  List.forall_mem_cons

/-- A prefix is no digit. -/
theorem not_octal_letter {x : Char} {digits : Str} (hx : x = 'x' ∨ x = 'X') :
    ¬ RadixDigits 8 (x :: digits) := by
  rw [radixDigits_cons]
  rintro ⟨h, -⟩
  rcases hx with rfl | rfl <;> cases h

theorem cMagnitude_hexadecimal {x : Char} {digits : Str} (hx : x = 'x' ∨ x = 'X') :
    CMagnitude ('0' :: x :: digits) n ↔
      digits ≠ [] ∧ RadixDigits 16 digits ∧ radixValue 16 digits = n := by
  constructor
  · intro h
    cases h with
    | hexadecimal _ hnil hdigits => exact ⟨hnil, hdigits, rfl⟩
    | octal hdigits => exact absurd hdigits (not_octal_letter hx)
    | decimal hzero _ => exact absurd rfl hzero
  · rintro ⟨hnil, hdigits, rfl⟩
    exact .hexadecimal hx hnil hdigits

theorem cMagnitude_octal {digits : Str} (hx : ∀ c ∈ digits.head?, c ≠ 'x' ∧ c ≠ 'X') :
    CMagnitude ('0' :: digits) n ↔ RadixDigits 8 digits ∧ radixValue 8 digits = n := by
  constructor
  · intro h
    cases h with
    | hexadecimal hletter _ _ =>
      obtain ⟨hlower, hupper⟩ := hx _ rfl
      exact (hletter.elim hlower hupper).elim
    | octal hdigits => exact ⟨hdigits, rfl⟩
    | decimal hzero _ => exact absurd rfl hzero
  · rintro ⟨hdigits, rfl⟩
    exact .octal hdigits

theorem cMagnitude_decimal {c : Char} {digits : Str} (hc : c ≠ '0') :
    CMagnitude (c :: digits) n ↔
      RadixDigits 10 (c :: digits) ∧ radixValue 10 (c :: digits) = n := by
  constructor
  · intro h
    cases h with
    | hexadecimal _ _ _ => exact absurd rfl hc
    | octal _ => exact absurd rfl hc
    | decimal _ hdigits => exact ⟨hdigits, rfl⟩
  · rintro ⟨hdigits, rfl⟩
    exact .decimal hc hdigits

theorem signedDigits_hexadecimal {x : Char} {digits : Str} (hx : x = 'x' ∨ x = 'X') :
    SignedDigits ('0' :: x :: digits) n ↔
      ∃ rest, digits = '+' :: rest ∧ rest ≠ [] ∧ RadixDigits 16 rest ∧ radixValue 16 rest = n := by
  constructor
  · intro h
    cases h with
    | hexadecimal _ hnil hdigits => exact ⟨_, rfl, hnil, hdigits, rfl⟩
    | octal _ _ => exact absurd hx (by decide)
  · rintro ⟨rest, rfl, hnil, hdigits, rfl⟩
    exact .hexadecimal hx hnil hdigits

theorem signedDigits_octal {c : Char} {digits : Str} (hc : c ≠ 'x' ∧ c ≠ 'X') :
    SignedDigits ('0' :: c :: digits) n ↔
      c = '+' ∧ digits ≠ [] ∧ RadixDigits 8 digits ∧ radixValue 8 digits = n := by
  constructor
  · intro h
    cases h with
    | hexadecimal hletter _ _ => exact (hletter.elim hc.1 hc.2).elim
    | octal hnil hdigits => exact ⟨rfl, hnil, hdigits, rfl⟩
  · rintro ⟨rfl, hnil, hdigits, rfl⟩
    exact .octal hnil hdigits

theorem signedDigits_decimal {c : Char} {digits : Str} (hc : c ≠ '0') :
    SignedDigits (c :: digits) n ↔
      c = '+' ∧ digits ≠ [] ∧ RadixDigits 10 digits ∧ radixValue 10 digits = n := by
  constructor
  · intro h
    cases h with
    | hexadecimal _ _ _ => exact absurd rfl hc
    | octal _ _ => exact absurd rfl hc
    | decimal hnil hdigits => exact ⟨rfl, hnil, hdigits, rfl⟩
  · rintro ⟨rfl, hnil, hdigits, rfl⟩
    exact .decimal hnil hdigits

/-- Digits of a radix behind a prefix. -/
theorem hexadecimal_eq_some_iff {x : Char} {digits : Str} (hx : x = 'x' ∨ x = 'X') :
    (if digits = [] then none else fromStrRadix 16 WORD digits) = some n ↔
      (CMagnitude ('0' :: x :: digits) n ∨ SignedDigits ('0' :: x :: digits) n) ∧ n < WORD := by
  rw [cMagnitude_hexadecimal hx, signedDigits_hexadecimal hx, ← fromStrRadix_eq_some_iff_or]
  by_cases hnil : digits = []
  · rw [if_pos hnil, hnil]
    exact Iff.rfl
  · rw [if_neg hnil]

/-- What is read has the grammar, or a sign in front of its digits. -/
theorem parseCMagnitude_eq_some_iff :
    parseCMagnitude text = some n ↔ (CMagnitude text n ∨ SignedDigits text n) ∧ n < WORD := by
  unfold parseCMagnitude
  split
  · exact hexadecimal_eq_some_iff (.inl rfl)
  · exact hexadecimal_eq_some_iff (.inr rfl)
  · next c digits hlower hupper =>
    have hc : c ≠ 'x' ∧ c ≠ 'X' := ⟨hlower, hupper⟩
    have hhead : ∀ x ∈ (c :: digits).head?, x ≠ 'x' ∧ x ≠ 'X' := fun x hx => Option.some.inj hx ▸ hc
    rw [fromStrRadix_eq_some_iff_or, cMagnitude_octal hhead, signedDigits_octal hc]
    simp
  · exact iff_of_false nofun fun h => by rcases h.1 with h | h <;> cases h
  · next hlower hupper hoctal hnil =>
    obtain ⟨c, digits, rfl⟩ := List.exists_cons_of_ne_nil hnil
    by_cases hc : c = '0'
    · obtain rfl : digits = [] := by
        cases digits with
        | nil => rfl
        | cons d digits => exact absurd (hc ▸ rfl) (hoctal d digits)
      subst hc
      have hzero : fromStrRadix 10 WORD ['0'] = some 0 := by decide +kernel
      have hsigned : ¬ SignedDigits ['0'] n := nofun
      rw [hzero, cMagnitude_octal (by simp), or_iff_left hsigned, Option.some.injEq]
      constructor
      · rintro rfl
        exact ⟨⟨nofun, rfl⟩, by decide⟩
      · rintro ⟨⟨-, rfl⟩, -⟩
        rfl
    · rw [fromStrRadix_eq_some_iff_or, cMagnitude_decimal hc, signedDigits_decimal hc]
      simp

/-- A text with a sign in front of its digits has not the grammar. -/
theorem SignedDigits.not_cMagnitude {m : Nat} (h : SignedDigits text n) : ¬ CMagnitude text m := by
  cases h with
  | hexadecimal hletter _ _ =>
    rw [cMagnitude_hexadecimal hletter]
    exact fun h => not_radixDigits_plus h.2.1
  | octal _ _ =>
    rw [cMagnitude_octal (by rintro _ ⟨⟩; decide)]
    exact fun h => not_radixDigits_plus h.1
  | decimal _ _ =>
    rw [cMagnitude_decimal (by decide)]
    exact fun h => not_radixDigits_plus h.1

end Magnitude

/-! ## The sign -/

theorem not_cMagnitude_plus {text : Str} {n : Nat} : ¬ CMagnitude ('+' :: text) n := by
  rw [cMagnitude_decimal (by decide)]
  exact fun h => not_radixDigits_plus h.1

theorem cUnsigned_iff {text : Str} {n : Nat} : CUnsigned text n ↔ CMagnitude (unsignedPart text) n := by
  constructor
  · intro h
    cases h with
    | plain h =>
      have hpart : unsignedPart text = text := by
        unfold unsignedPart
        split
        · exact absurd h not_cMagnitude_plus
        · rfl
      rwa [hpart]
    | plus h => exact h
  · intro h
    unfold unsignedPart at h
    split at h
    · exact .plus h
    · exact .plain h

/-- A minus is no sign of an unsigned integer, and no digit. -/
theorem parseCUnsigned_eq (value : Str) :
    parseCUnsigned value = parseCMagnitude (unsignedPart (trim value)) := by
  unfold parseCUnsigned
  change (match unsignedPart (trim value) with
    | [] | '-' :: _ => none
    | _ => parseCMagnitude (unsignedPart (trim value))) = _
  split
  · next h => rw [h]; rfl
  · next rest h =>
    rw [h]
    refine (Option.eq_none_iff_forall_ne_some.mpr fun n hn => ?_).symm
    obtain ⟨hread, -⟩ := parseCMagnitude_eq_some_iff.mp hn
    rw [cMagnitude_decimal (by decide), signedDigits_decimal (by decide)] at hread
    rcases hread with ⟨hdigits, -⟩ | ⟨hplus, -⟩
    · have hminus := hdigits '-' List.mem_cons_self
      cases hminus
    · cases hplus
  · rfl

/-- **The texts that are read are those of the grammar**, with the numbers that they denote, exactly where
no second sign is in front of digits that fit. -/
theorem parseCUnsigned_iff (value : Str) :
    (∀ n, parseCUnsigned value = some n ↔ CUnsigned (trim value) n ∧ n < WORD) ↔
      ¬ SecondSign value := by
  constructor
  · rintro h ⟨n, hsigned, hlt⟩
    have hread : parseCUnsigned value = some n := by
      rw [parseCUnsigned_eq, parseCMagnitude_eq_some_iff]
      exact ⟨.inr hsigned, hlt⟩
    exact hsigned.not_cMagnitude (cUnsigned_iff.mp ((h n).mp hread).1)
  · intro h n
    rw [parseCUnsigned_eq, parseCMagnitude_eq_some_iff, cUnsigned_iff]
    refine and_congr_left fun hlt => or_iff_left fun hsigned => h ⟨n, hsigned, hlt⟩

/-- Two signs, and a sign behind the prefix. -/
theorem parseCUnsigned_signed :
    (parseCUnsigned "++5".toList = some 5 ∧ ¬ ∃ n, CUnsigned "++5".toList n) ∧
      parseCUnsigned "0x+1F".toList = some 31 ∧ ¬ ∃ n, CUnsigned "0x+1F".toList n := by
  have htwo : SignedDigits ('+' :: ['5']) (radixValue 10 ['5']) := by
    refine .decimal (List.cons_ne_nil _ _) fun c hc => ?_
    obtain rfl := List.mem_singleton.mp hc
    rfl
  have hletter : SignedDigits ('0' :: 'x' :: '+' :: ['1', 'F']) (radixValue 16 ['1', 'F']) := by
    refine .hexadecimal (.inl rfl) (List.cons_ne_nil _ _) fun c hc => ?_
    rcases List.mem_pair.mp hc with rfl | rfl <;> rfl
  refine ⟨⟨by decide +kernel, fun ⟨n, h⟩ => ?_⟩, by decide +kernel, fun ⟨n, h⟩ => ?_⟩
  · exact htwo.not_cMagnitude (cUnsigned_iff.mp h)
  · exact hletter.not_cMagnitude (cUnsigned_iff.mp h)

end UsbRadioPlus.Station
