import Mathlib.Data.Rat.Floor
import Mathlib.Data.Rat.Lemmas
import UsbRadioPlus.Rust.Float

/-!
# Floating-point arithmetic

The operations of `f64`: the exact result, rounded once to the nearest number, ties to even. The result of
an invalid operation is a NaN, and the sign of a zero follows the signs of the operands.

* `ofRatio_small`: what a small ratio is rounded to, with the scale of its significand.
* `ofRatio_natCast`: an integer that fits is not rounded.
* `toU32_ceil_ofRatio`: rounding a small ratio does not move it across an integer; `toU32_ceil_div` says
  so of a quotient of integers.
-/

namespace Rust

namespace F64

/-! ## Operations -/

/-- The nearest `f64`. -/
def ofRat (value : Rat) : F64 := ofRatio binary64 (decide (value < 0)) value.num.natAbs value.den

/-- `f64::from`, of an unsigned integer of 32 bits. -/
def ofU32 (n : Nat) : F64 := .finite n

/-- The sign bit of a number. -/
def isNegative : F64 → Bool
  | .nan => false
  | .infinite negative => negative
  | .negZero => true
  | .finite value => value < 0

/-- The exact value of a finite number. -/
def value : F64 → Rat
  | .finite value => value
  | _ => 0

/-- `is_nan` -/
def isNan : F64 → Bool
  | .nan => true
  | _ => false

/-- `is_infinite` -/
def isInfinite : F64 → Bool
  | .infinite _ => true
  | _ => false

/-- Both zeros. -/
def isZero : F64 → Bool
  | .negZero => true
  | .finite value => value = 0
  | _ => false

/-- The sum, rounded once. -/
def add : F64 → F64 → F64
  | .nan, _ | _, .nan => .nan
  | .infinite x, .infinite y => if x = y then .infinite x else .nan
  | .infinite x, _ => .infinite x
  | _, .infinite y => .infinite y
  | .negZero, y => y
  | x, .negZero => x
  | .finite x, .finite y => ofRat (x + y)

/-- The product, rounded once. -/
def mul (x y : F64) : F64 :=
  let negative := x.isNegative != y.isNegative
  if x.isNan || y.isNan then .nan
  else if x.isInfinite || y.isInfinite then
    if x.isZero || y.isZero then .nan else .infinite negative
  else
    let product := x.value * y.value
    ofRatio binary64 negative product.num.natAbs product.den

/-- The quotient, rounded once. -/
def div (x y : F64) : F64 :=
  let negative := x.isNegative != y.isNegative
  if x.isNan || y.isNan || (x.isInfinite && y.isInfinite) || (x.isZero && y.isZero) then .nan
  else if x.isInfinite || y.isZero then .infinite negative
  else if y.isInfinite then zero negative
  else
    let quotient := x.value / y.value
    ofRatio binary64 negative quotient.num.natAbs quotient.den

instance : Add F64 := ⟨add⟩

instance : Sub F64 := ⟨fun x y => x.add (-y)⟩

instance : Mul F64 := ⟨mul⟩

instance : Div F64 := ⟨div⟩

/-- `f64::max`: a NaN is ignored. -/
def max (x y : F64) : F64 := if x.isNan || x.lt y then y else x

/-- `f64::min` -/
def min (x y : F64) : F64 := if x.isNan || y.lt x then y else x

/-- The value of `clamp`. -/
def clampTo (x minimum maximum : F64) : F64 :=
  if x.lt minimum then minimum else if maximum.lt x then maximum else x

/-- `f64::clamp`, which panics without a range. -/
def clamp (x minimum maximum : F64) : Option F64 :=
  if minimum.le maximum then some (x.clampTo minimum maximum) else none

/-- `abs` -/
def abs : F64 → F64
  | .nan => .nan
  | .infinite _ => .infinite false
  | .negZero => .finite 0
  | .finite value => .finite |value|

/-- `ceil` -/
def ceil : F64 → F64
  | .finite value => if value < 0 ∧ ⌈value⌉ = 0 then .negZero else .finite ⌈value⌉
  | x => x

/-- `==` -/
def eq (x y : F64) : Bool := x.place.isSome && x.place = y.place

/-- `as u32`: truncated, and saturated at the bounds. -/
def toU32 : F64 → Nat
  | .finite value => Nat.min ⌊value⌋.toNat 4294967295
  | .infinite false => 4294967295
  | _ => 0

/-- `as f32` -/
def toF32 : F64 → F64
  | .finite value => ofRatio binary32 (decide (value < 0)) value.num.natAbs value.den
  | x => x

example : (0.1 + 0.2 : F64) = 0.30000000000000004 := by decide +kernel
example : (1 / 3 : F64).toF32 * 3 = 1.0000000298023224 ∧ (2 - 2 : F64) = 0 := by decide +kernel

/-! ## Rounding -/

section Rounding

variable {n d k : Nat}

theorem div_le_roundHalfEven : n / d ≤ roundHalfEven n d := by
  unfold roundHalfEven
  dsimp only
  split <;> omega

theorem roundHalfEven_le (hd : 0 < d) (h : n ≤ d * k) : roundHalfEven n d ≤ k := by
  have hquotient : n / d ≤ k := Nat.div_le_of_le_mul h
  have hparts := Nat.div_add_mod n d
  unfold roundHalfEven
  dsimp only
  split
  · exact hquotient
  · next hround =>
    -- At the bound itself there is no remainder that would be rounded up.
    rcases Nat.eq_or_lt_of_le hquotient with heq | hlt
    · rw [heq] at hparts
      omega
    · exact hlt

theorem roundHalfEven_one (n : Nat) : roundHalfEven n 1 = n := by
  unfold roundHalfEven
  simp [Nat.mod_one]

theorem leading_le (b n d low high : Nat) : leading b n d low high ≤ low := by
  unfold leading
  dsimp only
  split <;> omega

/-- A small ratio keeps at least the bits of its denominator behind the point. -/
theorem ofRatio_small (hn : 0 < n) (hd : 0 < d) (h : n * d ≤ 2 ^ 52) :
    ∃ scale, d ≤ scale ∧
      ofRatio binary64 false n d = .finite (mkRat (roundHalfEven (n * scale) d) scale) := by
  have hself := Nat.log2_self_le (Nat.ne_of_gt hn)
  have hlog : n.log2 ≤ 52 := by
    have hn52 : n ≤ 2 ^ 52 := (Nat.le_mul_of_pos_right n hd).trans h
    exact (Nat.pow_le_pow_iff_right (by omega)).mp (hself.trans hn52)
  have hdenominator : d ≤ 2 ^ (52 - n.log2) := by
    refine Nat.le_of_mul_le_mul_left ?_ (Nat.two_pow_pos n.log2)
    calc 2 ^ n.log2 * d ≤ n * d := Nat.mul_le_mul_right d hself
      _ ≤ 2 ^ 52 := h
      _ = 2 ^ n.log2 * 2 ^ (52 - n.log2) := by rw [← Nat.pow_add, Nat.add_sub_cancel' hlog]
  have hleading := leading_le 2 n d n.log2 d.log2
  obtain ⟨unit, hunit⟩ : ∃ unit : Int, Max.max
      (leading 2 n d n.log2 d.log2 + 1 - binary64.precision) binary64.least = unit := ⟨_, rfl⟩
  have hprecision : binary64.precision = 53 := rfl
  have hleast : binary64.least = -1074 := rfl
  have hsmall : unit.toNat = 0 ∧ 52 - n.log2 ≤ (-unit).toNat := by omega
  have hscale : d ≤ 2 ^ (-unit).toNat :=
    hdenominator.trans (Nat.pow_le_pow_right (by omega) hsmall.2)
  refine ⟨2 ^ (-unit).toNat, hscale, ?_⟩
  -- The significand is not zero, and far from the overflow.
  have hpositive : roundHalfEven (n * 2 ^ (-unit).toNat) d ≠ 0 := by
    have hquotient : 1 ≤ n * 2 ^ (-unit).toNat / d := by
      rw [Nat.le_div_iff_mul_le hd, Nat.one_mul]
      exact hscale.trans (Nat.le_mul_of_pos_left _ hn)
    exact Nat.ne_of_gt (hquotient.trans div_le_roundHalfEven)
  have hbound : roundHalfEven (n * 2 ^ (-unit).toNat) d < 2 ^ binary64.overflow * 2 ^ (-unit).toNat := by
    have hround : roundHalfEven (n * 2 ^ (-unit).toNat) d ≤ n * 2 ^ (-unit).toNat :=
      roundHalfEven_le hd (Nat.le_mul_of_pos_left _ hd)
    refine hround.trans_lt (Nat.mul_lt_mul_of_pos_right ?_ (Nat.two_pow_pos _))
    calc n ≤ 2 ^ 52 := (Nat.le_mul_of_pos_right n hd).trans h
      _ < 2 ^ binary64.overflow := Nat.pow_lt_pow_right (by omega) (by decide)
  unfold ofRatio
  rw [if_neg (Nat.ne_of_gt hn)]
  dsimp only
  rw [hunit, hsmall.1, Nat.pow_zero, Nat.mul_one, Nat.mul_one, if_neg hpositive,
    if_neg (Nat.not_le_of_lt hbound)]
  simp only [Bool.false_eq_true, if_false, pow_zero, mul_one]

/-- An integer that fits is not rounded. -/
theorem ofRatio_natCast (h : n ≤ 2 ^ 52) : ofRatio binary64 false n 1 = .finite n := by
  rcases Nat.eq_zero_or_pos n with rfl | hn
  · rfl
  obtain ⟨scale, hscale, hround⟩ := ofRatio_small hn Nat.one_pos (by omega)
  rw [hround, roundHalfEven_one, F64.finite.injEq, Rat.mkRat_eq_div]
  have hne : (scale : Rat) ≠ 0 := Nat.cast_ne_zero.mpr (by omega)
  push_cast
  exact mul_div_cancel_right₀ _ hne

/-- **Rounding a small ratio does not move it across an integer**. -/
theorem toU32_ceil_ofRatio (hn : 0 < n) (hd : 0 < d) (h : n * d ≤ 2 ^ 52) (hk : k ≤ 4294967295)
    (hlow : d * (k - 1) < n) (hhigh : n ≤ d * k) :
    (ofRatio binary64 false n d).ceil.toU32 = k := by
  obtain ⟨scale, hscale, hround⟩ := ofRatio_small hn hd h
  have hscale0 : 0 < scale := hd.trans_le hscale
  have hkpos : 1 ≤ k := by
    rcases Nat.eq_zero_or_pos k with rfl | hpos
    · omega
    · exact hpos
  -- The significand lies between those of the neighbouring integers.
  have hup : roundHalfEven (n * scale) d ≤ k * scale := by
    refine roundHalfEven_le hd ?_
    calc n * scale ≤ d * k * scale := Nat.mul_le_mul_right scale hhigh
      _ = d * (k * scale) := Nat.mul_assoc ..
  have hdown : (k - 1) * scale < roundHalfEven (n * scale) d := by
    refine Nat.lt_of_lt_of_le ?_ div_le_roundHalfEven
    rw [Nat.lt_iff_add_one_le, Nat.le_div_iff_mul_le hd]
    calc ((k - 1) * scale + 1) * d = d * (k - 1) * scale + d := by ring
      _ ≤ d * (k - 1) * scale + scale := Nat.add_le_add_left hscale _
      _ = (d * (k - 1) + 1) * scale := by ring
      _ ≤ n * scale := Nat.mul_le_mul_right scale hlow
  have hceil : ⌈mkRat (roundHalfEven (n * scale) d) scale⌉ = (k : Int) := by
    have hpos : (0 : Rat) < scale := Nat.cast_pos.mpr hscale0
    rw [Rat.mkRat_eq_div, Int.ceil_eq_iff, lt_div_iff₀ hpos, div_le_iff₀ hpos]
    constructor
    · have hcast : (((k - 1) * scale : Nat) : Rat) < (roundHalfEven (n * scale) d : Nat) :=
        Nat.cast_lt.mpr hdown
      rw [Nat.cast_mul, Nat.cast_sub hkpos] at hcast
      simpa using hcast
    · exact_mod_cast hup
  rw [hround, ceil, hceil]
  have hne : ¬ (mkRat (roundHalfEven (n * scale) d) scale < 0 ∧ (k : Int) = 0) := by omega
  rw [if_neg hne, toU32]
  simp [hk]

end Rounding

/-! ## Integers -/

section Integers

variable {a b k : Nat}

theorem ofU32_sub (h : b < a) (ha : a ≤ 2 ^ 52) : ofU32 a - ofU32 b = ofU32 (a - b) := by
  have hsub : ofU32 a - ofU32 b = (ofU32 a).add (-ofU32 b) := rfl
  rw [hsub]
  rcases Nat.eq_zero_or_pos b with rfl | hb
  · rfl
  have hne : (b : Rat) ≠ 0 := Nat.cast_ne_zero.mpr (by omega)
  have hneg : -ofU32 b = .finite (-(b : Rat)) := if_neg hne
  have hdifference : (a : Rat) + -(b : Rat) = ((a - b : Nat) : Rat) := by
    rw [Nat.cast_sub h.le]
    ring
  rw [hneg]
  change ofRat ((a : Rat) + -(b : Rat)) = _
  have hpos : ¬ (((a - b : Nat) : Rat) < 0) := not_lt.mpr (Nat.cast_nonneg _)
  rw [hdifference, ofRat, decide_eq_false hpos, Rat.num_natCast, Rat.den_natCast, Int.natAbs_natCast,
    ofRatio_natCast (by omega)]
  rfl

/-- The parts of a reduced fraction. -/
theorem num_mul_eq (hb : 0 < b) : ((a : Rat) / b).num.natAbs * b = a * ((a : Rat) / b).den := by
  have hne : (b : Rat) ≠ 0 := Nat.cast_ne_zero.mpr (by omega)
  have hden : (((a : Rat) / b).den : Rat) ≠ 0 := Nat.cast_ne_zero.mpr ((a : Rat) / b).den_ne_zero
  have hparts : (((a : Rat) / b).num : Rat) / ((a : Rat) / b).den = (a : Rat) / b := Rat.num_div_den _
  rw [div_eq_div_iff hden hne] at hparts
  have hnonneg : 0 ≤ ((a : Rat) / b).num := Rat.num_nonneg.mpr (by positivity)
  have hint : ((a : Rat) / b).num * b = a * ((a : Rat) / b).den := by exact_mod_cast hparts
  have habs : (((a : Rat) / b).num.natAbs : Int) = ((a : Rat) / b).num := Int.natAbs_of_nonneg hnonneg
  rw [← habs] at hint
  exact_mod_cast hint

/-- **The ceiling of a quotient of integers** is that of the exact quotient. -/
theorem toU32_ceil_div (ha : 0 < a) (hb : 0 < b) (h : a * b ≤ 2 ^ 52) (hk : k ≤ 4294967295)
    (hlow : b * (k - 1) < a) (hhigh : a ≤ b * k) : (ofU32 a / ofU32 b).ceil.toU32 = k := by
  obtain ⟨n, hn⟩ : ∃ n, ((a : Rat) / b).num.natAbs = n := ⟨_, rfl⟩
  obtain ⟨d, hd⟩ : ∃ d, ((a : Rat) / b).den = d := ⟨_, rfl⟩
  have hparts : n * b = a * d := by
    rw [← hn, ← hd]
    exact num_mul_eq hb
  have hcoprime : n.Coprime d := hn ▸ hd ▸ ((a : Rat) / b).reduced
  have hdpos : 0 < d := hd ▸ ((a : Rat) / b).den_pos
  have hnpos : 0 < n := by
    refine Nat.pos_of_ne_zero fun hzero => ?_
    rw [hzero, Nat.zero_mul] at hparts
    exact absurd hparts.symm (Nat.ne_of_gt (Nat.mul_pos ha hdpos))
  have hna : n ≤ a := Nat.le_of_dvd ha (hcoprime.dvd_of_dvd_mul_right ⟨b, hparts.symm⟩)
  have hdb : d ≤ b := by
    refine Nat.le_of_dvd hb (hcoprime.symm.dvd_of_dvd_mul_left ⟨a, ?_⟩)
    rw [hparts, Nat.mul_comm]
  have hround : ofU32 a / ofU32 b = ofRatio binary64 false n d := by
    have ha0 : ¬ ((a : Rat) < 0) := not_lt.mpr (Nat.cast_nonneg _)
    have hb0 : ¬ ((b : Rat) < 0) := not_lt.mpr (Nat.cast_nonneg _)
    have hbne : (b : Rat) ≠ 0 := Nat.cast_ne_zero.mpr (by omega)
    change (ofU32 a).div (ofU32 b) = _
    simp [div, ofU32, isNan, isInfinite, isZero, isNegative, value, ha0, hb0, hbne, hn, hd]
  rw [hround]
  -- The bounds hold of the reduced fraction as well.
  refine toU32_ceil_ofRatio hnpos hdpos ((Nat.mul_le_mul hna hdb).trans h) hk ?_ ?_
  · refine Nat.lt_of_mul_lt_mul_right (a := b) ?_
    calc d * (k - 1) * b = b * (k - 1) * d := by ring
      _ < a * d := Nat.mul_lt_mul_of_pos_right hlow hdpos
      _ = n * b := hparts.symm
  · refine Nat.le_of_mul_le_mul_right ?_ hb
    calc n * b = a * d := hparts
      _ ≤ b * k * d := Nat.mul_le_mul_right d hhigh
      _ = d * k * b := by ring

end Integers

/-! ## Ranges -/

section Ranges

variable {x y minimum maximum : F64}

theorem exists_place (hx : x.isNan = false) : ∃ p, x.place = some p := by
  cases x with
  | nan => cases hx
  | infinite negative => exact ⟨_, rfl⟩
  | negZero => exact ⟨_, rfl⟩
  | finite value => exact ⟨_, rfl⟩

theorem le_iff {p q : Int × Rat} (hx : x.place = some p) (hy : y.place = some q) :
    x.le y = true ↔ p.1 < q.1 ∨ p.1 = q.1 ∧ p.2 ≤ q.2 := by
  simp only [le, hx, hy, decide_eq_true_eq]

theorem lt_iff {p q : Int × Rat} (hx : x.place = some p) (hy : y.place = some q) :
    x.lt y = true ↔ p.1 < q.1 ∨ p.1 = q.1 ∧ p.2 < q.2 := by
  simp only [lt, hx, hy, decide_eq_true_eq]

theorem le_refl (hx : x.isNan = false) : x.le x = true := by
  obtain ⟨p, hp⟩ := exists_place hx
  exact (le_iff hp hp).mpr (.inr ⟨rfl, Rat.le_refl⟩)

/-- Two numbers are in order one way or the other. -/
theorem le_of_not_lt (hx : x.isNan = false) (hy : y.isNan = false) (h : ¬ x.lt y = true) :
    y.le x = true := by
  obtain ⟨p, hp⟩ := exists_place hx
  obtain ⟨q, hq⟩ := exists_place hy
  rw [lt_iff hp hq, not_or, not_lt, not_and, not_lt] at h
  rw [le_iff hq hp]
  rcases h.1.lt_or_eq with hlt | heq
  · exact .inl hlt
  · exact .inr ⟨heq, h.2 heq.symm⟩

/-- What is clamped is in the range. -/
theorem clampTo_ranged (hx : x.isNan = false) (hmin : minimum.isNan = false)
    (hmax : maximum.isNan = false) (h : minimum.le maximum = true) :
    minimum.le (x.clampTo minimum maximum) = true ∧ (x.clampTo minimum maximum).le maximum = true := by
  unfold clampTo
  split
  · exact ⟨le_refl hmin, h⟩
  · next hlow =>
    split
    · exact ⟨h, le_refl hmax⟩
    · next hhigh =>
      exact ⟨le_of_not_lt hx hmin hlow, le_of_not_lt hmax hx hhigh⟩

theorem place_neg {p : Int × Rat} (hx : x.place = some p) : (-x).place = some (-p.1, -p.2) := by
  cases x with
  | nan => cases hx
  | infinite negative =>
    obtain rfl := Option.some.inj hx
    cases negative <;> rfl
  | negZero =>
    obtain rfl := Option.some.inj hx
    rfl
  | finite value =>
    obtain rfl := Option.some.inj hx
    change place (if value = 0 then .negZero else .finite (-value)) = _
    split
    · next hzero => simp [place, hzero]
    · simp [place]

/-- A negated magnitude is below every magnitude. -/
theorem neg_le_of_nonneg (hx : (0 : F64).le x = true) (hy : (0 : F64).le y = true) :
    (-x).le y = true := by
  have hzero : (0 : F64).place = some (0, 0) := by decide +kernel
  have hnumber {z : F64} (hz : (0 : F64).le z = true) : z.isNan = false := by
    cases z with
    | nan => cases hz
    | infinite negative => rfl
    | negZero => rfl
    | finite value => rfl
  obtain ⟨p, hp⟩ := exists_place (hnumber hx)
  obtain ⟨q, hq⟩ := exists_place (hnumber hy)
  rw [le_iff hzero hp] at hx
  rw [le_iff hzero hq] at hy
  rw [le_iff (place_neg hp) hq]
  rcases hx with hx | ⟨hx, hxvalue⟩
  · exact .inl (by rcases hy with hy | ⟨hy, -⟩ <;> simp only at * <;> omega)
  · rcases hy with hy | ⟨hy, hyvalue⟩
    · exact .inl (by simp only at *; omega)
    · exact .inr ⟨by simp only at *; omega, (neg_nonpos.mpr hxvalue).trans hyvalue⟩

theorem toU32_le {n : Nat} (h : x.le (.ofU32 n) = true) : x.toU32 ≤ n := by
  cases x with
  | nan => exact Nat.zero_le _
  | infinite negative =>
    cases negative with
    | true => exact Nat.zero_le _
    | false => simp [le, place, ofU32] at h
  | negZero => exact Nat.zero_le _
  | finite value =>
    have hvalue : value ≤ n := by simpa [le, place, ofU32] using h
    have hfloor : ⌊value⌋ ≤ (n : Int) := by
      have hle := (Int.floor_le value).trans hvalue
      exact_mod_cast hle
    exact (Nat.min_le_left _ _).trans (Int.toNat_le.mpr hfloor)

end Ranges

end F64

end Rust
