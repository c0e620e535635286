import Mathlib.Algebra.Ring.Int.Defs
import Mathlib.Data.Nat.Log
import Mathlib.Data.Rat.Defs
import UsbRadioPlus.Rust.Str

/-!
# Floating-point numbers

A finite `f64` is its exact value, with the zero of negative sign apart. An `f32` is the `f64` of the same
value. `ofRatio` rounds a ratio to the nearest number of a format, ties to even, so a literal of the
source is the same literal here. A comparison with a NaN is false.

`parse` is `str::parse` for either format and `text` is the `Display` of an `f64`: the shortest decimal
that reads back as the number, without an exponent.
-/

namespace Rust

/-- An `f64`: the finite values are exact, and zero has a sign. -/
inductive F64 where
  | nan
  | infinite (negative : Bool)
  | negZero
  | finite (value : Rat)
  deriving DecidableEq, Repr

namespace F64

/-- A zero. -/
def zero (negative : Bool) : F64 := if negative then .negZero else .finite 0

/-! ## Rounding -/

/-- `n / d` to the nearest integer, ties to even. -/
def roundHalfEven (n d : Nat) : Nat :=
  let quotient := n / d
  let remainder := n % d
  if 2 * remainder < d ∨ 2 * remainder = d ∧ quotient % 2 = 0 then quotient else quotient + 1

/-- The exponent of `b` in the leading digit of `n / d`, from the exponents of `n` and of `d`. -/
def leading (b n d : Nat) (low high : Nat) : Int :=
  let e : Int := (low : Int) - high
  if n * b ^ (-e).toNat < d * b ^ e.toNat then e - 1 else e

/-- A binary format: the bits of a significand, and the exponents of the least number and of the first
number that is too large. -/
structure Format where
  precision : Nat
  least : Int
  overflow : Nat

/-- The format of `f64`. -/
def binary64 : Format := ⟨53, -1074, 1024⟩

/-- The format of `f32`. -/
def binary32 : Format := ⟨24, -149, 128⟩

/-- The number nearest to `n / d`. -/
def ofRatio (format : Format) (negative : Bool) (n d : Nat) : F64 :=
  if n = 0 then zero negative
  else
    let unit := max (leading 2 n d n.log2 d.log2 + 1 - format.precision) format.least
    let significand := roundHalfEven (n * 2 ^ (-unit).toNat) (d * 2 ^ unit.toNat)
    if significand = 0 then zero negative
    else if 2 ^ format.overflow * 2 ^ (-unit).toNat ≤ significand * 2 ^ unit.toNat then
      .infinite negative
    else
      let magnitude := mkRat (significand * 2 ^ unit.toNat) (2 ^ (-unit).toNat)
      .finite (if negative then -magnitude else magnitude)

/-- `digits * 10 ^ exponent`. -/
def ofDecimal (format : Format) (negative : Bool) (digits : Nat) (exponent : Int) : F64 :=
  ofRatio format negative (digits * 10 ^ exponent.toNat) (10 ^ (-exponent).toNat)

instance (n : Nat) : OfNat F64 n := ⟨ofRatio binary64 false n 1⟩

instance : OfScientific F64 where
  ofScientific digits small exponent :=
    ofDecimal binary64 false digits (if small then -(exponent : Int) else exponent)

instance : Neg F64 where
  neg
    | .nan => .nan
    | .infinite negative => .infinite (!negative)
    | .negZero => .finite 0
    | .finite value => if value = 0 then .negZero else .finite (-value)

/-! ## Comparison -/

/-- `is_finite` -/
def isFinite : F64 → Bool
  | .nan | .infinite _ => false
  | .negZero | .finite _ => true

/-- The place of a number among the extended rationals, and none for a NaN. -/
def place : F64 → Option (Int × Rat)
  | .nan => none
  | .infinite negative => some (if negative then -1 else 1, 0)
  | .negZero => some (0, 0)
  | .finite value => some (0, value)

/-- `<=` -/
def le (x y : F64) : Bool :=
  match x.place, y.place with
  | some a, some b => decide (a.1 < b.1 ∨ a.1 = b.1 ∧ a.2 ≤ b.2)
  | _, _ => false

/-- `<` -/
def lt (x y : F64) : Bool :=
  match x.place, y.place with
  | some a, some b => decide (a.1 < b.1 ∨ a.1 = b.1 ∧ a.2 < b.2)
  | _, _ => false

/-! ## Text -/

/-- A sign, and what follows it. -/
def splitSign : Str → Bool × Str
  | '-' :: rest => (true, rest)
  | '+' :: rest => (false, rest)
  | rest => (false, rest)

/-- The number of decimal digits. -/
def digitsValue (digits : Str) : Nat :=
  digits.foldl (fun n c => 10 * n + (c.toNat - '0'.toNat)) 0

/-- The exponent behind a mantissa. -/
def parseExponent : Str → Option Int
  | [] => some 0
  | c :: rest =>
    let (negative, digits) := splitSign rest
    if (c ≠ 'e' ∧ c ≠ 'E') ∨ digits = [] ∨ digits.all Char.isDigit = false then none
    else some (if negative then -(digitsValue digits : Int) else digitsValue digits)

/-- Digits with at most one point, and an exponent. -/
def parseNumber (format : Format) (negative : Bool) (text : Str) : Option F64 :=
  let whole := text.takeWhile Char.isDigit
  let (fraction, rest) :=
    match text.dropWhile Char.isDigit with
    | '.' :: rest => (rest.takeWhile Char.isDigit, rest.dropWhile Char.isDigit)
    | rest => ([], rest)
  if whole = [] ∧ fraction = [] then none
  else (parseExponent rest).map fun exponent =>
    ofDecimal format negative (digitsValue (whole ++ fraction)) (exponent - fraction.length)

/-- `str::parse` -/
def parseAs (format : Format) (text : Str) : Option F64 :=
  let (negative, rest) := splitSign text
  if Str.eqIgnoreAsciiCase rest "inf".toList || Str.eqIgnoreAsciiCase rest "infinity".toList then
    some (.infinite negative)
  else if Str.eqIgnoreAsciiCase rest "nan".toList then some .nan
  else parseNumber format negative rest

/-- `str::parse::<f64>` -/
def parse (text : Str) : Option F64 := parseAs binary64 text

/-- The better of two neighbouring decimals that read back as the number, if one does. -/
def nearestDecimal (value : F64) (n d quotient : Nat) (exponent : Int) : Option Nat :=
  let below := ofDecimal binary64 false quotient exponent = value
  let above := ofDecimal binary64 false (quotient + 1) exponent = value
  let nearer := 2 * (n * 10 ^ (-exponent).toNat) ≤ (2 * quotient + 1) * (d * 10 ^ exponent.toNat)
  if below ∧ (¬ above ∨ nearer) then some quotient
  else if above then some (quotient + 1)
  else none

/-- The shortest decimal of at least `count` digits, and of `count + fuel` at most. -/
def shortest (value : F64) (n d : Nat) (exponent : Int) : (fuel count : Nat) → Nat × Int
  | 0, count => (n * 10 ^ (count - 1 - exponent).toNat / d, exponent + 1 - count)
  | fuel + 1, count =>
    let last := exponent + 1 - count
    let quotient := n * 10 ^ (-last).toNat / (d * 10 ^ last.toNat)
    match nearestDecimal value n d quotient last with
    | some digits => (digits, last)
    | none => shortest value n d exponent fuel (count + 1)

/-- `digits * 10 ^ exponent` without an exponent. -/
def positional (digits : Nat) (exponent : Int) : Str :=
  let text := Nat.toDigits 10 digits
  let places := (-exponent).toNat
  let padded := List.replicate (places + 1 - text.length) '0' ++ text
  let fraction := (padded.drop (padded.length - places)).rdropWhile (· = '0')
  if 0 ≤ exponent then text ++ List.replicate exponent.toNat '0'
  else padded.take (padded.length - places) ++ (if fraction = [] then [] else '.' :: fraction)

/-- `f64::to_string` -/
def text : F64 → Str
  | .nan => "NaN".toList
  | .infinite negative => if negative then "-inf".toList else "inf".toList
  | .negZero => "-0".toList
  | .finite value =>
    if value = 0 then "0".toList
    else
      let n := value.num.natAbs
      let d := value.den
      let magnitude := F64.finite (mkRat n d)
      let (digits, exponent) :=
        shortest magnitude n d (leading 10 n d (Nat.log 10 n) (Nat.log 10 d)) 17 1
      (if value < 0 then ['-'] else []) ++ positional digits exponent

example : parse "-1.25e1".toList = some (-12.5) := by decide +kernel
example : parse ".e3".toList = none := by decide +kernel
example : text 0.1 = "0.1".toList ∧ text (-3000) = "-3000".toList := by decide +kernel

end F64

end Rust
