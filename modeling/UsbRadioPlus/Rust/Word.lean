import Mathlib.Algebra.Ring.Nat

/-!
# Machine words

A `usize` and a `u64` are numbers below `WORD`; what wraps in the source is taken modulo `WORD`.
-/

namespace UsbRadioPlus

/-- The values of a 64-bit word. -/
def WORD : Nat := 2 ^ 64

end UsbRadioPlus
