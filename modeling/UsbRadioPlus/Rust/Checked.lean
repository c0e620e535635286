import Mathlib.Logic.Basic

/-!
# Checked arithmetic

Operations of an unsigned type whose values are those below `limit`. `none` is the failure of a checked
operation, and the panic of a plain one.
-/

namespace Rust

variable {limit a b c : Nat}

/-- `checked_add` below a limit. -/
def checkedAdd (limit a b : Nat) : Option Nat := if a + b < limit then some (a + b) else none

/-- `checked_mul` below a limit. -/
def checkedMul (limit a b : Nat) : Option Nat := if a * b < limit then some (a * b) else none

/-- `checked_sub` -/
def checkedSub (a b : Nat) : Option Nat := if b ≤ a then some (a - b) else none

/-- `checked_div` -/
def checkedDiv (a b : Nat) : Option Nat := if b = 0 then none else some (a / b)

/-- `checked_rem` -/
def checkedRem (a b : Nat) : Option Nat := if b = 0 then none else some (a % b)

/-- `checked_add_signed`. -/
def checkedAddSigned (limit a : Nat) (b : Int) : Option Nat :=
  if 0 ≤ a + b ∧ a + b < limit then some (a + b).toNat else none

theorem checkedAdd_of_lt (h : a + b < limit) : checkedAdd limit a b = some (a + b) := if_pos h

theorem checkedSub_of_le (h : b ≤ a) : checkedSub a b = some (a - b) := if_pos h

theorem checkedDiv_of_pos (h : 0 < b) : checkedDiv a b = some (a / b) := if_neg (Nat.ne_of_gt h)

theorem checkedRem_of_pos (h : 0 < b) : checkedRem a b = some (a % b) := if_neg (Nat.ne_of_gt h)

theorem checkedAdd_eq_some_iff : checkedAdd limit a b = some c ↔ a + b < limit ∧ a + b = c := by
  rw [checkedAdd]
  split
  · rename_i h
    rw [Option.some.injEq, and_iff_right h]
  · rename_i h
    exact iff_of_false (fun hnone => (nomatch hnone)) fun hlt => h hlt.1

theorem checkedMul_eq_some_iff : checkedMul limit a b = some c ↔ a * b < limit ∧ a * b = c := by
  rw [checkedMul]
  split
  · rename_i h
    rw [Option.some.injEq, and_iff_right h]
  · rename_i h
    exact iff_of_false (fun hnone => (nomatch hnone)) fun hlt => h hlt.1

end Rust
