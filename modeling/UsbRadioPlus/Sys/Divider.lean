import Mathlib.Algebra.Order.Ring.Nat

/-!
# Dividers of a rate

A tick adds `rate` to a remainder and counts the multiples of `hz` in it. Behind `n` ticks it has counted
`n * rate / hz` (`Divided.total_eq`), whatever is lost in a single tick; a tick counts at most `cap` where
`cap * hz` is no less than `rate` (`Divided.count_le`).
-/

namespace Sys

/-- What `n` ticks leave. -/
structure Divided (rate hz n total remainder : Nat) : Prop where
  below : remainder < hz
  exact : total * hz + remainder = n * rate

namespace Divided

variable {rate hz n total remainder cap : Nat}

theorem start (h : 0 < hz) : Divided rate hz 0 0 0 := ⟨h, by omega⟩

theorem tick (h : Divided rate hz n total remainder) :
    Divided rate hz (n + 1) (total + (remainder + rate) / hz) ((remainder + rate) % hz) := by
  refine ⟨Nat.mod_lt _ (Nat.zero_lt_of_lt h.below), ?_⟩
  have hsum : (remainder + rate) / hz * hz + (remainder + rate) % hz = remainder + rate :=
    Nat.div_add_mod' _ _
  have hexact := h.exact
  rw [Nat.add_mul, Nat.add_mul, Nat.one_mul]
  omega

theorem total_eq (h : Divided rate hz n total remainder) : total = n * rate / hz := by
  have hpos : 0 < hz := Nat.zero_lt_of_lt h.below
  rw [← h.exact, Nat.add_comm, Nat.add_mul_div_right _ _ hpos, Nat.div_eq_of_lt h.below, Nat.zero_add]

theorem count_le (h : remainder < hz) (hcap : rate ≤ cap * hz) : (remainder + rate) / hz ≤ cap := by
  have hpos : 0 < hz := Nat.zero_lt_of_lt h
  refine Nat.lt_succ_iff.mp ((Nat.div_lt_iff_lt_mul hpos).mpr ?_)
  rw [Nat.succ_mul]
  omega

end Divided
end Sys
