import Mathlib.Data.List.Basic

/-!
# Cutting a stream into frames

The complete frames of `N` samples of a stream, and the `rest` behind them. More samples that stay below the
next boundary join the rest; the ones that reach it complete a frame.
-/

namespace Sys

variable {α : Type} {N k : Nat} {xs ys : List α}

/-- Frame number `k`. -/
def frameAt (N : Nat) (xs : List α) (k : Nat) : List α := (xs.drop (k * N)).take N

/-- The frames that are complete. -/
def completeFrames (N : Nat) (xs : List α) : List (List α) :=
  (List.range (xs.length / N)).map (frameAt N xs)

/-- What is left behind them. -/
def incomplete (N : Nat) (xs : List α) : List α := xs.drop (xs.length / N * N)

theorem length_incomplete : (incomplete N xs).length = xs.length % N := by
  have h := Nat.div_add_mod' xs.length N
  rw [incomplete, List.length_drop]
  omega

/-- Later samples do not change a complete frame. -/
theorem frameAt_append (h : (k + 1) * N ≤ xs.length) : frameAt N (xs ++ ys) k = frameAt N xs k := by
  rw [Nat.succ_mul] at h
  have hlength : N ≤ (xs.drop (k * N)).length := by
    rw [List.length_drop]
    omega
  rw [frameAt, List.drop_append_of_le_length (by omega), List.take_append_of_le_length hlength,
    frameAt]

theorem length_completeFrames : (completeFrames N xs).length = xs.length / N := by
  simp [completeFrames]

@[simp] theorem completeFrames_nil : completeFrames N ([] : List α) = [] := by
  simp [completeFrames]

/-- The frames of a stream are those of a longer one. -/
theorem map_frameAt_append :
    (List.range (xs.length / N)).map (frameAt N (xs ++ ys)) = completeFrames N xs := by
  refine List.map_congr_left fun k hk => frameAt_append ?_
  have hle : (k + 1) * N ≤ xs.length / N * N := Nat.mul_le_mul_right N (List.mem_range.mp hk)
  exact Nat.le_trans hle (Nat.div_mul_le_self _ _)

section Below

variable (h : xs.length % N + ys.length < N)
include h

theorem div_append_of_lt : (xs ++ ys).length / N = xs.length / N := by
  have hdiv := Nat.div_add_mod' xs.length N
  rw [List.length_append]
  refine Nat.div_eq_of_lt_le (by omega) ?_
  rw [Nat.succ_mul]
  omega

theorem mod_append_of_lt : (xs ++ ys).length % N = xs.length % N + ys.length := by
  have hdiv := Nat.div_add_mod' xs.length N
  have hdiv' := Nat.div_add_mod' (xs ++ ys).length N
  rw [div_append_of_lt h, List.length_append] at hdiv'
  rw [List.length_append]
  omega

theorem completeFrames_append_of_lt : completeFrames N (xs ++ ys) = completeFrames N xs := by
  rw [completeFrames, div_append_of_lt h, map_frameAt_append]

theorem incomplete_append_of_lt : incomplete N (xs ++ ys) = incomplete N xs ++ ys := by
  rw [incomplete, div_append_of_lt h, List.drop_append_of_le_length (Nat.div_mul_le_self _ _),
    incomplete]

end Below

section Full

variable (h : xs.length % N + ys.length = N)
include h

theorem length_append_of_eq : (xs ++ ys).length = (xs.length / N + 1) * N := by
  have hdiv := Nat.div_add_mod' xs.length N
  rw [List.length_append, Nat.succ_mul]
  omega

theorem div_append_of_eq (hN : 0 < N) : (xs ++ ys).length / N = xs.length / N + 1 := by
  rw [length_append_of_eq h, Nat.mul_div_cancel _ hN]

theorem mod_append_of_eq : (xs ++ ys).length % N = 0 := by
  rw [length_append_of_eq h, Nat.mul_mod_left]

theorem frameAt_append_of_eq : frameAt N (xs ++ ys) (xs.length / N) = incomplete N xs ++ ys := by
  have hlength : (incomplete N xs ++ ys).length ≤ N := by
    rw [List.length_append, length_incomplete]
    omega
  rw [frameAt, List.drop_append_of_le_length (Nat.div_mul_le_self _ _)]
  exact List.take_of_length_le hlength

theorem completeFrames_append_of_eq (hN : 0 < N) :
    completeFrames N (xs ++ ys) = completeFrames N xs ++ [incomplete N xs ++ ys] := by
  rw [completeFrames, div_append_of_eq h hN, List.range_succ, List.map_append, map_frameAt_append,
    List.map_singleton, frameAt_append_of_eq h]

theorem incomplete_append_of_eq (hN : 0 < N) : incomplete N (xs ++ ys) = [] := by
  rw [incomplete, div_append_of_eq h hN, ← length_append_of_eq h, List.drop_length]

end Full

end Sys
