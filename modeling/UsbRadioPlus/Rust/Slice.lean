import Mathlib.Data.List.Basic

/-!
# Spans of a buffer

`readSpan` is a slice of a buffer, and `writeSpan` copies values into one; `none` is an index out of range.
-/

namespace Rust

variable {α : Type} {buffer values : List α} {start count : Nat}

/-- `&buffer[start..start + count]` -/
def readSpan (buffer : List α) (start count : Nat) : Option (List α) :=
  if start + count ≤ buffer.length then some ((buffer.drop start).take count) else none

/-- `buffer[start..start + values.len()].copy_from_slice(values)` -/
def writeSpan (buffer : List α) (start : Nat) (values : List α) : Option (List α) :=
  if start + values.length ≤ buffer.length then
    some (buffer.take start ++ values ++ buffer.drop (start + values.length))
  else none

theorem readSpan_of_le (h : start + count ≤ buffer.length) :
    readSpan buffer start count = some ((buffer.drop start).take count) := if_pos h

/-- A write in range keeps what lies in front of it and behind it. -/
theorem exists_writeSpan (h : start + values.length ≤ buffer.length) :
    ∃ after, writeSpan buffer start values = some after ∧ after.length = buffer.length ∧
      after.take (start + values.length) = buffer.take start ++ values ∧
      after.drop (start + values.length) = buffer.drop (start + values.length) := by
  have hfront : (buffer.take start ++ values).length = start + values.length := by
    rw [List.length_append, List.length_take, Nat.min_eq_left (by omega)]
  refine ⟨_, if_pos h, ?_, ?_, ?_⟩
  · rw [List.length_append, hfront, List.length_drop]
    omega
  · rw [List.take_append_of_le_length (Nat.le_of_eq hfront.symm), List.take_of_length_le (Nat.le_of_eq hfront)]
  · rw [List.drop_append_of_le_length (Nat.le_of_eq hfront.symm), List.drop_of_length_le (Nat.le_of_eq hfront), List.nil_append]

end Rust
