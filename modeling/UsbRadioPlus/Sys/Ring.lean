import Mathlib.Logic.Function.Basic
import Mathlib.Data.Nat.ModEq

/-!
# Rings

`n` cells are used in a circle: the cell behind `n - 1` is `0`. `Holds cells n first ws` says that
the cells from `first` on hold the list `ws`. A list of at most `n` items uses no cell twice
(`index_inj`), so an item goes in behind the last one (`Holds.push`), comes out at the front
(`Holds.pop`), and a free cell can be written (`Holds.update`).
-/

namespace Ring

/-- The cell behind another. -/
def next (index n : Nat) : Nat := (index + 1) % n

/-- The number of cells from one to another. -/
def distance (first second n : Nat) : Nat := (second + n - first) % n

theorem index_inj {n first i j : Nat} (hi : i < n) (hj : j < n)
    (h : (first + i) % n = (first + j) % n) : i = j := by
  have := Nat.ModEq.add_left_cancel' first (h : first + i ≡ first + j [MOD n])
  rwa [Nat.ModEq, Nat.mod_eq_of_lt hi, Nat.mod_eq_of_lt hj] at this

theorem next_lt {n : Nat} (hn : 0 < n) (i : Nat) : next i n < n := Nat.mod_lt _ hn

theorem next_add (first k n : Nat) : next ((first + k) % n) n = (first + (k + 1)) % n := by
  rw [next, Nat.mod_add_mod, Nat.add_assoc]

theorem distance_add {first k n : Nat} (hf : first < n) (hk : k < n) :
    distance first ((first + k) % n) n = k := by
  rw [distance]
  rcases Nat.lt_or_ge (first + k) n with h | h
  · rw [Nat.mod_eq_of_lt h, show first + k + n - first = k + n by omega, Nat.add_mod_right,
      Nat.mod_eq_of_lt hk]
  · have hmod : (first + k) % n = first + k - n := by
      rw [Nat.mod_eq_sub_mod h, Nat.mod_eq_of_lt (by omega)]
    rw [hmod, show first + k - n + n - first = k by omega, Nat.mod_eq_of_lt hk]

variable {α : Type*}

/-- The cells from `first` on hold the list. -/
def Holds (cells : Nat → α) (n first : Nat) (ws : List α) : Prop :=
  ∀ i (h : i < ws.length), cells ((first + i) % n) = ws[i]

theorem holds_nil (cells : Nat → α) (n first : Nat) : Holds cells n first [] :=
  fun i h => absurd h (Nat.not_lt_zero i)

namespace Holds

variable {cells : Nat → α} {n first : Nat} {ws : List α}

/-- A cell outside the list can be written. -/
theorem update (h : Holds cells n first ws) {k : Nat} (hk : ws.length ≤ k) (hn : k < n) (x : α) :
    Holds (Function.update cells ((first + k) % n) x) n first ws := by
  intro i hi
  have hne : (first + i) % n ≠ (first + k) % n := fun e => by
    have := index_inj (by omega) hn e
    omega
  rw [Function.update_of_ne hne, h i hi]

/-- An item in the cell behind the last one. -/
theorem concat (h : Holds cells n first ws) {x : α}
    (hx : cells ((first + ws.length) % n) = x) : Holds cells n first (ws ++ [x]) := by
  intro i hi
  rcases Nat.lt_or_ge i ws.length with h' | h'
  · rw [List.getElem_append_left h', h i h']
  · obtain rfl : i = ws.length := by
      rw [List.length_append, List.length_singleton] at hi
      omega
    rw [List.getElem_concat_length rfl, hx]

/-- An item written behind the last one. -/
theorem push (h : Holds cells n first ws) (hn : ws.length < n) (x : α) :
    Holds (Function.update cells ((first + ws.length) % n) x) n first (ws ++ [x]) :=
  (h.update (Nat.le_refl _) hn x).concat (Function.update_self _ _ _)

theorem head {w : α} (h : Holds cells n first (w :: ws)) : cells (first % n) = w :=
  h 0 (Nat.zero_lt_succ _)

/-- The first item taken out. -/
theorem pop {w : α} (h : Holds cells n first (w :: ws)) : Holds cells n (next first n) ws := by
  intro i hi
  have := h (i + 1) (Nat.succ_lt_succ hi)
  rw [next, Nat.mod_add_mod, Nat.add_assoc, Nat.add_comm 1 i, this]
  rfl

end Holds
end Ring
