import Mathlib.Logic.Basic

/-!
# Results with an error

Inversion of a program of type `Except ε α`: where its result, or its error, comes from.
-/

namespace Sys

variable {ε ε' α β : Type}

theorem bind_eq_ok_iff {m : Except ε α} {f : α → Except ε β} {b : β} :
    m >>= f = .ok b ↔ ∃ a, m = .ok a ∧ f a = .ok b := by
  cases m with
  | error e => exact ⟨fun h => (nomatch h), fun ⟨_, h, _⟩ => (nomatch h)⟩
  | ok a => exact ⟨fun h => ⟨a, rfl, h⟩, fun ⟨_, ha, h⟩ => Except.ok.inj ha ▸ h⟩

theorem bind_eq_error_iff {m : Except ε α} {f : α → Except ε β} {e : ε} :
    m >>= f = .error e ↔ m = .error e ∨ ∃ a, m = .ok a ∧ f a = .error e := by
  cases m with
  | error e' =>
    exact ⟨fun h => .inl (congrArg _ (Except.error.inj h)),
      fun h => h.elim (fun h => congrArg _ (Except.error.inj h)) fun ⟨_, ha, _⟩ => (nomatch ha)⟩
  | ok a =>
    exact ⟨fun h => .inr ⟨a, rfl, h⟩,
      fun h => h.elim (fun h => (nomatch h)) fun ⟨_, ha, h⟩ => Except.ok.inj ha ▸ h⟩

theorem mapError_eq_ok_iff {m : Except ε α} {f : ε → ε'} {a : α} :
    m.mapError f = .ok a ↔ m = .ok a := by
  cases m with
  | error e => exact ⟨fun h => (nomatch h), fun h => (nomatch h)⟩
  | ok b => exact ⟨fun h => congrArg _ (Except.ok.inj h), fun h => congrArg _ (Except.ok.inj h)⟩

theorem mapError_eq_error_iff {m : Except ε α} {f : ε → ε'} {e' : ε'} :
    m.mapError f = .error e' ↔ ∃ e, m = .error e ∧ f e = e' := by
  cases m with
  | error e =>
    exact ⟨fun h => ⟨e, rfl, Except.error.inj h⟩,
      fun ⟨_, he, h⟩ => congrArg _ (Except.error.inj he ▸ h)⟩
  | ok b => exact ⟨fun h => (nomatch h), fun ⟨_, h, _⟩ => (nomatch h)⟩

theorem forM_eq_ok_iff {l : List α} {f : α → Except ε Unit} :
    l.forM f = .ok () ↔ ∀ a ∈ l, f a = .ok () := by
  induction l with
  | nil => exact iff_of_true rfl fun a ha => absurd ha List.not_mem_nil
  | cons a l ih =>
    rw [List.forM, bind_eq_ok_iff, List.forall_mem_cons, ← ih]
    exact ⟨fun ⟨_, ha, h⟩ => ⟨ha, h⟩, fun ⟨ha, h⟩ => ⟨(), ha, h⟩⟩

theorem exists_of_forM_eq_error {l : List α} {f : α → Except ε Unit} {e : ε}
    (h : l.forM f = .error e) : ∃ a ∈ l, f a = .error e := by
  induction l with
  | nil => cases h
  | cons a l ih =>
    rw [List.forM, bind_eq_error_iff] at h
    rcases h with h | ⟨_, -, h⟩
    · exact ⟨a, List.mem_cons_self, h⟩
    · obtain ⟨b, hb, he⟩ := ih h
      exact ⟨b, List.mem_cons_of_mem a hb, he⟩

end Sys
