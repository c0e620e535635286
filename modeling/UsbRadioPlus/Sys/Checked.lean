import Mathlib.Logic.Basic

/-!
# Results, failures and panics

A computation of type `ExceptT ε Option α` ends with a value, fails, or panics. `Yields m P`: `m` does
not panic and its values are those with `P`; where none has, it fails. `Ensures m Q`: a value of `m` has
`Q`. `Total m`: `m` does not panic. The rules follow the shape of the program.
-/

namespace Sys

variable {ε α β : Type}

/-- `m` does not panic, and has exactly the values with `P`. -/
def Yields (m : ExceptT ε Option α) (P : α → Prop) : Prop :=
  ∃ result, m.run = some result ∧ ∀ a, result = .ok a ↔ P a

/-- A value of `m` has `Q`. -/
def Ensures (m : ExceptT ε Option α) (Q : α → Prop) : Prop := ∀ a, m.run = some (.ok a) → Q a

/-- `m` does not panic. -/
def Total (m : ExceptT ε Option α) : Prop := ∃ result, m.run = some result

namespace Yields

variable {m : ExceptT ε Option α} {P : α → Prop} {f : α → ExceptT ε Option β} {Q : β → Prop}

theorem imp (h : Yields m P) {P' : α → Prop} (hP : ∀ a, P a ↔ P' a) : Yields m P' := by
  obtain ⟨result, hrun, hvalue⟩ := h
  exact ⟨result, hrun, fun a => (hvalue a).trans (hP a)⟩

theorem pure {a : α} (h : ∀ b, a = b ↔ P b) : Yields (Pure.pure a : ExceptT ε Option α) P :=
  ⟨.ok a, rfl, fun b => by rw [← h b, Except.ok.injEq]⟩

theorem throw {e : ε} (h : ∀ a, ¬ P a) : Yields (throw e : ExceptT ε Option α) P :=
  ⟨.error e, rfl, fun a => iff_of_false (by simp) (h a)⟩

theorem throwing {e : ε} {f : β → ExceptT ε Option α} (h : ∀ a, ¬ P a) :
    Yields ((MonadExcept.throw e : ExceptT ε Option β) >>= f) P :=
  ⟨.error e, rfl, fun a => iff_of_false (by simp) (h a)⟩

/-- A value of the first part decides the second. -/
theorem bind {R : α → β → Prop} (hm : Yields m P) (hf : ∀ a, P a → Yields (f a) (R a))
    (hQ : ∀ b, Q b ↔ ∃ a, P a ∧ R a b) : Yields (m >>= f) Q := by
  obtain ⟨result, hrun, hvalue⟩ := hm
  cases result with
  | error e =>
    refine ⟨.error e, ?_, fun b => iff_of_false (by simp) ?_⟩
    · rw [ExceptT.run_bind, hrun]
      rfl
    · rw [hQ]
      rintro ⟨a, ha, -⟩
      exact absurd ((hvalue a).mpr ha) (by simp)
  | ok a =>
    have ha : P a := (hvalue a).mp rfl
    obtain ⟨result', hrun', hvalue'⟩ := hf a ha
    refine ⟨result', ?_, fun b => (hvalue' b).trans ⟨fun h => (hQ b).mpr ⟨a, ha, h⟩, fun h => ?_⟩⟩
    · rw [ExceptT.run_bind, hrun]
      exact hrun'
    · obtain ⟨a', ha', h⟩ := (hQ b).mp h
      obtain rfl : a = a' := Except.ok.inj ((hvalue a').mpr ha')
      exact h

/-- The first part has one value. -/
theorem bindTo {a : α} (hm : Yields m fun b => b = a) (hf : Yields (f a) Q) : Yields (m >>= f) Q :=
  hm.bind (R := fun _ => Q) (fun _ hb => hb ▸ hf) fun _ =>
    ⟨fun h => ⟨a, rfl, h⟩, fun ⟨_, _, h⟩ => h⟩

theorem ite {c : Prop} [Decidable c] {m' : ExceptT ε Option α} (h : c → Yields m P)
    (h' : ¬ c → Yields m' P) : Yields (if c then m else m') P := by
  split
  · exact h ‹c›
  · exact h' ‹¬ c›

end Yields

namespace Ensures

variable {m : ExceptT ε Option α} {P Q : α → Prop} {f : α → ExceptT ε Option β} {R : β → Prop}

theorem imp (h : Ensures m P) (hP : ∀ a, P a → Q a) : Ensures m Q := fun a ha => hP a (h a ha)

theorem pure {a : α} (h : Q a) : Ensures (Pure.pure a : ExceptT ε Option α) Q := by
  intro b hb
  obtain rfl : a = b := by simpa using hb
  exact h

theorem throw (e : ε) : Ensures (throw e : ExceptT ε Option α) Q :=
  fun a h => absurd h (by simp)

theorem throwing (e : ε) {f : β → ExceptT ε Option α} :
    Ensures ((MonadExcept.throw e : ExceptT ε Option β) >>= f) Q :=
  fun a h => absurd h (by intro h; cases h)

theorem bind (hm : Ensures m P) (hf : ∀ a, P a → Ensures (f a) R) : Ensures (m >>= f) R := by
  intro b hb
  rw [ExceptT.run_bind] at hb
  obtain ⟨result, hrun, hb⟩ := Option.bind_eq_some_iff.mp hb
  cases result with
  | error e => exact absurd hb (by simp)
  | ok a => exact hf a (hm a hrun) b hb

/-- Of the first part nothing is known. -/
theorem andThen (hf : ∀ a, Ensures (f a) R) : Ensures (m >>= f) R :=
  bind (P := fun _ => True) (fun _ _ => trivial) fun a _ => hf a

theorem map {g : α → β} (h : Ensures m fun a => R (g a)) : Ensures (g <$> m) R := by
  rw [map_eq_pure_bind]
  exact h.bind fun a ha => Ensures.pure ha

theorem ite {c : Prop} [Decidable c] {m' : ExceptT ε Option α} (h : c → Ensures m Q)
    (h' : ¬ c → Ensures m' Q) : Ensures (if c then m else m') Q := by
  split
  · exact h ‹c›
  · exact h' ‹¬ c›

end Ensures

namespace Total

variable {m : ExceptT ε Option α} {f : α → ExceptT ε Option β}

theorem pure (a : α) : Total (Pure.pure a : ExceptT ε Option α) := ⟨.ok a, rfl⟩

theorem throw (e : ε) : Total (throw e : ExceptT ε Option α) := ⟨.error e, rfl⟩

/-- Only where the first part has a value the second matters. -/
theorem bind (hm : Total m) (hf : ∀ a, m.run = some (.ok a) → Total (f a)) : Total (m >>= f) := by
  obtain ⟨result, hrun⟩ := hm
  cases result with
  | error e =>
    refine ⟨.error e, ?_⟩
    rw [ExceptT.run_bind, hrun]
    rfl
  | ok a =>
    obtain ⟨result', hrun'⟩ := hf a hrun
    refine ⟨result', ?_⟩
    rw [ExceptT.run_bind, hrun]
    exact hrun'

theorem andThen (hm : Total m) (hf : ∀ a, Total (f a)) : Total (m >>= f) := hm.bind fun a _ => hf a

theorem throwing (e : ε) {f : β → ExceptT ε Option α} :
    Total ((MonadExcept.throw e : ExceptT ε Option β) >>= f) :=
  bind (throw e) fun _ h => nomatch h

theorem map {g : α → β} (h : Total m) : Total (g <$> m) := by
  rw [map_eq_pure_bind]
  exact h.andThen fun a => pure (g a)

theorem ite {c : Prop} [Decidable c] {m' : ExceptT ε Option α} (h : c → Total m)
    (h' : ¬ c → Total m') : Total (if c then m else m') := by
  split
  · exact h ‹c›
  · exact h' ‹¬ c›

end Total

theorem Yields.total {m : ExceptT ε Option α} {P : α → Prop} (h : Yields m P) : Total m :=
  ⟨h.choose, h.choose_spec.1⟩

end Sys
