import UsbRadioPlus.Sys.Fallible

/-!
# Computations that end

`Ends m s R`: from the state `s`, `m` ends without a panic, and `R` holds of its result and of the state
behind it. The rules run a program step by step; the simp lemmas are the steps without a choice.
-/

namespace Sys
namespace Fallible

variable {σ ε α β : Type}

/-- The computation ends, and its result and its state meet `R`. -/
def Ends (m : Fallible σ ε α) (s : σ) (R : Except ε α → σ → Prop) : Prop :=
  ∃ r s', m s = some (r, s') ∧ R r s'

variable {m : Fallible σ ε α} {s : σ} {R R' : Except ε α → σ → Prop}

theorem Ends.imp (h : Ends m s R) (hR : ∀ r s', R r s' → R' r s') : Ends m s R' := by
  obtain ⟨r, s', hrun, hr⟩ := h
  exact ⟨r, s', hrun, hR r s' hr⟩

theorem Ends.exec (h : Ends m s R) {r : Except ε α} {s' : σ} (hrun : m s = some (r, s')) :
    R r s' := by
  obtain ⟨r', s'', hrun', hr⟩ := h
  obtain ⟨rfl, rfl⟩ := Prod.mk.inj (Option.some.inj (hrun.symm.trans hrun'))
  exact hr

@[simp] theorem ends_pure {a : α} :
    Ends (Pure.pure a : Fallible σ ε α) s R ↔ R (.ok a) s := by
  refine ⟨fun h => h.exec rfl, fun h => ⟨_, _, rfl, h⟩⟩

@[simp] theorem ends_fail {e : ε} : Ends (Fallible.fail e : Fallible σ ε α) s R ↔ R (.error e) s := by
  refine ⟨fun h => h.exec rfl, fun h => ⟨_, _, rfl, h⟩⟩

@[simp] theorem ends_of {r : Except ε α} : Ends (Fallible.of r) s R ↔ R r s := by
  refine ⟨fun h => h.exec rfl, fun h => ⟨_, _, rfl, h⟩⟩

@[simp] theorem ends_modify {f : σ → σ} {R : Except ε Unit → σ → Prop} :
    Ends (Fallible.modify f : Fallible σ ε Unit) s R ↔ R (.ok ()) (f s) := by
  refine ⟨fun h => h.exec rfl, fun h => ⟨_, _, rfl, h⟩⟩

theorem Ends.bind {f : α → Fallible σ ε β} {T : Except ε β → σ → Prop} (hm : Ends m s R)
    (hok : ∀ a s', R (.ok a) s' → Ends (f a) s' T) (herr : ∀ e s', R (.error e) s' → T (.error e) s') :
    Ends (m >>= f) s T := by
  obtain ⟨r, s', hrun, hr⟩ := hm
  cases r with
  | ok a =>
    obtain ⟨r, s'', hrun', hr'⟩ := hok a s' hr
    exact ⟨r, s'', by rw [bind_apply, hrun]; exact hrun', hr'⟩
  | error e => exact ⟨_, s', by rw [bind_apply, hrun], herr e s' hr⟩

@[simp] theorem ends_get_bind {f : σ → Fallible σ ε β} {T : Except ε β → σ → Prop} :
    Ends (Fallible.get >>= f) s T ↔ Ends (f s) s T := Iff.rfl

@[simp] theorem ends_modify_bind {g : σ → σ} {f : Unit → Fallible σ ε β}
    {T : Except ε β → σ → Prop} :
    Ends (Fallible.modify g >>= f) s T ↔ Ends (f ()) (g s) T := Iff.rfl

@[simp] theorem ends_pure_bind {a : α} {f : α → Fallible σ ε β} {T : Except ε β → σ → Prop} :
    Ends ((Pure.pure a : Fallible σ ε α) >>= f) s T ↔ Ends (f a) s T := Iff.rfl

@[simp] theorem ends_fail_bind {e : ε} {f : α → Fallible σ ε β} {T : Except ε β → σ → Prop} :
    Ends ((Fallible.fail e : Fallible σ ε α) >>= f) s T ↔ T (.error e) s := by
  refine ⟨fun h => h.exec rfl, fun h => ⟨_, _, rfl, h⟩⟩

@[simp] theorem ends_of_bind {e : ε} {f : α → Fallible σ ε β} {T : Except ε β → σ → Prop} :
    Ends (Fallible.of (.error e : Except ε α) >>= f) s T ↔ T (.error e) s := by
  refine ⟨fun h => h.exec rfl, fun h => ⟨_, _, rfl, h⟩⟩

@[simp] theorem ends_of_ok_bind {a : α} {f : α → Fallible σ ε β} {T : Except ε β → σ → Prop} :
    Ends (Fallible.of (.ok a : Except ε α) >>= f) s T ↔ Ends (f a) s T := Iff.rfl

theorem Ends.whenever {c : Bool} {m : Fallible σ ε Unit} {R : Except ε Unit → σ → Prop}
    (hm : c = true → Ends m s R) (hskip : c = false → R (.ok ()) s) :
    Ends (Fallible.whenever c m) s R := by
  cases c with
  | true => exact hm rfl
  | false => exact ends_pure.mpr (hskip rfl)

/-- The result as a value. -/
theorem Ends.attempt {T : Except ε (Except ε α) → σ → Prop}
    (h : Ends m s fun r => T (.ok r)) : Ends (Fallible.attempt m) s T := by
  obtain ⟨r, s', hrun, hr⟩ := h
  exact ⟨.ok r, s', by rw [Fallible.attempt, hrun]; rfl, hr⟩

/-- Behind an attempt both results go on. -/
theorem Ends.attempt_bind {f : Except ε α → Fallible σ ε β} {T : Except ε β → σ → Prop}
    (h : Ends m s R) (hf : ∀ r s', R r s' → Ends (f r) s' T) :
    Ends (Fallible.attempt m >>= f) s T := by
  obtain ⟨r, s', hrun, hr⟩ := h
  obtain ⟨r', s'', hrun', hr'⟩ := hf r s' hr
  exact ⟨r', s'', by rw [bind_apply, Fallible.attempt, hrun]; exact hrun', hr'⟩

/-- A computation on a part of the state. -/
theorem Ends.within {τ ε' : Type} {view : τ → σ} {put : τ → σ → τ} {failure : ε → ε'} {t : τ}
    {T : Except ε' α → τ → Prop}
    (h : Ends m (view t) fun r s' => T (match r with
      | .ok a => .ok a
      | .error e => .error (failure e)) (put t s')) :
    Ends (Fallible.within view put failure m) t T := by
  obtain ⟨r, s', hrun, hr⟩ := h
  exact ⟨_, _, by rw [Fallible.within, hrun]; rfl, hr⟩

end Fallible
end Sys
