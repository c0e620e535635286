import Mathlib.Logic.Basic

/-!
# Computations that keep their state behind a failure

`Fallible σ ε α` changes a state of type `σ` and ends with a value or a failure; what it did in front
of a failure stays done, and `attempt` goes on behind one. A panic ends the computation for good and
leaves no state.

`Returns I m`: `m` ends without a panic and keeps `I`. `Triple P m Q E`: from a state with `P`, `Q`
holds of the value and the state behind `m`, and `E` of the failure and the state behind it.
`Keeps I m`: `m` keeps `I`, whether it fails or not. The rules follow the shape of the program.
-/

namespace Sys

/-- `none`: a panic. -/
def Fallible (σ ε α : Type) : Type := σ → Option (Except ε α × σ)

namespace Fallible

variable {σ ε α β : Type}

instance : Monad (Fallible σ ε) where
  pure a := fun s => some (.ok a, s)
  bind m f := fun s => match m s with
    | some (.ok a, s') => f a s'
    | some (.error e, s') => some (.error e, s')
    | none => none

/-- The state. -/
def get : Fallible σ ε σ := fun s => some (.ok s, s)

/-- A change of the state. -/
def modify (f : σ → σ) : Fallible σ ε Unit := fun s => some (.ok (), f s)

/-- A failure, which keeps the state. -/
def fail (e : ε) : Fallible σ ε α := fun s => some (.error e, s)

/-- No result at all. -/
def panicked : Fallible σ ε α := fun _ => none

/-- A result that is there already. -/
def of (r : Except ε α) : Fallible σ ε α := fun s => some (r, s)

/-- `m`, where the condition holds. -/
def whenever (c : Bool) (m : Fallible σ ε Unit) : Fallible σ ε Unit := if c then m else pure ()

/-- `m` on a part of a larger state, with failures of another type. -/
def within {τ ε' : Type} (view : τ → σ) (put : τ → σ → τ) (failure : ε → ε') (m : Fallible σ ε α) :
    Fallible τ ε' α := fun t =>
  (m (view t)).map fun (r, s) => (match r with
    | .ok a => .ok a
    | .error e => .error (failure e), put t s)

/-- The result as a value. -/
def attempt (m : Fallible σ ε α) : Fallible σ ε (Except ε α) := fun s =>
  (m s).map fun (r, s') => (.ok r, s')

theorem bind_apply (m : Fallible σ ε α) (f : α → Fallible σ ε β) (s : σ) :
    (m >>= f) s = match m s with
      | some (.ok a, s') => f a s'
      | some (.error e, s') => some (.error e, s')
      | none => none := rfl

/-! ## Triples -/

/-- From a state with `P`, `Q` holds behind a value and `E` behind a failure. -/
def Triple (P : σ → Prop) (m : Fallible σ ε α) (Q : α → σ → Prop) (E : ε → σ → Prop) : Prop :=
  ∀ s, P s → match m s with
    | some (.ok a, s') => Q a s'
    | some (.error e, s') => E e s'
    | none => True

variable {P : σ → Prop} {m : Fallible σ ε α} {Q : α → σ → Prop} {E : ε → σ → Prop}

theorem Triple.imp (h : Triple P m Q E) {P' : σ → Prop} {Q' : α → σ → Prop} {E' : ε → σ → Prop}
    (hP : ∀ s, P' s → P s) (hQ : ∀ a s, Q a s → Q' a s) (hE : ∀ e s, E e s → E' e s) :
    Triple P' m Q' E' := by
  intro s hs
  have hm := h s (hP s hs)
  split <;> rename_i heq <;> rw [heq] at hm
  · exact hQ _ _ hm
  · exact hE _ _ hm
  · trivial

theorem Triple.and {P' : σ → Prop} {Q' : α → σ → Prop} {E' : ε → σ → Prop} (h : Triple P m Q E)
    (h' : Triple P' m Q' E') :
    Triple (fun s => P s ∧ P' s) m (fun a s => Q a s ∧ Q' a s) fun e s => E e s ∧ E' e s := by
  intro s hs
  have hm := h s hs.1
  have hm' := h' s hs.2
  rcases hrun : m s with _ | ⟨_ | a, s'⟩ <;> rw [hrun] at hm hm'
  · trivial
  · exact ⟨hm, hm'⟩
  · exact ⟨hm, hm'⟩

/-- A fact that the state does not touch. -/
theorem Triple.of_and {p : Prop} (h : p → Triple P m Q E) : Triple (fun s => P s ∧ p) m Q E :=
  fun s hs => h hs.2 s hs.1

theorem Triple.of_exists {ι : Type} {P : ι → σ → Prop} (h : ∀ i, Triple (P i) m Q E) :
    Triple (fun s => ∃ i, P i s) m Q E :=
  fun s ⟨i, hs⟩ => h i s hs

theorem Triple.pure {a : α} (h : ∀ s, P s → Q a s) :
    Triple P (Pure.pure a : Fallible σ ε α) Q E := h

theorem Triple.bind {f : α → Fallible σ ε β} {R : β → σ → Prop} (hm : Triple P m Q E)
    (hf : ∀ a, Triple (Q a) (f a) R E) : Triple P (m >>= f) R E := by
  intro s hs
  have hm := hm s hs
  rw [bind_apply]
  rcases hrun : m s with _ | ⟨_ | a, s'⟩ <;> rw [hrun] at hm
  · trivial
  · exact hm
  · exact hf a s' hm

/-- The first part cannot fail. -/
theorem Triple.bindTotal {f : α → Fallible σ ε β} {R : β → σ → Prop}
    (hm : Triple P m Q fun _ _ => False) (hf : ∀ a, Triple (Q a) (f a) R E) :
    Triple P (m >>= f) R E :=
  (hm.imp (fun _ h => h) (fun _ _ h => h) fun _ _ h => h.elim).bind hf

theorem Triple.modify {f : σ → σ} {Q : Unit → σ → Prop} (h : ∀ s, P s → Q () (f s)) :
    Triple P (Fallible.modify f : Fallible σ ε Unit) Q E := h

theorem Triple.fail {e : ε} (h : ∀ s, P s → E e s) :
    Triple P (Fallible.fail e : Fallible σ ε α) Q E := h

theorem Triple.panicked : Triple P (Fallible.panicked : Fallible σ ε α) Q E := fun _ _ => trivial

theorem Triple.of {r : Except ε α} (hok : ∀ a, r = .ok a → ∀ s, P s → Q a s)
    (herr : ∀ e, r = .error e → ∀ s, P s → E e s) : Triple P (Fallible.of r) Q E := by
  intro s hs
  rcases r with e | a
  · exact herr e rfl s hs
  · exact hok a rfl s hs

theorem Triple.whenever {c : Bool} {m : Fallible σ ε Unit} {Q : Unit → σ → Prop}
    (hm : c = true → Triple P m Q E) (hskip : c = false → ∀ s, P s → Q () s) :
    Triple P (Fallible.whenever c m) Q E := by
  cases c with
  | true => exact hm rfl
  | false => exact hskip rfl

theorem Triple.attempt {R : Except ε α → σ → Prop}
    (h : Triple P m (fun a => R (.ok a)) fun e => R (.error e)) :
    Triple P (Fallible.attempt m) R E := by
  intro s hs
  have hm := h s hs
  unfold Fallible.attempt
  rcases hrun : m s with _ | ⟨_ | a, s'⟩ <;> rw [hrun] at hm
  · trivial
  · exact hm
  · exact hm

theorem Triple.within {τ ε' : Type} {view : τ → σ} {put : τ → σ → τ} {failure : ε → ε'}
    {P' : τ → Prop} {Q' : α → τ → Prop} {E' : ε' → τ → Prop}
    (h : ∀ t, P' t → Triple (· = view t) m (fun a s => Q' a (put t s))
      fun e s => E' (failure e) (put t s)) :
    Triple P' (Fallible.within view put failure m) Q' E' := by
  intro t ht
  have hm := h t ht (view t) rfl
  unfold Fallible.within
  rcases hrun : m (view t) with _ | ⟨_ | a, s'⟩ <;> rw [hrun] at hm
  · trivial
  · exact hm
  · exact hm

/-- What follows reads the state. -/
theorem Triple.get {f : σ → Fallible σ ε β} {R : β → σ → Prop}
    (h : ∀ s, P s → Triple (· = s) (f s) R E) : Triple P (Fallible.get >>= f) R E :=
  fun s hs => h s hs s rfl

/-- A loop: `I` holds behind the members that are done. -/
theorem Triple.forM {ι : Type} {l : List ι} {f : ι → Fallible σ ε Unit} {I : List ι → σ → Prop}
    (h : ∀ done i rest, l = done ++ i :: rest → Triple (I done) (f i) (fun _ => I (done ++ [i])) E) :
    Triple (I []) (l.forM f) (fun _ => I l) E := by
  suffices hrest : ∀ rest done, l = done ++ rest → Triple (I done) (rest.forM f) (fun _ => I l) E from
    hrest l [] rfl
  intro rest
  induction rest with
  | nil =>
    intro done hl
    rw [List.append_nil] at hl
    exact Triple.pure fun s hs => hl ▸ hs
  | cons i rest ih =>
    intro done hl
    exact Triple.bind (h done i rest hl) fun _ => ih (done ++ [i]) (by simp [hl])

/-! ## Invariants -/

/-- `m` keeps `I`, also where it fails. -/
def Keeps (I : σ → Prop) (m : Fallible σ ε α) : Prop := Triple I m (fun _ => I) fun _ => I

variable {I : σ → Prop}

theorem Keeps.pure (a : α) : Keeps I (Pure.pure a : Fallible σ ε α) := fun _ h => h

theorem Keeps.bind {f : α → Fallible σ ε β} (hm : Keeps I m) (hf : ∀ a, Keeps I (f a)) :
    Keeps I (m >>= f) := Triple.bind hm hf

theorem Keeps.modify {f : σ → σ} (h : ∀ s, I s → I (f s)) :
    Keeps I (Fallible.modify f : Fallible σ ε Unit) := h

theorem Keeps.fail (e : ε) : Keeps I (Fallible.fail e : Fallible σ ε α) := fun _ h => h

theorem Keeps.of (r : Except ε α) : Keeps I (Fallible.of r) :=
  Triple.of (fun _ _ _ h => h) fun _ _ _ h => h

theorem Keeps.whenever {c : Bool} {m : Fallible σ ε Unit} (h : c = true → Keeps I m) :
    Keeps I (Fallible.whenever c m) := Triple.whenever h fun _ _ hs => hs

theorem Keeps.attempt (h : Keeps I m) : Keeps I (Fallible.attempt m) := Triple.attempt h

/-- What follows reads the state. -/
theorem Keeps.get {f : σ → Fallible σ ε β} (h : ∀ s, I s → Keeps I (f s)) :
    Keeps I (Fallible.get >>= f) := fun s hs => h s hs s hs

/-- Behind a failure less is known. -/
theorem Keeps.failing {J : σ → Prop} (h : Keeps I m) (hJ : ∀ s, I s → J s) :
    Triple I m (fun _ => I) fun _ => J := h.imp (fun _ hs => hs) (fun _ _ hs => hs) fun _ => hJ

theorem Keeps.exec (h : Keeps I m) {s s' : σ} {r : Except ε α} (hs : I s)
    (hrun : m s = some (r, s')) : I s' := by
  have hm := h s hs
  rw [hrun] at hm
  cases r <;> exact hm

theorem Keeps.of_exec (h : ∀ s r s', I s → m s = some (r, s') → I s') : Keeps I m := by
  intro s hs
  split
  · next hrun => exact h s _ _ hs hrun
  · next hrun => exact h s _ _ hs hrun
  · trivial

/-! ## Computations without a panic -/

/-- `m` ends without a panic, and keeps `I`. -/
def Returns (I : σ → Prop) (m : Fallible σ ε α) : Prop := ∀ s, I s → ∃ r s', m s = some (r, s') ∧ I s'

theorem Returns.pure (a : α) : Returns I (Pure.pure a : Fallible σ ε α) :=
  fun s h => ⟨.ok a, s, rfl, h⟩

theorem Returns.bind {f : α → Fallible σ ε β} (hm : Returns I m) (hf : ∀ a, Returns I (f a)) :
    Returns I (m >>= f) := by
  intro s hs
  rw [bind_apply]
  obtain ⟨r, s', hrun, hs'⟩ := hm s hs
  rw [hrun]
  cases r with
  | ok a => exact hf a s' hs'
  | error e => exact ⟨_, _, rfl, hs'⟩

theorem Returns.get {f : σ → Fallible σ ε β} (h : ∀ s, I s → Returns I (f s)) :
    Returns I (Fallible.get >>= f) := fun s hs => h s hs s hs

theorem Returns.modify {f : σ → σ} (h : ∀ s, I s → I (f s)) :
    Returns I (Fallible.modify f : Fallible σ ε Unit) := fun s hs => ⟨_, _, rfl, h s hs⟩

theorem Returns.fail (e : ε) : Returns I (Fallible.fail e : Fallible σ ε α) :=
  fun _ hs => ⟨_, _, rfl, hs⟩

theorem Returns.of (r : Except ε α) : Returns I (Fallible.of r) := fun _ hs => ⟨_, _, rfl, hs⟩

theorem Returns.whenever {c : Bool} {m : Fallible σ ε Unit} (h : Returns I m) :
    Returns I (Fallible.whenever c m) := by
  cases c with
  | true => exact h
  | false => exact Returns.pure ()

theorem Returns.forM {ι : Type} {l : List ι} {f : ι → Fallible σ ε Unit} (h : ∀ i, Returns I (f i)) :
    Returns I (l.forM f) := by
  induction l with
  | nil => exact Returns.pure ()
  | cons i rest ih => exact Returns.bind (h i) fun _ => ih

theorem Returns.attempt (h : Returns I m) : Returns I (Fallible.attempt m) := by
  intro s hs
  obtain ⟨r, s', hrun, hs'⟩ := h s hs
  exact ⟨.ok r, s', by rw [Fallible.attempt, hrun]; rfl, hs'⟩

end Fallible
end Sys
