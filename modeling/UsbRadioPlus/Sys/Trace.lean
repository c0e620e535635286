import Mathlib.Data.List.Basic

/-!
# Computations that record their calls

`Traced ε σ α` is a computation in an environment of type `σ`. It answers with a value of type `α`
and leaves the calls it made, oldest first, and the environment behind them. Environments decide
every answer, so a property of all of them is one of every pattern of answers.

`Leaves m Q`: in every environment, `Q` holds of the value and the calls of `m`. The rules follow
the shape of the program: `Leaves.bind`, `Leaves.tryBind` for a computation that may fail,
`Leaves.forM` for a loop and `Leaves.tryForM` for a loop that the first failure ends.
-/

namespace Sys

/-- A computation in an environment of type `σ` that records calls of type `ε`. -/
def Traced (ε σ α : Type) : Type := σ → α × List ε × σ

namespace Traced

variable {ε σ ξ α β ι : Type}

instance : Monad (Traced ε σ) where
  pure a := fun s => (a, [], s)
  bind m f := fun s =>
    let (a, t, s') := m s
    let (b, u, s'') := f a s'
    (b, t ++ u, s'')

/-- One call: the environment answers, and the call is recorded with the answer. -/
def call (f : σ → α × σ) (event : α → ε) : Traced ε σ α := fun s =>
  ((f s).1, [event (f s).1], (f s).2)

/-- In every environment, `Q` holds of the value and of the calls. -/
def Leaves (m : Traced ε σ α) (Q : α → List ε → Prop) : Prop := ∀ s, Q (m s).1 (m s).2.1

theorem Leaves.imp {m : Traced ε σ α} {Q R : α → List ε → Prop} (h : m.Leaves Q)
    (hQ : ∀ a t, Q a t → R a t) : m.Leaves R :=
  fun s => hQ _ _ (h s)

theorem Leaves.pure {a : α} {Q : α → List ε → Prop} (h : Q a []) :
    Leaves (Pure.pure a : Traced ε σ α) Q :=
  fun _ => h

theorem Leaves.call {f : σ → α × σ} {event : α → ε} {Q : α → List ε → Prop}
    (h : ∀ a, Q a [event a]) : (Traced.call f event).Leaves Q :=
  fun _ => h _

theorem Leaves.bind {m : Traced ε σ α} {f : α → Traced ε σ β} {Q : α → List ε → Prop}
    {R : β → List ε → Prop} (hm : m.Leaves Q)
    (hf : ∀ a t, Q a t → (f a).Leaves fun b u => R b (t ++ u)) : (m >>= f).Leaves R :=
  fun s => hf _ _ (hm s) (m s).2.2

/-! ## Computations that may fail -/

theorem Leaves.tryPure {a : α} {Q : Except ξ α → List ε → Prop} (h : Q (.ok a) []) :
    Leaves (Pure.pure a : ExceptT ξ (Traced ε σ) α).run Q :=
  fun _ => h

/-- A failure ends the computation; behind a success the next part runs. -/
theorem Leaves.tryBind {m : ExceptT ξ (Traced ε σ) α} {f : α → ExceptT ξ (Traced ε σ) β}
    {Q : Except ξ α → List ε → Prop} {R : Except ξ β → List ε → Prop} (hm : m.run.Leaves Q)
    (hok : ∀ a t, Q (.ok a) t → (f a).run.Leaves fun r u => R r (t ++ u))
    (herr : ∀ e t, Q (.error e) t → R (.error e) t) : (m >>= f).run.Leaves R := by
  rw [ExceptT.run_bind]
  refine Leaves.bind hm fun r t hr => ?_
  cases r with
  | ok a => exact hok a t hr
  | error e => exact Leaves.pure (by simpa using herr e t hr)

/-! ## Loops

`K` holds of every call of the loop; `C i` is a call that the turn of `i` leaves. -/

/-- A loop leaves the calls of its turns. -/
theorem Leaves.forM {body : ι → Traced ε σ Unit} {K : ε → Prop} {C : ι → ε → Prop}
    (l : List ι)
    (hbody : ∀ i ∈ l, (body i).Leaves fun _ t => (∀ c ∈ t, K c) ∧ ∃ c ∈ t, C i c) :
    (l.forM body).Leaves fun _ t => (∀ c ∈ t, K c) ∧ ∀ i ∈ l, ∃ c ∈ t, C i c := by
  induction l with
  | nil => exact Leaves.pure ⟨by simp, by simp⟩
  | cons i l ih =>
    refine Leaves.bind (hbody i (by simp)) fun _ t ⟨hK, hC⟩ => ?_
    refine (ih fun j hj => hbody j (by simp [hj])).imp fun _ u ⟨hK', hC'⟩ => ⟨?_, ?_⟩
    · exact List.forall_mem_append.mpr ⟨hK, hK'⟩
    · intro j hj
      rcases List.mem_cons.mp hj with rfl | hj
      · obtain ⟨c, hc, hCc⟩ := hC
        exact ⟨c, List.mem_append_left _ hc, hCc⟩
      · obtain ⟨c, hc, hCc⟩ := hC' j hj
        exact ⟨c, List.mem_append_right _ hc, hCc⟩

/-- A loop that the first failure ends: behind a success every turn has left its call. -/
theorem Leaves.tryForM {body : ι → ExceptT ξ (Traced ε σ) PUnit} {K : ε → Prop}
    {C : ι → ε → Prop} (l : List ι)
    (hbody : ∀ i ∈ l, (body i).run.Leaves fun r t =>
      (∀ c ∈ t, K c) ∧ (r = .ok ⟨⟩ → ∃ c ∈ t, C i c)) :
    (l.forM body).run.Leaves fun r t =>
      (∀ c ∈ t, K c) ∧ (r = .ok ⟨⟩ → ∀ i ∈ l, ∃ c ∈ t, C i c) := by
  induction l with
  | nil => exact Leaves.tryPure ⟨by simp, by simp⟩
  | cons i l ih =>
    refine Leaves.tryBind (hbody i (by simp)) (fun _ t ⟨hK, hC⟩ => ?_)
      fun _ t ⟨hK, _⟩ => ⟨hK, by simp⟩
    refine (ih fun j hj => hbody j (by simp [hj])).imp fun r u ⟨hK', hC'⟩ => ⟨?_, ?_⟩
    · exact List.forall_mem_append.mpr ⟨hK, hK'⟩
    · intro hr j hj
      rcases List.mem_cons.mp hj with rfl | hj
      · obtain ⟨c, hc, hCc⟩ := hC rfl
        exact ⟨c, List.mem_append_left _ hc, hCc⟩
      · obtain ⟨c, hc, hCc⟩ := hC' hr j hj
        exact ⟨c, List.mem_append_right _ hc, hCc⟩

end Traced

/-! ## The order of calls -/

/-- In front of every call with `q` stands the call `c`. -/
def Precedes {ε : Type} (c : ε) (q : ε → Prop) (t : List ε) : Prop :=
  ∀ pre d post, t = pre ++ d :: post → q d → c ∈ pre

namespace Precedes

variable {ε : Type} {c : ε} {q : ε → Prop} {t u : List ε}

theorem of_forall (h : ∀ d ∈ t, ¬ q d) : Precedes c q t := by
  rintro pre d post rfl hd
  exact absurd hd (h d (by simp))

/-- The call stands in front of all of `u`. -/
theorem append_of_mem (ht : ∀ d ∈ t, ¬ q d) (hc : c ∈ t) : Precedes c q (t ++ u) := by
  intro pre d post h hd
  rcases List.append_eq_append_iff.mp h with ⟨a, rfl, -⟩ | ⟨b, rfl, hb⟩
  · exact List.mem_append_left _ hc
  · cases b with
    | nil => simpa using hc
    | cons e b =>
      obtain ⟨rfl, -⟩ := List.cons.inj hb
      exact absurd hd (ht d (by simp))

theorem append (h : Precedes c q t) (hu : ∀ d ∈ u, ¬ q d) : Precedes c q (t ++ u) := by
  intro pre d post heq hd
  rcases List.append_eq_append_iff.mp heq with ⟨a, rfl, ha⟩ | ⟨b, rfl, hb⟩
  · exact absurd hd (hu d (by simp [ha]))
  · cases b with
    | nil =>
      obtain rfl : d :: post = u := by simpa using hb
      exact absurd hd (hu d (by simp))
    | cons e b =>
      obtain ⟨rfl, rfl⟩ := List.cons.inj hb
      exact h pre d b rfl hd

theorem append_right (h : Precedes c q u) (ht : ∀ d ∈ t, ¬ q d) : Precedes c q (t ++ u) := by
  intro pre d post heq hd
  rcases List.append_eq_append_iff.mp heq with ⟨a, rfl, ha⟩ | ⟨b, rfl, hb⟩
  · exact List.mem_append_right _ (h a d post ha hd)
  · cases b with
    | nil => exact absurd (h [] d post (by simpa using hb.symm) hd) (by simp)
    | cons e b =>
      obtain ⟨rfl, -⟩ := List.cons.inj hb
      exact absurd hd (ht d (by simp))

end Precedes
end Sys
