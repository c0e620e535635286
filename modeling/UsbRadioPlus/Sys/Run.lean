/-!
# Systems, runs and invariants

A system takes labelled steps from its initial states. A label carries what the program does not
decide: which party moves, the value a caller passes, the answer of a device. `step s a` is then a
function, so that a run from a state is a list of labels and can be evaluated.

* `Reach`: the states that runs reach; `ReachBy C`: by runs all of whose steps meet `C`.
* `Always I s as`: `I` holds all along the run; `Meets C s as`: every step of it meets `C`.
* `Inductive C I`: `I` holds initially and every step that meets `C` keeps it.
* `Simulation A B R`: every step of `A` is a run of `B` between related states. The reachable states
  of `A` are then related to reachable states of `B`.
-/

namespace Sys

universe u v w x

/-- A system: the initial states and the labelled steps. -/
structure System (St : Type u) (Act : Type v) where
  init : St → Prop
  step : St → Act → Option St

namespace System

variable {St : Type u} {Act : Type v} (S : System St Act)

/-- The state behind a list of labels. -/
def run : St → List Act → Option St
  | s, [] => some s
  | s, a :: as => (S.step s a).bind fun s' => run s' as

/-- Every step of the run meets the condition. -/
def Meets (C : St → Act → Prop) : St → List Act → Prop
  | _, [] => True
  | s, a :: as => C s a ∧ ∀ s', S.step s a = some s' → Meets C s' as

/-- The property holds in every state of the run. -/
def Always (I : St → Prop) : St → List Act → Prop
  | s, [] => I s
  | s, a :: as => I s ∧ ∀ s', S.step s a = some s' → Always I s' as

/-- The states that runs reach whose steps all meet the condition. -/
def ReachBy (C : St → Act → Prop) (s : St) : Prop :=
  ∃ s₀ as, S.init s₀ ∧ S.Meets C s₀ as ∧ S.run s₀ as = some s

/-- The states that runs reach. -/
def Reach (s : St) : Prop := ∃ s₀ as, S.init s₀ ∧ S.run s₀ as = some s

/-- An inductive invariant of the runs whose steps all meet the condition. -/
structure Inductive (C : St → Act → Prop) (I : St → Prop) : Prop where
  init : ∀ s, S.init s → I s
  step : ∀ s a s', I s → C s a → S.step s a = some s' → I s'

variable {S}

theorem run_cons {s s' : St} {a : Act} {as : List Act} :
    S.run s (a :: as) = some s' ↔ ∃ m, S.step s a = some m ∧ S.run m as = some s' :=
  Option.bind_eq_some_iff

theorem run_singleton {s s' : St} {a : Act} : S.run s [a] = some s' ↔ S.step s a = some s' := by
  simp [run]

theorem run_append {s s' : St} {as bs : List Act} :
    S.run s (as ++ bs) = some s' ↔ ∃ m, S.run s as = some m ∧ S.run m bs = some s' := by
  induction as generalizing s with
  | nil => simp [run]
  | cons a as ih =>
    rw [List.cons_append, run_cons]
    constructor
    · rintro ⟨m, hm, h⟩
      obtain ⟨m', h1, h2⟩ := ih.mp h
      exact ⟨m', run_cons.mpr ⟨m, hm, h1⟩, h2⟩
    · rintro ⟨m', h1, h2⟩
      obtain ⟨m, hm, h⟩ := run_cons.mp h1
      exact ⟨m, hm, ih.mpr ⟨m', h, h2⟩⟩

theorem Meets.append {C : St → Act → Prop} {s m : St} {as bs : List Act} (h : S.Meets C s as)
    (hm : S.run s as = some m) (hb : S.Meets C m bs) : S.Meets C s (as ++ bs) := by
  induction as generalizing s with
  | nil =>
    obtain rfl : s = m := Option.some.inj hm
    exact hb
  | cons a as ih =>
    refine ⟨h.1, fun s' hs' => ?_⟩
    obtain ⟨s'', hs'', hrun⟩ := run_cons.mp hm
    rw [hs'] at hs''
    obtain rfl := Option.some.inj hs''
    exact ih (h.2 s' hs') hrun

/-- A condition on the labels alone. -/
theorem Meets.of_mem {C : St → Act → Prop} {as : List Act} (h : ∀ a ∈ as, ∀ s, C s a) (s : St) :
    S.Meets C s as := by
  induction as generalizing s with
  | nil => trivial
  | cons a as ih =>
    exact ⟨h a List.mem_cons_self s, fun s' _ =>
      ih (fun b hb => h b (List.mem_cons_of_mem a hb)) s'⟩

theorem Meets.of_forall {C : St → Act → Prop} (h : ∀ s a, C s a) (s : St) (as : List Act) :
    S.Meets C s as :=
  .of_mem (fun a _ s => h s a) s

/-- A check of every step of one run. -/
def checked (c : St → Act → Bool) : St → List Act → Bool
  | _, [] => true
  | s, a :: as => c s a && (S.step s a).all fun s' => checked c s' as

theorem Meets.of_checked {C : St → Act → Prop} {c : St → Act → Bool}
    (hc : ∀ s a, c s a = true → C s a) {s : St} {as : List Act} (h : S.checked c s as = true) :
    S.Meets C s as := by
  induction as generalizing s with
  | nil => trivial
  | cons a as ih =>
    rw [checked, Bool.and_eq_true] at h
    refine ⟨hc s a h.1, fun s' hs' => ih ?_⟩
    have hrest := h.2
    rw [hs'] at hrest
    exact hrest

theorem Reach.reachBy {s : St} (h : S.Reach s) : S.ReachBy (fun _ _ => True) s := by
  obtain ⟨s₀, as, h0, hrun⟩ := h
  exact ⟨s₀, as, h0, .of_forall (fun _ _ => trivial) s₀ as, hrun⟩

theorem ReachBy.init {C : St → Act → Prop} {s : St} (h : S.init s) : S.ReachBy C s :=
  ⟨s, [], h, trivial, rfl⟩

/-- One more step of a reachable state. -/
theorem ReachBy.next {C : St → Act → Prop} {s s' : St} {a : Act} (h : S.ReachBy C s) (hC : C s a)
    (hstep : S.step s a = some s') : S.ReachBy C s' := by
  obtain ⟨s₀, as, h0, hm, hrun⟩ := h
  exact ⟨s₀, as ++ [a], h0, hm.append hrun ⟨hC, fun _ _ => trivial⟩,
    run_append.mpr ⟨s, hrun, run_singleton.mpr hstep⟩⟩

theorem Reach.next {s s' : St} {a : Act} (h : S.Reach s) (hstep : S.step s a = some s') :
    S.Reach s' := by
  obtain ⟨s₀, as, h0, hrun⟩ := h
  exact ⟨s₀, as ++ [a], h0, run_append.mpr ⟨s, hrun, run_singleton.mpr hstep⟩⟩

/-- An invariant that another one helps to keep. -/
theorem Inductive.and {C : St → Act → Prop} {I J : St → Prop} (hJ : S.Inductive C J)
    (init : ∀ s, S.init s → I s)
    (step : ∀ s a s', J s → I s → C s a → S.step s a = some s' → I s') :
    S.Inductive C fun s => J s ∧ I s :=
  ⟨fun s hs => ⟨hJ.init s hs, init s hs⟩,
    fun s a s' h hC hs => ⟨hJ.step s a s' h.1 hC hs, step s a s' h.1 h.2 hC hs⟩⟩

/-- What every step that meets the condition keeps holds along a run. -/
theorem Meets.kept {C : St → Act → Prop} {I : St → Prop}
    (step : ∀ s a s', I s → C s a → S.step s a = some s' → I s') {s s' : St} {as : List Act}
    (hm : S.Meets C s as) (hs : I s) (hrun : S.run s as = some s') : I s' := by
  induction as generalizing s with
  | nil =>
    obtain rfl : s = s' := Option.some.inj hrun
    exact hs
  | cons a as ih =>
    obtain ⟨m, hstep, hrest⟩ := run_cons.mp hrun
    exact ih (hm.2 m hstep) (step s a m hs hm.1 hstep) hrest

/-- Where the condition is exactly what a step needs to keep the property, a run keeps the property
exactly where all its steps meet the condition. -/
theorem always_iff_meets {C : St → Act → Prop} {I : St → Prop}
    (step : ∀ s a s', I s → S.step s a = some s' → (I s' ↔ C s a)) {s last : St} {as : List Act}
    (hs : I s) (hrun : S.run s as = some last) : S.Always I s as ↔ S.Meets C s as := by
  induction as generalizing s with
  | nil => exact iff_of_true hs trivial
  | cons a as ih =>
    obtain ⟨m, hstep, hrest⟩ := run_cons.mp hrun
    have hexact := step s a m hs hstep
    have honly : ∀ s', S.step s a = some s' → s' = m := fun s' hs' =>
      Option.some.inj (hs'.symm.trans hstep)
    constructor
    · rintro ⟨-, halways⟩
      have hm := halways m hstep
      have hI : I m := by cases as <;> first | exact hm | exact hm.1
      refine ⟨hexact.mp hI, fun s' hs' => ?_⟩
      obtain rfl := honly s' hs'
      exact (ih hI hrest).mp hm
    · rintro ⟨hC, hmeets⟩
      refine ⟨hs, fun s' hs' => ?_⟩
      obtain rfl := honly s' hs'
      exact (ih (hexact.mpr hC) hrest).mpr (hmeets s' hs')

/-- An inductive invariant holds along a run whose steps meet the condition. -/
theorem Inductive.run {C : St → Act → Prop} {I : St → Prop} (h : S.Inductive C I) {s s' : St}
    {as : List Act} (hs : I s) (hm : S.Meets C s as) (hrun : S.run s as = some s') : I s' :=
  hm.kept h.step hs hrun

/-- **The invariant rule**. -/
theorem Inductive.reachBy {C : St → Act → Prop} {I : St → Prop} (h : S.Inductive C I) {s : St}
    (hs : S.ReachBy C s) : I s := by
  obtain ⟨s₀, as, h0, hm, hrun⟩ := hs
  exact h.run (h.init s₀ h0) hm hrun

/-- The invariant rule without a condition. -/
theorem Inductive.reach {I : St → Prop} (h : S.Inductive (fun _ _ => True) I) {s : St}
    (hs : S.Reach s) : I s :=
  h.reachBy hs.reachBy

end System

/-- Every step of `A` is a run of `B` between related states. -/
structure Simulation {St : Type u} {Act : Type v} {St' : Type w} {Act' : Type x}
    (A : System St Act) (B : System St' Act') (R : St → St' → Prop) : Prop where
  init : ∀ s, A.init s → ∃ t, B.init t ∧ R s t
  step : ∀ s a s' t, R s t → A.step s a = some s' → ∃ bs t', B.run t bs = some t' ∧ R s' t'

namespace Simulation

variable {St : Type u} {Act : Type v} {St' : Type w} {Act' : Type x}
  {A : System St Act} {B : System St' Act'} {R : St → St' → Prop}

theorem run (h : Simulation A B R) {s s' : St} {as : List Act} {t : St'} (hR : R s t)
    (hrun : A.run s as = some s') : ∃ bs t', B.run t bs = some t' ∧ R s' t' := by
  induction as generalizing s t with
  | nil =>
    obtain rfl : s = s' := Option.some.inj hrun
    exact ⟨[], t, rfl, hR⟩
  | cons a as ih =>
    obtain ⟨m, hstep, hrest⟩ := System.run_cons.mp hrun
    obtain ⟨bs, tm, hbs, hRm⟩ := h.step s a m t hR hstep
    obtain ⟨bs', t', hbs', hR'⟩ := ih hRm hrest
    exact ⟨bs ++ bs', t', System.run_append.mpr ⟨tm, hbs, hbs'⟩, hR'⟩

/-- **The simulation rule**. -/
theorem reach (h : Simulation A B R) {s : St} (hs : A.Reach s) : ∃ t, B.Reach t ∧ R s t := by
  obtain ⟨s₀, as, h0, hrun⟩ := hs
  obtain ⟨t₀, ht0, hR0⟩ := h.init s₀ h0
  obtain ⟨bs, t, hbs, hR⟩ := h.run hR0 hrun
  exact ⟨t, ⟨t₀, bs, ht0, hbs⟩, hR⟩

end Simulation
end Sys
