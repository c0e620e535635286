import UsbRadioPlus.Runtime.StageChain

/-!
# Leases of the audible graph

`Succeeds s i j` says that the stage `j` may be adopted behind the stage `i`: no callback has run
it, and it leases both the audible graph and the graph of `i`, the only one that a callback of `i`
can make audible. So the callbacks of `i` keep it, and it is all that an adoption needs. The
preparations that may still begin, and the update that is under way, are described with it.
-/

namespace UsbRadioPlus.Runtime

open Sys

/-! ## Callbacks -/

/-- The predecessor that a hand-off has selected. -/
def GraphHandoff.Selects (handoff : GraphHandoff) (pointer : GraphAddress) : Bool → Prop
  | true => handoff.previous.pending = some pointer
  | false => handoff.previous.current = pointer

/-- A stage in the hands of its owner: it is complete and audible, or its selection is the audible
graph, which is not its own. -/
structure Settled (stage : GraphStage) (audible : GraphAddress) : Prop where
  complete : stage.complete = true → audible = stage.primary
  handoff : stage.complete = false → ∃ handoff, stage.handoff = some handoff ∧
    ∀ b, handoff.transition.usePending = some b → handoff.Selects audible b ∧
      audible ≠ stage.primary

theorem Waiting.settled {stage : GraphStage} (h : Waiting stage) (audible : GraphAddress) :
    Settled stage audible := by
  obtain ⟨handoff, hhandoff, hselected, -⟩ := h.handoff
  refine ⟨fun hc => ?_, fun _ => ⟨handoff, hhandoff, fun b hb => ?_⟩⟩
  · exact absurd (h.incomplete.symm.trans hc) (by simp)
  · exact absurd (hselected.symm.trans hb) (by simp)

/-- The stages hold the same leases. -/
structure SameLeases (stage stage' : GraphStage) : Prop where
  primary : stage'.primary = stage.primary
  previous : stage'.handoff.map (·.previous) = stage.handoff.map (·.previous)

theorem SameLeases.refl (stage : GraphStage) : SameLeases stage stage := ⟨rfl, rfl⟩

theorem GraphStage.knows_iff {self : GraphStage} {pointer : GraphAddress} :
    self.Knows pointer ↔ self.primary = pointer ∨ ∃ previous,
      self.handoff.map (·.previous) = some previous ∧
        (previous.current = pointer ∨ previous.pending = some pointer) := by
  simp [Knows]

theorem SameLeases.knows {stage stage' : GraphStage} (h : SameLeases stage stage')
    {pointer : GraphAddress} : stage'.Knows pointer ↔ stage.Knows pointer := by
  rw [GraphStage.knows_iff, GraphStage.knows_iff, h.primary, h.previous]

/-- What a callback of a stage in the hands of its owner does. -/
structure Run {S : Type} (stage : GraphStage) (audible : GraphAddress) (r : Processed S) :
    Prop where
  leases : SameLeases stage r.stage
  stays : r.audible = audible ∨ r.audible = stage.primary
  settled : Settled r.stage r.audible
  predecessor : ∀ p, r.predecessor = some p → p = audible ∧ p ≠ stage.primary

variable {S : Type} (blend : Nat → S → S → S) {process : GraphAddress → Except GraphError (List S)}
  {stage : GraphStage} {audible : GraphAddress} {handoff : GraphHandoff}

theorem mix_usePending (transition : GraphTransition) (samples priors : List S) :
    (mix blend transition samples priors).2.usePending = transition.usePending := by
  fun_induction mix blend transition samples priors with
  | case1 _ _ _ _ _ _ rest ih => exact ih
  | case2 _ _ _ _ _ _ _ _ rest ih => exact ih
  | case3 _ _ _ _ _ _ _ rest ih => exact ih
  | case4 => rfl

theorem processHandoff_run {b : Bool} (output : List S) (hhandoff : stage.handoff = some handoff)
    (hcomplete : stage.complete = false) (hselects : handoff.Selects audible b)
    (hne : audible ≠ stage.primary) :
    Run stage audible (processHandoff blend process stage handoff b audible output) ∧
      (processHandoff blend process stage handoff b audible output).predecessor =
        some audible := by
  have hprevious : (if b then handoff.previous.pending.getD handoff.previous.current
      else handoff.previous.current) = audible := by
    cases b with
    | true =>
      have hpending : handoff.previous.pending = some audible := hselects
      simp [hpending]
    | false => exact hselects
  unfold processHandoff
  dsimp only
  rw [hprevious]
  have hpredecessor : ∀ p, some audible = some p → p = audible ∧ p ≠ stage.primary := by
    intro p hp
    obtain rfl := Option.some.inj hp
    exact ⟨rfl, hne⟩
  cases process audible with
  | error e =>
    refine ⟨⟨⟨rfl, by simp [hhandoff]⟩, .inl rfl, ⟨fun h => ?_, fun _ => ⟨_, rfl, ?_⟩⟩,
      hpredecessor⟩, rfl⟩
    · exact absurd (hcomplete.symm.trans h) (by simp)
    · rintro _ ⟨⟩
      exact ⟨by cases b <;> exact hselects, hne⟩
  | ok priors =>
    dsimp only
    split
    · refine ⟨⟨⟨rfl, by simp [hhandoff]⟩, .inr rfl, ⟨fun _ => rfl, fun h => ?_⟩,
        hpredecessor⟩, rfl⟩
      exact absurd h (by simp)
    · refine ⟨⟨⟨rfl, by simp [hhandoff]⟩, .inl rfl, ⟨fun h => ?_, fun _ => ⟨_, rfl, ?_⟩⟩,
        hpredecessor⟩, rfl⟩
      · exact absurd (hcomplete.symm.trans h) (by simp)
      · intro c hc
        rw [mix_usePending] at hc
        obtain rfl := Option.some.inj hc
        exact ⟨by cases b <;> exact hselects, hne⟩

/-- The first selection of a stage that knows the audible graph. -/
theorem selects_of_knows (hknows : stage.Knows audible) (hhandoff : stage.handoff = some handoff)
    (hne : stage.primary ≠ audible) :
    handoff.Selects audible (decide (handoff.previous.pending = some audible)) := by
  by_cases hpending : handoff.previous.pending = some audible
  · rw [decide_eq_true hpending]
    exact hpending
  · rw [decide_eq_false hpending]
    obtain h | ⟨handoff', hhandoff', h⟩ := hknows
    · exact absurd h hne
    · obtain rfl := Option.some.inj (hhandoff.symm.trans hhandoff')
      exact h.resolve_right hpending

theorem graphProcess_run (hknows : stage.Knows audible) (hsettled : Settled stage audible)
    (valid : Bool) : Run stage audible (graphProcess blend process valid stage audible) := by
  have hsame : ∀ (returned : Int) (output : Option (List S)),
      Run stage audible ⟨stage, audible, returned, output, none⟩ := fun _ _ =>
    ⟨.refl stage, .inl rfl, hsettled, by simp⟩
  unfold graphProcess
  split
  · exact hsame _ _
  · split
    · exact hsame _ _
    · split
      · exact hsame _ _
      · next hc =>
        have hincomplete : stage.complete = false := by simpa using hc
        obtain ⟨handoff, hhandoff, hselected⟩ := hsettled.handoff hincomplete
        rw [hhandoff]
        dsimp only
        split
        · next b hb =>
          exact (processHandoff_run blend _ hhandoff hincomplete (hselected b hb).1
            (hselected b hb).2).1
        · split
          · next hprimary =>
            exact ⟨⟨rfl, by simp [hhandoff]⟩, .inl rfl, ⟨fun _ => hprimary.symm, by simp⟩, by simp⟩
          · next hprimary =>
            exact (processHandoff_run blend _ hhandoff hincomplete
              (selects_of_knows hknows hhandoff hprimary) fun h => hprimary h.symm).1

/-- A callback with spans, whose own graph runs, runs the audible graph behind it. -/
theorem graphProcess_predecessor (hknows : stage.Knows audible) (hsettled : Settled stage audible)
    (hne : audible ≠ stage.primary) {output : List S}
    (hprocess : process stage.primary = .ok output) :
    (graphProcess blend process true stage audible).predecessor = some audible := by
  have hincomplete : stage.complete = false := by
    cases hc : stage.complete with
    | true => exact absurd (hsettled.complete hc) hne
    | false => rfl
  obtain ⟨handoff, hhandoff, hselected⟩ := hsettled.handoff hincomplete
  unfold graphProcess
  rw [hprocess, hhandoff]
  simp only [hincomplete, Bool.not_true, Bool.false_eq_true, if_false]
  split
  · next b hb =>
    exact (processHandoff_run blend _ hhandoff hincomplete (hselected b hb).1
      (hselected b hb).2).2
  · rw [if_neg fun h => hne h.symm]
    exact (processHandoff_run blend _ hhandoff hincomplete
      (selects_of_knows hknows hhandoff fun h => hne h.symm) hne).2

/-! ## Succession -/

theorem stages_callback {s : StageChain} {r : Processed S} {j : StageAddress}
    (hj : j ≠ s.adopted) : (s.callback r).stages j = s.stages j := by
  simp [StageChain.callback, hj]

theorem primary_callback {s : StageChain} {r : Processed S}
    (h : SameLeases (s.stages s.adopted) r.stage) (i : StageAddress) :
    ((s.callback r).stages i).primary = (s.stages i).primary := by
  by_cases hi : i = s.adopted
  · subst hi
    simpa [StageChain.callback] using h.primary
  · rw [stages_callback hi]

theorem stages_allocate {s : StageChain} {stage : GraphStage} {i : StageAddress}
    (hi : i < s.allocated) : (s.allocate stage).stages i = s.stages i := by
  simp [StageChain.allocate, Nat.ne_of_lt hi]

/-- The stage `j` may be adopted behind the stage `i`. -/
structure Succeeds (s : StageChain) (i j : StageAddress) : Prop where
  lt : j < s.allocated
  ne : j ≠ i
  waiting : Waiting (s.stages j)
  audible : (s.stages j).Knows s.audible
  primary : (s.stages j).Knows (s.stages i).primary

namespace Succeeds

variable {s s' : StageChain} {i j : StageAddress}

/-- Where nothing changes but addresses that were not allocated. -/
theorem mono (h : Succeeds s i j) (hi : s'.stages i = s.stages i)
    (hj : s'.stages j = s.stages j) (ha : s'.audible = s.audible)
    (hallocated : s.allocated ≤ s'.allocated) : Succeeds s' i j where
  lt := Nat.lt_of_lt_of_le h.lt hallocated
  ne := h.ne
  waiting := by rw [hj]; exact h.waiting
  audible := by rw [hj, ha]; exact h.audible
  primary := by rw [hj, hi]; exact h.primary

/-- A new stage behind others that it knows. -/
theorem allocate {stage : GraphStage} (hi : i < s.allocated) (hwaiting : Waiting stage)
    (haudible : stage.Knows s.audible) (hprimary : stage.Knows (s.stages i).primary) :
    Succeeds (s.allocate stage) i s.allocated where
  lt := Nat.lt_succ_self _
  ne := (Nat.ne_of_lt hi).symm
  waiting := by simpa [StageChain.allocate] using hwaiting
  audible := by simpa [StageChain.allocate] using haudible
  primary := by simpa [StageChain.allocate, Nat.ne_of_lt hi] using hprimary

theorem allocate_old {stage : GraphStage} (h : Succeeds s i j) (hi : i < s.allocated) :
    Succeeds (s.allocate stage) i j :=
  h.mono (stages_allocate hi) (stages_allocate h.lt) rfl (Nat.le_succ _)

/-- A callback makes nothing audible that the successors of the adopted stage do not know. -/
theorem callback {r : Processed S} (h : Succeeds s i j)
    (hrun : Run (s.stages s.adopted) s.audible r) (hj : j ≠ s.adopted)
    (hknows : (s.stages j).Knows (s.stages s.adopted).primary) : Succeeds (s.callback r) i j where
  lt := h.lt
  ne := h.ne
  waiting := by rw [stages_callback hj]; exact h.waiting
  audible := by
    rw [stages_callback hj, StageChain.callback]
    dsimp only
    obtain ha | ha := hrun.stays
    · rw [ha]
      exact h.audible
    · rw [ha]
      exact hknows
  primary := by
    rw [stages_callback hj, primary_callback hrun.leases]
    exact h.primary

end Succeeds

/-! ## The invariant -/

/-- A preparation that may still begin. -/
structure Prepares (s : StageChain) (p : Preparation) : Prop where
  base : p.base = s.current
  forward : ∀ f, p.forward = some f → f = s.current ∨
    Succeeds s s.current f ∧ (s.stages f).primary ≠ (s.stages s.current).primary
  reverse : ∀ r, p.reverse = some r → ∃ f, p.forward = some f ∧
    (f = s.current ∧ r = s.current ∨
      f ≠ s.current ∧ Succeeds s s.current r ∧ Succeeds s f r)

/-- The update that is under way, by the stage that is adopted. -/
inductive Handing (s : StageChain) (t : ChainTransaction) : Prop
  /-- The update does not change this chain. -/
  | same (forward : t.forward = s.current) (reverse : t.reverse = s.current)
      (adopted : s.adopted = s.current)
  | before (adopted : s.adopted = s.current) (own : t.own ≠ some true)
      (forward : Succeeds s s.current t.forward) (reverse : Succeeds s s.current t.reverse)
      (inverse : Succeeds s t.forward t.reverse)
  | forward (adopted : s.adopted = t.forward) (own : t.reversing = true ↔ t.own ≠ some true)
      (inverse : Succeeds s t.forward t.reverse)
  | reverse (adopted : s.adopted = t.reverse) (own : t.own = some true)
      (reversing : t.reversing = true)

/-- The invariant of a chain. -/
structure Leasing (s : StageChain) : Prop where
  graphs : ∀ i, i < s.allocated → (s.stages i).primary < s.graphs
  adopted : s.adopted < s.allocated
  current : s.current < s.allocated
  bases : ∀ p ∈ s.preparations, p.base < s.allocated
  known : (s.stages s.adopted).Knows s.audible
  settled : Settled (s.stages s.adopted) s.audible
  idle : s.transaction = none → s.adopted = s.current ∧
    ∀ p ∈ s.preparations, p.superseded = false → Prepares s p
  busy : ∀ t, s.transaction = some t → Handing s t ∧
    ∀ p ∈ s.preparations, p.superseded = true

namespace Leasing

variable {s : StageChain} {p : Preparation}

/-- A preparation that may still begin has a current snapshot and no update in its way. -/
theorem prepares (h : Leasing s) (hp : p ∈ s.preparations) (hs : p.superseded = false) :
    s.transaction = none ∧ s.adopted = s.current ∧ Prepares s p := by
  cases ht : s.transaction with
  | none => exact ⟨rfl, (h.idle ht).1, (h.idle ht).2 p hp hs⟩
  | some t => exact absurd (hs.symm.trans ((h.busy t ht).2 p hp)) (by simp)

theorem known_current (h : Leasing s) (ha : s.adopted = s.current) :
    (s.stages s.current).Knows s.audible := ha ▸ h.known

/-- The forward stage of a preparation knows the audible graph too. -/
theorem known_forward (h : Leasing s) (hp : p ∈ s.preparations) (hs : p.superseded = false)
    {f : StageAddress} (hf : p.forward = some f) : (s.stages f).Knows s.audible := by
  obtain ⟨-, ha, hprepares⟩ := h.prepares hp hs
  obtain rfl | ⟨hsucceeds, -⟩ := hprepares.forward f hf
  · exact h.known_current ha
  · exact hsucceeds.audible

/-! ### The preparers -/

theorem prepares_congr {s' : StageChain} (h : Prepares s p) (hstages : s'.stages = s.stages)
    (haudible : s'.audible = s.audible) (hcurrent : s'.current = s.current)
    (hallocated : s.allocated ≤ s'.allocated) : Prepares s' p := by
  have hsucceeds {i j : StageAddress} (hij : Succeeds s i j) : Succeeds s' i j :=
    hij.mono (by rw [hstages]) (by rw [hstages]) haudible hallocated
  refine ⟨by rw [hcurrent]; exact h.base, fun f hf => ?_, fun r hr => ?_⟩
  · rw [hcurrent, hstages]
    exact (h.forward f hf).imp_right (.imp_left hsucceeds)
  · obtain ⟨f, hf, hpair⟩ := h.reverse r hr
    rw [hcurrent]
    exact ⟨f, hf, hpair.imp_right (.imp_right (.imp hsucceeds hsucceeds))⟩

theorem handing_congr {s' : StageChain} {t : ChainTransaction} (h : Handing s t)
    (hstages : s'.stages = s.stages) (haudible : s'.audible = s.audible)
    (hcurrent : s'.current = s.current) (hadopted : s'.adopted = s.adopted)
    (hallocated : s.allocated ≤ s'.allocated) : Handing s' t := by
  have hsucceeds {i j : StageAddress} (hij : Succeeds s i j) : Succeeds s' i j :=
    hij.mono (by rw [hstages]) (by rw [hstages]) haudible hallocated
  cases h with
  | same hf hr ha => exact .same (hcurrent ▸ hf) (hcurrent ▸ hr) (by rw [hadopted, ha, hcurrent])
  | before ha ho hf hr hi =>
    exact .before (by rw [hadopted, ha, hcurrent]) ho (hcurrent ▸ hsucceeds hf)
      (hcurrent ▸ hsucceeds hr) (hsucceeds hi)
  | forward ha ho hi => exact .forward (hadopted ▸ ha) ho (hsucceeds hi)
  | reverse ha ho hr => exact .reverse (hadopted ▸ ha) ho hr

/-- Preparations come and go. -/
theorem withPreparations (h : Leasing s) (preparations : List Preparation)
    (hbase : ∀ p ∈ preparations, p.base < s.allocated)
    (hidle : s.transaction = none → ∀ p ∈ preparations, p.superseded = false → Prepares s p)
    (hbusy : s.transaction ≠ none → ∀ p ∈ preparations, p.superseded = true) :
    Leasing { s with preparations } where
  graphs := h.graphs
  adopted := h.adopted
  current := h.current
  bases := hbase
  known := h.known
  settled := h.settled
  idle ht := ⟨(h.idle ht).1, fun p hp hs =>
    prepares_congr (hidle ht p hp hs) rfl rfl rfl (Nat.le_refl _)⟩
  busy t ht := ⟨handing_congr (h.busy t ht).1 rfl rfl rfl rfl (Nat.le_refl _),
    hbusy (fun hn => by rw [hn] at ht; cases ht)⟩

theorem dropPreparation (h : Leasing s) (i : Nat) : Leasing (s.dropPreparation i) := by
  have hmem {p : Preparation} (hp : p ∈ s.preparations.eraseIdx i) : p ∈ s.preparations :=
    List.mem_of_mem_eraseIdx hp
  refine h.withPreparations _ (fun p hp => h.bases p (hmem hp))
    (fun _ p hp hs => (h.prepares (hmem hp) hs).2.2) fun hn p hp => ?_
  obtain ⟨t, ht⟩ := Option.ne_none_iff_exists'.mp hn
  exact (h.busy t ht).2 p (hmem hp)

/-- A preparation goes on. -/
theorem setPreparation (h : Leasing s) (i : Nat) {p' : Preparation}
    (hbase : p'.base < s.allocated) (hbusy : s.transaction ≠ none → p'.superseded = true)
    (hidle : p'.superseded = false → Prepares s p') : Leasing (s.setPreparation i p') := by
  have hmem {p : Preparation} (hp : p ∈ s.preparations.set i p') : p ∈ s.preparations ∨ p = p' :=
    List.mem_or_eq_of_mem_set hp
  refine h.withPreparations _ (fun p hp => ?_) (fun _ p hp hs => ?_) fun hn p hp => ?_
  · obtain hp | rfl := hmem hp
    · exact h.bases p hp
    · exact hbase
  · obtain hp | rfl := hmem hp
    · exact (h.prepares hp hs).2.2
    · exact hidle hs
  · obtain hp | rfl := hmem hp
    · obtain ⟨t, ht⟩ := Option.ne_none_iff_exists'.mp hn
      exact (h.busy t ht).2 p hp
    · exact hbusy hn

/-- A new stage does not touch the others. -/
theorem allocate (h : Leasing s) {stage : GraphStage} (hgraph : stage.primary < s.graphs) :
    Leasing (s.allocate stage) where
  graphs i hi := by
    obtain hi | rfl := Nat.lt_succ_iff_lt_or_eq.mp hi
    · rw [stages_allocate hi]
      exact h.graphs i hi
    · simpa [StageChain.allocate] using hgraph
  adopted := Nat.lt_succ_of_lt h.adopted
  current := Nat.lt_succ_of_lt h.current
  bases p hp := Nat.lt_succ_of_lt (h.bases p hp)
  known := by
    have hstage : (s.allocate stage).stages s.adopted = s.stages s.adopted :=
      stages_allocate h.adopted
    exact hstage.symm ▸ h.known
  settled := by
    have hstage : (s.allocate stage).stages s.adopted = s.stages s.adopted :=
      stages_allocate h.adopted
    exact hstage.symm ▸ h.settled
  idle ht := by
    refine ⟨(h.idle ht).1, fun p hp hs => ?_⟩
    have hprepares := (h.idle ht).2 p hp hs
    refine ⟨hprepares.base, fun f hf => ?_, fun r hr => ?_⟩
    · obtain hf | ⟨hsucceeds, hne⟩ := hprepares.forward f hf
      · exact .inl hf
      · refine .inr ⟨hsucceeds.allocate_old h.current, ?_⟩
        rwa [stages_allocate hsucceeds.lt, show (s.allocate stage).current = s.current from rfl,
          stages_allocate h.current]
    · obtain ⟨f, hf, hsame | ⟨hne, hr', hi⟩⟩ := hprepares.reverse r hr
      · exact ⟨f, hf, .inl hsame⟩
      · have hlt : f < s.allocated := by
          obtain rfl | ⟨hsucceeds, -⟩ := hprepares.forward f hf
          · exact h.current
          · exact hsucceeds.lt
        exact ⟨f, hf, .inr ⟨hne, hr'.allocate_old h.current, hi.allocate_old hlt⟩⟩
  busy t ht := by
    refine ⟨?_, (h.busy t ht).2⟩
    cases (h.busy t ht).1 with
    | same hf hr ha => exact .same hf hr ha
    | before ha ho hf hr hi =>
      exact .before ha ho (hf.allocate_old h.current) (hr.allocate_old h.current)
        (hi.allocate_old hf.lt)
    | forward ha ho hi => exact .forward ha ho (hi.allocate_old (ha ▸ h.adopted))
    | reverse ha ho hr => exact .reverse ha ho hr

/-- A graph that is prepared and not used. -/
theorem grow (h : Leasing s) : Leasing { s with graphs := s.graphs + 1 } where
  graphs i hi := Nat.lt_succ_of_lt (h.graphs i hi)
  adopted := h.adopted
  current := h.current
  bases := h.bases
  known := h.known
  settled := h.settled
  idle ht := ⟨(h.idle ht).1, fun p hp hs =>
    prepares_congr ((h.idle ht).2 p hp hs) rfl rfl rfl (Nat.le_refl _)⟩
  busy t ht := ⟨handing_congr (h.busy t ht).1 rfl rfl rfl rfl (Nat.le_refl _), (h.busy t ht).2⟩

theorem primary_of_transitionGraph {maximum lookaheadFrames : Nat} {primary audible : GraphAddress}
    {previous stage : GraphStage}
    (h : transitionGraph maximum primary previous audible lookaheadFrames = .ok stage) :
    stage.primary = primary := by
  unfold transitionGraph at h
  split at h
  · cases h
  · obtain rfl := Except.ok.inj h
    rfl

theorem prepareReplacement (h : Leasing s) {i : Nat} {base : StageAddress} {superseded : Bool}
    (hp : ⟨base, none, none, superseded⟩ ∈ s.preparations) (description : Bool)
    (graph : Except GraphError Unit) (lookaheadFrames : Nat) :
    Leasing (s.prepareReplacement i ⟨base, none, none, superseded⟩ description graph
      lookaheadFrames) := by
  have hbase : base < s.allocated := h.bases _ hp
  have hbusy : s.transaction ≠ none → superseded = true := by
    intro hn
    obtain ⟨t, ht⟩ := Option.ne_none_iff_exists'.mp hn
    exact (h.busy t ht).2 _ hp
  unfold StageChain.prepareReplacement
  split
  · exact h.grow.dropPreparation i
  · -- the descriptions are equal, so the stage stays
    refine h.setPreparation i hbase hbusy fun hs => ?_
    obtain ⟨-, -, hprepares⟩ := h.prepares hp hs
    refine ⟨hprepares.base, fun f hf => .inl ?_, by simp⟩
    obtain rfl := Option.some.inj hf
    exact hprepares.base
  · next stage heq =>
    have htransition : transitionGraph s.maximum s.graphs (s.stages base) s.audible
        lookaheadFrames = .ok stage := by
      cases description <;> cases graph <;> simp [replacementGraph, Except.map] at heq
      cases ht : transitionGraph s.maximum s.graphs (s.stages base) s.audible lookaheadFrames <;>
        simp_all
    have hprimary := primary_of_transitionGraph htransition
    have hgraph : stage.primary < s.graphs + 1 := by rw [hprimary]; exact Nat.lt_succ_self _
    refine (h.grow.allocate hgraph).setPreparation i (Nat.lt_succ_of_lt hbase) hbusy fun hs => ?_
    obtain ⟨ht, ha, hprepares⟩ := h.prepares hp hs
    obtain rfl : base = s.current := hprepares.base
    obtain ⟨stage', hstage', -, haudible, hknows, hwaiting⟩ :=
      transitionGraph_of_knows (h.known_current ha) s.maximum s.graphs lookaheadFrames
    obtain rfl := Except.ok.inj (hstage'.symm.trans htransition)
    refine ⟨rfl, fun f hf => .inr ?_, by simp⟩
    obtain rfl := Option.some.inj hf
    have hsucceeds := Succeeds.allocate (s := { s with graphs := s.graphs + 1 }) h.current
      hwaiting haudible hknows
    refine ⟨hsucceeds.mono rfl rfl rfl (Nat.le_refl _), ?_⟩
    have hnew := h.graphs s.current h.current
    simp [StageChain.allocate, Nat.ne_of_lt h.current, hprimary, (Nat.ne_of_lt hnew).symm]

theorem prepareRestore (h : Leasing s) {i : Nat} {base f : StageAddress} {superseded : Bool}
    (hp : ⟨base, some f, none, superseded⟩ ∈ s.preparations) (lookaheadFrames : Nat) :
    Leasing (s.prepareRestore i ⟨base, some f, none, superseded⟩ f lookaheadFrames) := by
  have hbase : base < s.allocated := h.bases _ hp
  have hbusy : s.transaction ≠ none → superseded = true := by
    intro hn
    obtain ⟨t, ht⟩ := Option.ne_none_iff_exists'.mp hn
    exact (h.busy t ht).2 _ hp
  unfold StageChain.prepareRestore
  split
  · exact h.dropPreparation i
  · next heq =>
    -- the graphs are equal, so the chain was not changed
    refine h.setPreparation i hbase hbusy fun hs => ?_
    obtain ⟨-, -, hprepares⟩ := h.prepares hp hs
    have hequal : (s.stages base).primary = (s.stages f).primary := by
      by_contra hne
      simp only [Runtime.restore, hne, if_false] at heq
      cases ht : transitionGraph s.maximum (s.stages base).primary (s.stages f) s.audible
        lookaheadFrames <;> simp [ht, Except.map] at heq
    have hf : f = s.current := by
      obtain hf | ⟨-, hne⟩ := hprepares.forward f rfl
      · exact hf
      · rw [← hprepares.base] at hne
        exact absurd hequal.symm hne
    refine ⟨hprepares.base, hprepares.forward, fun r hr => ⟨f, rfl, .inl ⟨hf, ?_⟩⟩⟩
    obtain rfl := Option.some.inj hr
    exact hprepares.base
  · next stage heq =>
    have hne : (s.stages base).primary ≠ (s.stages f).primary := by
      intro hequal
      simp [Runtime.restore, hequal] at heq
    have htransition : transitionGraph s.maximum (s.stages base).primary (s.stages f) s.audible
        lookaheadFrames = .ok stage := by
      simp only [Runtime.restore, hne, if_false] at heq
      cases ht : transitionGraph s.maximum (s.stages base).primary (s.stages f) s.audible
        lookaheadFrames <;> simp_all [Except.map]
    have hprimary := primary_of_transitionGraph htransition
    have hgraph : stage.primary < s.graphs := by rw [hprimary]; exact h.graphs base hbase
    refine (h.allocate hgraph).setPreparation i (Nat.lt_succ_of_lt hbase) hbusy fun hs => ?_
    obtain ⟨ht, ha, hprepares⟩ := h.prepares hp hs
    obtain rfl : base = s.current := hprepares.base
    obtain rfl | ⟨hforward, -⟩ := hprepares.forward f rfl
    · exact absurd rfl hne
    obtain ⟨stage', hstage', -, haudible, hknows, hwaiting⟩ := transitionGraph_of_knows
      hforward.audible s.maximum (s.stages s.current).primary lookaheadFrames
    obtain rfl := Except.ok.inj (hstage'.symm.trans htransition)
    have hold := (h.allocate hgraph).prepares (p := ⟨s.current, some f, none, superseded⟩) hp hs
    refine ⟨rfl, fun g hg => ?_, fun r hr => ⟨f, rfl, .inr ⟨hforward.ne, ?_⟩⟩⟩
    · exact hold.2.2.forward g hg
    · obtain rfl := Option.some.inj hr
      have hcurrent := Succeeds.allocate h.current hwaiting haudible
        (hprimary ▸ GraphStage.knows_primary)
      have hinverse := Succeeds.allocate hforward.lt hwaiting haudible hknows
      exact ⟨hcurrent.mono rfl rfl rfl (Nat.le_refl _), hinverse.mono rfl rfl rfl (Nat.le_refl _)⟩

/-! ### The control owner and the audio owners -/

theorem snapshot (h : Leasing s) (ht : s.transaction = none) :
    Leasing { s with preparations := s.preparations ++ [⟨s.current, none, none, false⟩] } := by
  refine h.withPreparations _ (fun p hp => ?_) (fun _ p hp hs => ?_) fun hn => absurd ht hn
  · obtain hp | hp := List.mem_append.mp hp
    · exact h.bases p hp
    · obtain rfl := List.mem_singleton.mp hp
      exact h.current
  · obtain hp | hp := List.mem_append.mp hp
    · exact (h.prepares hp hs).2.2
    · obtain rfl := List.mem_singleton.mp hp
      exact ⟨rfl, by simp, by simp⟩

theorem publish (h : Leasing s) {i : Nat} {base f r : StageAddress}
    (hp : ⟨base, some f, some r, false⟩ ∈ s.preparations) : Leasing (s.publish i f r) where
  graphs := h.graphs
  adopted := h.adopted
  current := h.current
  bases p hp := by
    obtain ⟨q, hq, rfl⟩ := List.mem_map.mp hp
    exact h.bases q (List.mem_of_mem_eraseIdx hq)
  known := h.known
  settled := h.settled
  idle ht := by cases ht
  busy t ht := by
    obtain rfl := Option.some.inj ht
    obtain ⟨-, ha, hprepares⟩ := h.prepares hp rfl
    constructor
    · have hstay {i j : StageAddress} (hij : Succeeds s i j) : Succeeds (s.publish i f r) i j :=
        hij.mono rfl rfl rfl (Nat.le_refl _)
      obtain ⟨f', hf', ⟨hf, hr⟩ | ⟨hne, hr, hi⟩⟩ := hprepares.reverse r rfl
      · obtain rfl := Option.some.inj hf'
        exact .same hf hr ha
      · obtain rfl := Option.some.inj hf'
        obtain hf | ⟨hf, -⟩ := hprepares.forward f rfl
        · exact absurd hf hne
        · exact .before ha (by simp) (hf.mono rfl rfl rfl (Nat.le_refl _))
            (hr.mono rfl rfl rfl (Nat.le_refl _)) (hi.mono rfl rfl rfl (Nat.le_refl _))
    · intro p hp
      obtain ⟨q, -, rfl⟩ := List.mem_map.mp hp
      rfl

/-- The answers change, and the adopted stage with the answer of its owner. -/
theorem withTransaction (h : Leasing s) {t t' : ChainTransaction} {adopted : StageAddress}
    (ht : s.transaction = some t) (hlt : adopted < s.allocated)
    (hknown : (s.stages adopted).Knows s.audible)
    (hsettled : Settled (s.stages adopted) s.audible)
    (hhanding : Handing { s with adopted } t') :
    Leasing { s with adopted, transaction := some t' } where
  graphs := h.graphs
  adopted := hlt
  current := h.current
  bases := h.bases
  known := hknown
  settled := hsettled
  idle hn := by cases hn
  busy u hu := by
    obtain rfl := Option.some.inj hu
    exact ⟨handing_congr hhanding rfl rfl rfl rfl (Nat.le_refl _), (h.busy t ht).2⟩

theorem adopt (h : Leasing s) {t : ChainTransaction} (ht : s.transaction = some t)
    (hown : t.own = none) (accepts : Bool) :
    Leasing { s with
      adopted := if accepts then t.published else s.adopted
      transaction := some { t with own := some accepts } } := by
  have hstay {s' : StageChain} {i j : StageAddress} (hij : Succeeds s i j)
      (hstages : s'.stages = s.stages) (haudible : s'.audible = s.audible)
      (hallocated : s'.allocated = s.allocated) : Succeeds s' i j :=
    hij.mono (by rw [hstages]) (by rw [hstages]) haudible (Nat.le_of_eq hallocated.symm)
  cases accepts with
  | false =>
    refine h.withTransaction ht h.adopted h.known h.settled ?_
    cases (h.busy t ht).1 with
    | same hf hr ha => exact .same hf hr ha
    | before ha _ hf hr hi =>
      exact .before ha (by simp) (hstay hf rfl rfl rfl) (hstay hr rfl rfl rfl)
        (hstay hi rfl rfl rfl)
    | forward ha ho hi =>
      refine .forward ha ?_ (hstay hi rfl rfl rfl)
      simpa [hown] using ho
    | reverse _ ho => exact absurd (hown.symm.trans ho) (by simp)
  | true =>
    have htake {i j : StageAddress} (hij : Succeeds s i j) (hj : t.published = j)
        (hhanding : Handing { s with adopted := t.published } { t with own := some true }) :
        Leasing { s with adopted := t.published, transaction := some { t with own := some true } } := by
      subst hj
      exact h.withTransaction ht hij.lt hij.audible (hij.waiting.settled _) hhanding
    cases (h.busy t ht).1 with
    | same hf hr ha =>
      have hpublished : t.published = s.adopted := by
        unfold ChainTransaction.published
        split
        · rw [hr, ha]
        · rw [hf, ha]
      rw [if_pos rfl, hpublished]
      exact h.withTransaction ht h.adopted h.known h.settled (.same hf hr ha)
    | before ha _ hf hr hi =>
      obtain hreversing | hreversing := Bool.eq_false_or_eq_true t.reversing
      · have hpublished : t.published = t.reverse := by simp [ChainTransaction.published, hreversing]
        exact htake hr hpublished (.reverse hpublished rfl hreversing)
      · have hpublished : t.published = t.forward := by simp [ChainTransaction.published, hreversing]
        exact htake hf hpublished
          (.forward hpublished (by simp [hreversing]) (hstay hi rfl rfl rfl))
    | forward ha ho hi =>
      have hreversing : t.reversing = true := ho.mpr (by simp [hown])
      have hpublished : t.published = t.reverse := by simp [ChainTransaction.published, hreversing]
      exact htake hi hpublished (.reverse hpublished rfl hreversing)
    | reverse _ ho => exact absurd (hown.symm.trans ho) (by simp)

/-- An update ends with the stage that its owner has adopted. -/
theorem retire (h : Leasing s) {t : ChainTransaction} (ht : s.transaction = some t)
    {current : StageAddress} (hadopted : s.adopted = current) :
    Leasing { s with current, transaction := none } where
  graphs := h.graphs
  adopted := h.adopted
  current := hadopted ▸ h.adopted
  bases := h.bases
  known := h.known
  settled := h.settled
  idle _ := ⟨hadopted, fun p hp hs => absurd (hs.symm.trans ((h.busy t ht).2 p hp)) (by simp)⟩
  busy t ht := by cases ht

theorem finish (h : Leasing s) {t : ChainTransaction} (ht : s.transaction = some t)
    (commit : Bool) : Leasing (s.finish commit t) := by
  unfold StageChain.finish
  split
  · exact h
  · exact h
  · next hown _ =>
    split
    · exact h
    · next hreversing =>
      refine h.retire ht ?_
      cases (h.busy t ht).1 with
      | same hf _ ha => rw [ha, hf]
      | before _ ho => exact absurd hown ho
      | forward ha => exact ha
      | reverse _ _ hr => exact absurd hr hreversing
  · exact h
  · next own other hown _ =>
    split
    · next hreversing =>
      split
      · next hanswers =>
        rw [Bool.and_eq_true] at hanswers
        rw [hanswers.1] at hown
        refine h.retire ht ?_
        cases (h.busy t ht).1 with
        | same _ hr ha => rw [ha, hr]
        | before _ ho => exact absurd hown ho
        | forward _ ho => exact absurd hown (ho.mp hreversing)
        | reverse ha => exact ha
      · exact h
    · next hreversing =>
      refine h.withTransaction ht h.adopted h.known h.settled ?_
      cases (h.busy t ht).1 with
      | same hf hr ha => exact .same hf hr ha
      | before ha _ hf hr hi =>
        exact .before ha (by simp) (hf.mono rfl rfl rfl (Nat.le_refl _))
          (hr.mono rfl rfl rfl (Nat.le_refl _)) (hi.mono rfl rfl rfl (Nat.le_refl _))
      | forward ha _ hi => exact .forward ha (by simp) (hi.mono rfl rfl rfl (Nat.le_refl _))
      | reverse _ _ hr => exact absurd hr hreversing

theorem callback (h : Leasing s) {r : Processed S}
    (hrun : Run (s.stages s.adopted) s.audible r) : Leasing (s.callback r) where
  graphs i hi := by rw [primary_callback hrun.leases]; exact h.graphs i hi
  adopted := h.adopted
  current := h.current
  bases := h.bases
  known := by
    have hstage : (s.callback r).stages s.adopted = r.stage := by simp [StageChain.callback]
    have hknows : r.stage.Knows r.audible := by
      rw [hrun.leases.knows]
      obtain ha | ha := hrun.stays
      · rw [ha]
        exact h.known
      · rw [ha]
        exact GraphStage.knows_primary
    exact hstage.symm ▸ hknows
  settled := by
    have hstage : (s.callback r).stages s.adopted = r.stage := by simp [StageChain.callback]
    exact hstage.symm ▸ hrun.settled
  idle ht := by
    obtain ⟨ha, hall⟩ := h.idle ht
    refine ⟨ha, fun p hp hs => ?_⟩
    have hprepares := hall p hp hs
    have hnext {j : StageAddress} (hj : Succeeds s s.current j) :
        Succeeds (s.callback r) s.current j := hj.callback hrun (ha ▸ hj.ne) (ha ▸ hj.primary)
    refine ⟨hprepares.base, fun f hf => ?_, fun r' hr => ?_⟩
    · obtain hf | ⟨hsucceeds, hne⟩ := hprepares.forward f hf
      · exact .inl hf
      · refine .inr ⟨hnext hsucceeds, ?_⟩
        rw [primary_callback hrun.leases, primary_callback hrun.leases]
        exact hne
    · obtain ⟨f, hf, hsame | ⟨hne, hr', hi⟩⟩ := hprepares.reverse r' hr
      · exact ⟨f, hf, .inl hsame⟩
      · exact ⟨f, hf, .inr ⟨hne, hnext hr', hi.callback hrun (ha ▸ hr'.ne) (ha ▸ hr'.primary)⟩⟩
  busy t ht := by
    refine ⟨?_, (h.busy t ht).2⟩
    cases (h.busy t ht).1 with
    | same hf hr ha => exact .same hf hr ha
    | before ha ho hf hr hi =>
      exact .before ha ho (hf.callback hrun (ha ▸ hf.ne) (ha ▸ hf.primary))
        (hr.callback hrun (ha ▸ hr.ne) (ha ▸ hr.primary))
        (hi.callback hrun (ha ▸ hr.ne) (ha ▸ hr.primary))
    | forward ha ho hi =>
      exact .forward ha ho (hi.callback hrun (ha ▸ hi.ne) (ha ▸ hi.primary))
    | reverse ha ho hr => exact .reverse ha ho hr

/-- Every step keeps the invariant. -/
theorem step (h : Leasing s) {a : ChainAct S} {s' : StageChain} (hs : s.step blend a = some s') :
    Leasing s' := by
  cases a with
  | snapshot =>
    simp only [StageChain.step] at hs
    split at hs
    · cases hs
    · next ht =>
      cases hs
      exact h.snapshot (by simpa using ht)
  | replace i description graph lookaheadFrames =>
    simp only [StageChain.step] at hs
    split at hs
    · next hp =>
      cases hs
      exact h.prepareReplacement (List.mem_of_getElem? hp) description graph lookaheadFrames
    · cases hs
  | restore i lookaheadFrames =>
    simp only [StageChain.step] at hs
    split at hs
    · next hp =>
      cases hs
      exact h.prepareRestore (List.mem_of_getElem? hp) lookaheadFrames
    · cases hs
  | begin i =>
    simp only [StageChain.step] at hs
    split at hs
    · next ht hp =>
      cases hs
      exact h.publish (List.mem_of_getElem? hp)
    · cases hs
  | adopt accepts =>
    simp only [StageChain.step] at hs
    split at hs
    · next forward reverse reversing other ht =>
      cases hs
      exact h.adopt ht rfl accepts
    · cases hs
  | answer accepts =>
    simp only [StageChain.step] at hs
    split at hs
    · next forward reverse reversing own ht =>
      cases hs
      refine h.withTransaction ht h.adopted h.known h.settled ?_
      cases (h.busy _ ht).1 with
      | same hf hr ha => exact .same hf hr ha
      | before ha ho hf hr hi =>
        exact .before ha ho (hf.mono rfl rfl rfl (Nat.le_refl _))
          (hr.mono rfl rfl rfl (Nat.le_refl _)) (hi.mono rfl rfl rfl (Nat.le_refl _))
      | forward ha ho hi => exact .forward ha ho (hi.mono rfl rfl rfl (Nat.le_refl _))
      | reverse ha ho hr => exact .reverse ha ho hr
    · cases hs
  | finish commit =>
    simp only [StageChain.step] at hs
    split at hs
    · cases hs
      exact h
    · next t ht =>
      cases hs
      exact h.finish ht commit
  | callback process valid =>
    cases hs
    exact h.callback (graphProcess_run blend h.known h.settled valid)

end Leasing

theorem leasing_initial (maximum : Nat) : Leasing (.initial maximum) where
  graphs i hi := Nat.zero_lt_one
  adopted := Nat.zero_lt_one
  current := Nat.zero_lt_one
  bases p hp := by cases hp
  known := .inl rfl
  settled := ⟨fun _ => rfl, fun h => by cases h⟩
  idle _ := ⟨rfl, fun p hp => by cases hp⟩
  busy t ht := by cases ht

theorem leasing_of_reach {s : StageChain} (h : (stageChain blend).Reach s) : Leasing s := by
  have hinv : (stageChain blend).Inductive (fun _ _ => True) Leasing := by
    refine ⟨fun s hs => ?_, fun s a s' hs _ hstep => hs.step blend hstep⟩
    obtain ⟨maximum, rfl⟩ := hs
    exact leasing_initial maximum
  exact hinv.reach h

/-! ## The contract -/

/-- What holds of a chain in every reachable state. -/
structure AudibleLease (s : StageChain) : Prop where
  /-- The adopted stage leases the audible graph. -/
  adopted : (s.stages s.adopted).Knows s.audible
  /-- So does every stage of a preparation that may still begin, -/
  prepared : ∀ p ∈ s.preparations, p.superseded = false → ∀ i,
    p.forward = some i ∨ p.reverse = some i → (s.stages i).Knows s.audible
  /-- and the stage that is published, with the inverse that may follow it. -/
  published : ∀ t, s.transaction = some t → (s.stages t.published).Knows s.audible ∧
    (s.stages t.reverse).Knows s.audible
  /-- A transition of a preparation that may still begin finds the audible graph. -/
  transition : ∀ p ∈ s.preparations, p.superseded = false → ∀ i,
    i = p.base ∨ p.forward = some i → ∀ primary lookaheadFrames, ∃ stage,
      transitionGraph s.maximum primary (s.stages i) s.audible lookaheadFrames = .ok stage
  /-- A callback runs the audible graph behind the one of the adopted stage, where these are two
  graphs, and no graph behind itself. -/
  predecessor : ∀ (process : GraphAddress → Except GraphError (List S)) (valid : Bool) (p),
    (graphProcess blend process valid (s.stages s.adopted) s.audible).predecessor = some p →
      p = s.audible ∧ p ≠ (s.stages s.adopted).primary
  fades : ∀ (process : GraphAddress → Except GraphError (List S)) (output : List S),
    process (s.stages s.adopted).primary = .ok output →
    s.audible ≠ (s.stages s.adopted).primary →
    (graphProcess blend process true (s.stages s.adopted) s.audible).predecessor =
      some s.audible

/-- **The audible graph is leased**. -/
theorem audibleLease_of_reach (s : StageChain) (h : (stageChain blend).Reach s) :
    AudibleLease blend s := by
  have hleasing := leasing_of_reach blend h
  have hprepared (p : Preparation) (hp : p ∈ s.preparations) (hs : p.superseded = false)
      (i : StageAddress) (hi : p.forward = some i ∨ p.reverse = some i) :
      (s.stages i).Knows s.audible := by
    obtain hi | hi := hi
    · exact hleasing.known_forward hp hs hi
    · obtain ⟨-, ha, hprepares⟩ := hleasing.prepares hp hs
      obtain ⟨f, -, ⟨-, rfl⟩ | ⟨-, hr, -⟩⟩ := hprepares.reverse i hi
      · exact hleasing.known_current ha
      · exact hr.audible
  refine ⟨hleasing.known, hprepared, fun t ht => ?_, fun p hp hs i hi primary lookaheadFrames => ?_,
    fun process valid => (graphProcess_run blend hleasing.known hleasing.settled valid).predecessor,
    fun process output hprocess hne =>
      graphProcess_predecessor blend hleasing.known hleasing.settled hne hprocess⟩
  · have hknown := hleasing.known
    unfold ChainTransaction.published
    cases (hleasing.busy t ht).1 with
    | same hf hr ha =>
      rw [hf, hr, ← ha]
      split <;> exact ⟨hknown, hknown⟩
    | before ha _ hf hr _ =>
      split
      · exact ⟨hr.audible, hr.audible⟩
      · exact ⟨hf.audible, hr.audible⟩
    | forward ha _ hi =>
      rw [ha] at hknown
      split
      · exact ⟨hi.audible, hi.audible⟩
      · exact ⟨hknown, hi.audible⟩
    | reverse ha _ hr =>
      rw [ha] at hknown
      rw [if_pos hr]
      exact ⟨hknown, hknown⟩
  · have hknows : (s.stages i).Knows s.audible := by
      obtain rfl | hi := hi
      · obtain ⟨-, ha, hprepares⟩ := hleasing.prepares hp hs
        rw [hprepares.base]
        exact hleasing.known_current ha
      · exact hprepared p hp hs i (.inl hi)
    obtain ⟨stage, hstage, -⟩ :=
      transitionGraph_of_knows hknows s.maximum primary lookaheadFrames
    exact ⟨stage, hstage⟩

/-! ### A replacement, its inverse and a preparation that comes too late -/

/-- The graphs of a chain of whole numbers. -/
def sampleBlend (faded prior sample : Nat) : Nat := prior * (48 - faded) + sample * faded

/-- Each graph gives its own address for a hundred frames. -/
def sampleProcess (graph : GraphAddress) : Except GraphError (List Nat) :=
  .ok (List.replicate 100 graph)

/-- A replacement of the first graph and its inverse. -/
def preparedActs : List (ChainAct Nat) :=
  [.snapshot, .snapshot, .replace 0 false (.ok ()) 0, .restore 0 0]

/-- The replacement is adopted and fades in. -/
def adoptedActs : List (ChainAct Nat) :=
  preparedActs ++ [.begin 0, .adopt true, .callback sampleProcess true]

theorem audibleLease_of_adoption :
    ∃ s, (stageChain sampleBlend).Reach s ∧ s.audible = 1 ∧ AudibleLease sampleBlend s := by
  obtain ⟨s, hrun, haudible⟩ : ∃ s, (stageChain sampleBlend).run (.initial 1) adoptedActs = some s ∧
      s.audible = 1 := ⟨_, rfl, by decide +kernel⟩
  have hreach : (stageChain sampleBlend).Reach s := ⟨_, adoptedActs, ⟨1, rfl⟩, hrun⟩
  exact ⟨s, hreach, haudible, audibleLease_of_reach sampleBlend s hreach⟩

/-- An inverse that was prepared behind an idle chain names its own graph as the predecessor; and a
transition from a snapshot fails behind an update that came first. -/
theorem not_lease_of_superseded :
    (∃ s, (stageChain sampleBlend).Reach s ∧ ∃ p ∈ s.preparations, ∃ r, p.reverse = some r ∧
      (s.stages r).handoff.map (·.previous.current) = some (s.stages r).primary) ∧
    ∃ s, (stageChain sampleBlend).Reach s ∧ ∃ p ∈ s.preparations,
      ∀ primary lookaheadFrames,
        transitionGraph s.maximum primary (s.stages p.base) s.audible lookaheadFrames =
          .error .invalidArgument := by
  refine ⟨⟨_, ⟨_, preparedActs, ⟨1, rfl⟩, rfl⟩, ⟨0, some 1, some 2, false⟩, ?_, 2, rfl, ?_⟩,
    ⟨_, ⟨_, adoptedActs, ⟨1, rfl⟩, rfl⟩, ⟨0, none, none, true⟩, ?_, fun _ _ => ?_⟩⟩
  · decide +kernel
  · decide +kernel
  · decide +kernel
  · refine transitionGraph_of_not_knows ?_ _ _ _
    rintro (h | ⟨handoff, h, -⟩)
    · revert h
      decide +kernel
    · cases h

end UsbRadioPlus.Runtime
