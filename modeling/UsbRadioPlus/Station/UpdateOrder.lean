import UsbRadioPlus.Station.UpdateAgreement

/-!
# No update is lost

A preparation begins only on the plan that it was prepared from. `ended` counts the transactions
that have ended, and a preparation remembers the count of its snapshot (`taken`); the revisions of
the source are these counts modulo `WORD`. `NoLostUpdate` holds for fewer than `WORD` transactions
(`noLostUpdate_of_reach`) and fails where the revision has wrapped (`not_noLostUpdate_wrapped`).
-/

namespace UsbRadioPlus
namespace Station

open Sys

variable {P : StationParts}

namespace StationRuntime

/-! ## What a step does to the transaction -/

/-- A step leaves the transaction alone, begins one, moves it on, or ends it. -/
inductive TransactionCase (prepared : List (StationUpdate P)) (s s' : StationRuntime P) : Prop
  | quiet : s'.updates.storage = s.updates.storage → s'.plan = s.plan → s'.ended = s.ended →
    s'.begun = s.begun → TransactionCase prepared s s'
  | begins {update : StationUpdate P} : update ∈ prepared →
    s.updates.storage.transaction = none → update.source = s.address →
    s.updates.storage.revision = update.revision →
    s'.updates.storage.transaction = some ⟨update, false⟩ →
    s'.updates.storage.revision = s.updates.storage.revision → s'.ended = s.ended →
    s'.begun = s.begun ++ [update] → TransactionCase prepared s s'
  | goesOn {t t' : Transaction P} : s.updates.storage.transaction = some t →
    s'.updates.storage.transaction = some t' →
    s'.updates.storage.revision = s.updates.storage.revision → s'.ended = s.ended →
    s'.begun = s.begun → TransactionCase prepared s s'
  | ends {t : Transaction P} : s.updates.storage.transaction = some t →
    s'.updates.storage.transaction = none →
    s'.updates.storage.revision = (s.updates.storage.revision + 1) % WORD →
    s'.ended = s.ended + 1 → s'.begun = s.begun → TransactionCase prepared s s'

theorem applyStoppedUpdate_frame (s : StationRuntime P) (receiveAccepts transmitAccepts : Bool) :
    ∃ tables receive transmit, s.applyStoppedUpdate receiveAccepts transmitAccepts =
      { s with tables, updates := { s.updates with receive, transmit } } := by
  unfold applyStoppedUpdate
  split
  · exact ⟨_, _, _, rfl⟩
  · exact ⟨_, _, _, rfl⟩

variable {prepared : List (StationUpdate P)}

theorem transactionCase_conclude (s : StationRuntime P) (purpose : Purpose)
    (result : Except (StationUpdateError P) Unit) :
    (s.conclude purpose result).1.address = s.address ∧
      TransactionCase prepared s (s.conclude purpose result).1 := by
  have hcases := s.conclude_cases purpose result
  generalize (s.conclude purpose result).1 = s' at hcases
  cases hcases with
  | returns => exact ⟨rfl, .quiet rfl rfl rfl rfl⟩
  | accepts htx => exact ⟨rfl, .goesOn htx htx rfl rfl rfl⟩
  | commits htx | restores htx => exact ⟨rfl, .ends htx rfl rfl rfl rfl⟩
  | reverses htx => exact ⟨rfl, .goesOn htx rfl rfl rfl rfl⟩

theorem transactionCase_controlStep {s : StationRuntime P} {receiveAccepts transmitAccepts : Bool}
    {r : StationRuntime P × Returned P}
    (h : s.controlStep receiveAccepts transmitAccepts = some r) :
    r.1.address = s.address ∧ TransactionCase prepared s r.1 := by
  unfold controlStep at h
  split at h
  · cases h
  · obtain rfl := Option.some.inj h
    exact ⟨rfl, .quiet rfl rfl rfl rfl⟩
  · obtain rfl := Option.some.inj h
    exact ⟨rfl, .quiet rfl rfl rfl rfl⟩
  · obtain rfl := Option.some.inj h
    exact ⟨rfl, .quiet rfl rfl rfl rfl⟩
  · obtain rfl := Option.some.inj h
    exact ⟨rfl, .quiet rfl rfl rfl rfl⟩
  · obtain ⟨tables, receive, transmit, heq⟩ :=
      s.applyStoppedUpdate_frame receiveAccepts transmitAccepts
    simp only [heq] at h
    split at h
    · obtain rfl := Option.some.inj h
      exact ⟨rfl, .quiet rfl rfl rfl rfl⟩
    · obtain rfl := Option.some.inj h
      exact ⟨rfl, .quiet rfl rfl rfl rfl⟩
  · obtain rfl := Option.some.inj h
    exact ⟨rfl, .quiet rfl rfl rfl rfl⟩
  · obtain rfl := Option.some.inj h
    exact s.transactionCase_conclude _ _

theorem transactionCase_of_stationCase {s s' : StationRuntime P}
    (h : Updating.StationCase prepared s s') :
    s'.address = s.address ∧ TransactionCase prepared s s' := by
  cases h with
  | same | start | stop | accept => exact ⟨rfl, .quiet rfl rfl rfl rfl⟩
  | @begin update forward reverse _ hmem =>
    rcases s.beginUpdate_cases update forward reverse with ⟨e, heq⟩ | ⟨hsource, hnone, hrev, heq⟩
    · rw [heq]
      exact ⟨rfl, .quiet rfl rfl rfl rfl⟩
    · rw [heq]
      exact ⟨rfl, .begins hmem hnone hsource hrev rfl rfl rfl rfl⟩
  | finish commit receiveAccepts transmitAccepts =>
    obtain ⟨tables, receive, transmit, heq⟩ :=
      s.applyStoppedUpdate_frame receiveAccepts transmitAccepts
    unfold finishUpdate
    simp only [heq]
    split
    · exact ⟨rfl, .quiet rfl rfl rfl rfl⟩
    · exact ⟨rfl, .quiet rfl rfl rfl rfl⟩
  | control hstep => exact transactionCase_controlStep hstep
  | receive accepts =>
    obtain ⟨tables, heq, -⟩ := s.receiveStep_spec accepts
    rw [heq]
    exact ⟨rfl, .quiet rfl rfl rfl rfl⟩
  | transmit accepts => exact ⟨rfl, .quiet rfl rfl rfl rfl⟩

end StationRuntime

namespace Updating

open StationRuntime

/-! ## The invariant -/

/-- A preparation or an update with the plan, the count and the revision of its snapshot. -/
structure Captured (s : StationRuntime P) (previous : StationPlan P) (revision taken : Nat) :
    Prop where
  congruent : revision = taken % WORD
  bound : taken ≤ s.ended
  /-- Nothing has changed the plan since a snapshot of the present count. -/
  current : taken = s.ended → s.updates.storage.transaction = none → previous = s.plan

/-- What the steps keep. -/
structure Ordered (s : Updating P) : Prop where
  revision : s.station.updates.storage.revision = s.station.ended % WORD
  preparations : ∀ p ∈ s.preparations,
    p.source = s.station.address ∧ Captured s.station p.previous p.revision p.taken
  prepared : ∀ u ∈ s.prepared, u.source = s.station.address →
    Captured s.station u.previous u.revision u.taken
  /-- Each snapshot count begins once at most. -/
  begun : s.station.ended < WORD → s.station.begun.Pairwise (·.taken < ·.taken) ∧
    ∀ u ∈ s.station.begun, u.taken ≤ s.station.ended ∧
      (s.station.updates.storage.transaction = none → u.taken < s.station.ended)

theorem Captured.step {s s' : StationRuntime P} {prepared : List (StationUpdate P)}
    (hcase : TransactionCase prepared s s') {previous : StationPlan P} {revision taken : Nat}
    (h : Captured s previous revision taken) : Captured s' previous revision taken := by
  have hbound := h.bound
  refine ⟨h.congruent, ?_, fun ht hnone => ?_⟩
  · cases hcase with
    | quiet _ _ he | begins _ _ _ _ _ _ he | goesOn _ _ _ he | ends _ _ _ he => omega
  · cases hcase with
    | quiet hst hplan he _ =>
      rw [hplan]
      exact h.current (ht.trans he) (hst ▸ hnone)
    | begins _ _ _ _ htx | goesOn _ htx => exact absurd (htx.symm.trans hnone) (by simp)
    | ends _ _ _ he => omega

/-- What a preparer's step adds. -/
theorem captured_snapshot {s : StationRuntime P}
    {processing : Except P.ProcessingRuntimeError P.ProcessingGeneration}
    {p : StationUpdatePreparation P} (hrev : s.updates.storage.revision = s.ended % WORD)
    (h : s.snapshotUpdate processing = .ok p) :
    p.source = s.address ∧ Captured s p.previous p.revision p.taken := by
  unfold snapshotUpdate at h
  split at h
  · cases h
  · split at h
    · cases h
    · obtain rfl := Except.ok.inj h
      exact ⟨rfl, hrev, Nat.le_refl _, fun _ _ => rfl⟩

/-- A prepared update keeps what its preparation captured. -/
theorem prepare_spec {p : StationUpdatePreparation P} {plan : StationPlan P} {answers : Prepared P}
    {u : StationUpdate P} (h : p.prepare plan answers = .ok u) :
    u.previous = p.previous ∧ u.source = p.source ∧ u.revision = p.revision ∧
      u.taken = p.taken := by
  unfold StationUpdatePreparation.prepare at h
  split at h
  · cases h
  · split at h
    · cases h
    · split at h
      · cases h
      · cases h
      · split at h
        · cases h
        · cases h
        · obtain rfl := Except.ok.inj h
          exact ⟨rfl, rfl, rfl, rfl⟩

/-- What a step does to the preparers. -/
structure PreparersCase (s s' : Updating P) : Prop where
  preparations : ∀ p ∈ s'.preparations, p ∈ s.preparations ∨
    s'.station = s.station ∧ ∃ processing, s.station.snapshotUpdate processing = .ok p
  prepared : ∀ u ∈ s'.prepared, u ∈ s.prepared ∨ s'.station = s.station ∧
    (u.source ≠ s.station.address ∨
      ∃ p ∈ s.preparations, ∃ plan answers, p.prepare plan answers = .ok u)

theorem PreparersCase.same {s s' : Updating P} (hp : s'.preparations = s.preparations)
    (hu : s'.prepared = s.prepared) : PreparersCase s s' :=
  ⟨fun _ h => .inl (hp ▸ h), fun _ h => .inl (hu ▸ h)⟩

theorem preparersCase_of_step {s s' : Updating P} {a : UpdateAct P} (h : s.step a = some s') :
    PreparersCase s s' := by
  cases a with
  | start | accept | finish =>
    simp only [step] at h
    split at h
    · obtain rfl := Option.some.inj h
      exact .same rfl rfl
    · cases h
  | receive | transmit =>
    simp only [step] at h
    split at h
    · obtain rfl := Option.some.inj h
      exact .same rfl rfl
    · cases h
  | stop =>
    simp only [step] at h
    split at h
    · obtain rfl := Option.some.inj h
      exact .same rfl rfl
    · cases h
  | control =>
    obtain ⟨r, -, rfl⟩ := Option.map_eq_some_iff.mp h
    exact .same rfl rfl
  | snapshot processing =>
    simp only [step] at h
    split at h
    · split at h
      · obtain rfl := Option.some.inj h
        exact .same rfl rfl
      · rename_i preparation hp
        obtain rfl := Option.some.inj h
        refine ⟨fun p hmem => ?_, fun _ hmem => .inl hmem⟩
        rcases List.mem_append.mp hmem with hmem | hmem
        · exact .inl hmem
        · rw [List.mem_singleton.mp hmem]
          exact .inr ⟨rfl, processing, hp⟩
    · cases h
  | prepare i plan answers =>
    simp only [step] at h
    split at h
    · cases h
    · rename_i preparation hi
      split at h
      · obtain rfl := Option.some.inj h
        exact ⟨fun _ hmem => .inl (List.mem_of_mem_eraseIdx hmem), fun _ hmem => .inl hmem⟩
      · rename_i update hu
        obtain rfl := Option.some.inj h
        refine ⟨fun _ hmem => .inl (List.mem_of_mem_eraseIdx hmem), fun u hmem => ?_⟩
        rcases List.mem_append.mp hmem with hmem | hmem
        · exact .inl hmem
        · rw [List.mem_singleton.mp hmem]
          exact .inr ⟨rfl, .inr ⟨preparation, List.mem_of_getElem? hi, plan, answers, hu⟩⟩
  | foreign update =>
    simp only [step] at h
    split at h
    · rename_i hsource
      obtain rfl := Option.some.inj h
      refine ⟨fun _ hmem => .inl hmem, fun u hmem => ?_⟩
      rcases List.mem_append.mp hmem with hmem | hmem
      · exact .inl hmem
      · rw [List.mem_singleton.mp hmem]
        exact .inr ⟨rfl, .inl hsource⟩
    · cases h
  | «begin» i forward reverse =>
    simp only [step] at h
    split at h
    · obtain rfl := Option.some.inj h
      exact ⟨fun _ hmem => .inl hmem, fun _ hmem => .inl (List.mem_of_mem_eraseIdx hmem)⟩
    · cases h

theorem ordered_inductive (P : StationParts) :
    (updating P).Inductive (fun _ _ => True) Ordered where
  init := by
    rintro s ⟨address, plan, tables, rfl⟩
    refine ⟨rfl, ?_, ?_, fun _ => ⟨.nil, ?_⟩⟩
    all_goals simp [StationRuntime.open]
  step := by
    intro s a s' h _ hstep
    obtain ⟨haddress, hcase⟩ := transactionCase_of_stationCase (stationCase_of_step hstep)
    have hpreparers := preparersCase_of_step hstep
    refine ⟨?_, fun p hp => ?_, fun u hu hsource => ?_, fun hlt => ?_⟩
    · have hrev := h.revision
      cases hcase with
      | quiet hst _ he => rw [hst, hrev, he]
      | begins _ _ _ _ _ hr he | goesOn _ _ hr he => rw [hr, hrev, he]
      | ends _ _ hr he => rw [hr, hrev, he, Nat.mod_add_mod]
    · rcases hpreparers.preparations p hp with hmem | ⟨heq, processing, hsnap⟩
      · rw [haddress]
        exact ⟨(h.preparations p hmem).1, (h.preparations p hmem).2.step hcase⟩
      · rw [heq]
        exact captured_snapshot h.revision hsnap
    · rcases hpreparers.prepared u hu with hmem | ⟨heq, hforeign | ⟨p, hmem, plan, answers, hprep⟩⟩
      · rw [haddress] at hsource
        exact (h.prepared u hmem hsource).step hcase
      · rw [heq] at hsource
        exact absurd hsource hforeign
      · obtain ⟨h1, -, h3, h4⟩ := prepare_spec hprep
        rw [heq, h1, h3, h4]
        exact (h.preparations p hmem).2
    · cases hcase with
      | quiet hst _ he hb =>
        rw [he] at hlt
        rw [hb, he, hst]
        exact h.begun hlt
      | goesOn htx htx' _ he hb =>
        rw [he] at hlt
        rw [hb, he, htx']
        obtain ⟨h1, h2⟩ := h.begun hlt
        exact ⟨h1, fun u hu => ⟨(h2 u hu).1, fun hc => by cases hc⟩⟩
      | ends htx htx' _ he hb =>
        obtain ⟨h1, h2⟩ := h.begun (by omega)
        rw [hb, he]
        refine ⟨h1, fun u hu => ?_⟩
        have := (h2 u hu).1
        omega
      | @begins update hmem hnone hsource hrev htx' _ he hb =>
        rw [he] at hlt
        obtain ⟨h1, h2⟩ := h.begun hlt
        have hcap := h.prepared update hmem hsource
        have hbound := hcap.bound
        have htaken : update.taken = s.station.ended := by
          have hmod := h.revision.symm.trans (hrev.trans hcap.congruent)
          rw [Nat.mod_eq_of_lt hlt, Nat.mod_eq_of_lt (by omega)] at hmod
          exact hmod.symm
        rw [hb, he, htx']
        refine ⟨List.pairwise_append.mpr ⟨h1, List.pairwise_singleton _ _, fun u hu v hv => ?_⟩,
          fun u hu => ⟨?_, fun hc => by cases hc⟩⟩
        · rw [List.mem_singleton.mp hv, htaken]
          exact (h2 u hu).2 hnone
        · rcases List.mem_append.mp hu with hu | hu
          · exact (h2 u hu).1
          · rw [List.mem_singleton.mp hu]
            exact hbound

/-! ## The contract -/

/-- Updates begin on the plan that they were prepared from. -/
structure NoLostUpdate (s : Updating P) : Prop where
  /-- The update was prepared from the plan that is current, or it is turned away and changes
  nothing. -/
  begins : ∀ update ∈ s.prepared, ∀ forward reverse,
    (update.taken = s.station.ended ∧ update.previous = s.station.plan ∧
      (s.station.beginUpdate update forward reverse).2 = none) ∨
    ∃ e, s.station.beginUpdate update forward reverse = (s.station, some (.error e))
  /-- The updates that began have increasing counts: no two are from one snapshot count. -/
  once : s.station.begun.Pairwise (·.taken < ·.taken)

theorem Ordered.noLostUpdate {s : Updating P} (h : Ordered s) (hlt : s.station.ended < WORD) :
    NoLostUpdate s := by
  refine ⟨fun update hmem forward reverse => ?_, (h.begun hlt).1⟩
  rcases s.station.beginUpdate_cases update forward reverse with herr | ⟨hsource, hnone, hrev, heq⟩
  · exact .inr herr
  · have hcap := h.prepared update hmem hsource
    have hbound := hcap.bound
    have htaken : update.taken = s.station.ended := by
      have hmod := h.revision.symm.trans (hrev.trans hcap.congruent)
      rw [Nat.mod_eq_of_lt hlt, Nat.mod_eq_of_lt (by omega)] at hmod
      exact hmod.symm
    exact .inl ⟨htaken, hcap.current htaken hnone, by rw [heq]⟩

/-- **No lost update** in every state that a station reaches, as long as the number of its
transactions is a word. -/
theorem noLostUpdate_of_reach {s : Updating P} (h : (updating P).Reach s)
    (hlt : s.station.ended < WORD) : NoLostUpdate s :=
  ((ordered_inductive P).reach h).noLostUpdate hlt

/-! ## Two preparations, and too many -/

/-- Two preparations of one count. -/
def twoPreparations : List (UpdateAct plainParts) :=
  [.snapshot (.ok ()), .snapshot (.ok ()),
    .prepare 0 (plainPlan 1) ⟨.ok (), .ok (), .ok (), .ok (), 0⟩,
    .prepare 0 (plainPlan 2) ⟨.ok (), .ok (), .ok (), .ok (), 1⟩]

set_option maxRecDepth 2000 in
/-- The first update of two from one snapshot count is committed; the second one is turned away. -/
theorem noLostUpdate_of_twoPreparations : ∃ s : Updating plainParts, NoLostUpdate s ∧
    s.prepared.map (·.plan) = [plainPlan 2] ∧ s.station.plan = plainPlan 1 ∧
    s.station.begun.map (·.plan) = [plainPlan 1] := by
  obtain ⟨s, hrun, hended, h1, h2, h3⟩ : ∃ s, (updating plainParts).run plainStation
      (twoPreparations ++ [.begin 0 (.ok ()) (.ok ())] ++ List.replicate 5 (.control true true) ++
        [.finish true true true] ++ List.replicate 2 (.control true true)) = some s ∧
      s.station.ended = 1 ∧ s.prepared.map (·.plan) = [plainPlan 2] ∧
      s.station.plan = plainPlan 1 ∧ s.station.begun.map (·.plan) = [plainPlan 1] :=
    ⟨_, rfl, rfl, rfl, rfl, rfl⟩
  exact ⟨s, noLostUpdate_of_reach ⟨_, _, ⟨0, plainPlan 0, ⟨(), false⟩, rfl⟩, hrun⟩
    (by rw [hended]; decide), h1, h2, h3⟩

/-- An update from the first snapshot waits, and `k` transactions have ended. -/
structure Waiting (stale : StationUpdate plainParts) (k : Nat) (s : Updating plainParts) :
    Prop where
  reach : (updating plainParts).Reach s
  pc : s.station.pc = .idle
  address : s.station.address = 0
  running : s.station.running = false
  storage : s.station.updates.storage.transaction = none
  revision : s.station.updates.storage.revision = k % WORD
  ended : s.station.ended = k
  plan : ∃ c, s.station.plan = plainPlan c ∧ (k ≠ 0 → c = 1)
  preparations : s.preparations = []
  prepared : s.prepared = [stale]

theorem beginUpdate_of_fresh {s : StationRuntime P} {update : StationUpdate P}
    (hsource : update.source = s.address) (hnone : s.updates.storage.transaction = none)
    (hrev : s.updates.storage.revision = update.revision) :
    s.beginUpdate update (.ok ()) (.ok ()) = ({ s with
      updates := { s.updates with
        storage := { s.updates.storage with transaction := some ⟨update, false⟩ } }
      pc := .publish .receiveResult update.forward
      begun := s.begun ++ [update] }, none) := by
  unfold beginUpdate
  rw [if_neg (not_not.mpr hsource), if_neg (by simp [hnone, hrev])]

theorem step_begin {s : Updating P} {update : StationUpdate P} {i : Nat}
    (hpc : s.station.pc = .idle) (hi : s.prepared[i]? = some update)
    (forward reverse : Except RadioError Unit) :
    (updating P).step s (.begin i forward reverse) = some { s with
      station := (s.station.beginUpdate update forward reverse).1
      prepared := s.prepared.eraseIdx i } := by
  have hfree : s.free = true := by rw [free, hpc]
  simp only [updating, Updating.step, hfree, hi]

/-- A snapshot and its preparation, for the configuration 1. -/
theorem run_prepare {s : Updating plainParts} {c : Nat} (hpc : s.station.pc = .idle)
    (hnone : s.station.updates.storage.transaction = none) (hplan : s.station.plan = plainPlan c)
    (hp : s.preparations = []) : ∃ update, update.source = s.station.address ∧
      update.revision = s.station.updates.storage.revision ∧ update.plan = plainPlan 1 ∧
      update.previous = s.station.plan ∧
      (updating plainParts).run s
        [.snapshot (.ok ()), .prepare 0 (plainPlan 1) ⟨.ok (), .ok (), .ok (), .ok (), 0⟩] =
        some { s with prepared := s.prepared ++ [update] } := by
  obtain ⟨⟨address, ⟨⟨current, transaction, revision⟩, receive, transmit⟩, tables, running, plan,
    pc, opened, ended, begun⟩, preparations, prepared⟩ := s
  dsimp only at hpc hnone hplan hp
  subst hpc hnone hplan hp
  exact ⟨_, rfl, rfl, rfl, rfl, rfl⟩

/-- The stopped station commits the second of two prepared updates. -/
theorem run_commit {s : Updating plainParts} {stale update : StationUpdate plainParts}
    (hpc : s.station.pc = .idle) (hrunning : s.station.running = false)
    (hr : s.station.updates.receive.Idle) (ht : s.station.updates.transmit.Idle)
    (hnone : s.station.updates.storage.transaction = none)
    (hu : s.prepared = [stale, update]) (hsource : update.source = s.station.address)
    (hrev : s.station.updates.storage.revision = update.revision) :
    ∃ receive transmit tables, (updating plainParts).run s
      ([.begin 1 (.ok ()) (.ok ())] ++ List.replicate 5 (.control true true) ++
        [.finish true true true] ++ List.replicate 2 (.control true true)) =
      some { s with
        station := { s.station.retire update.plan update.forward with
          updates := ⟨(s.station.retire update.plan update.forward).updates.storage,
            receive, transmit⟩
          tables
          begun := s.station.begun ++ [update] }
        prepared := [stale] } := by
  have hi : s.prepared[1]? = some update := by
    rw [hu]
    rfl
  have hbegin := step_begin hpc hi (.ok ()) (.ok ())
  rw [beginUpdate_of_fresh hsource hnone hrev] at hbegin
  obtain ⟨hro, hrr⟩ := hr
  obtain ⟨hto, htr⟩ := ht
  obtain ⟨⟨address, ⟨⟨current, transaction, revision⟩, ⟨offered, answer, recorded, reading, adopted⟩,
    ⟨offered', answer', recorded', reading', adopted'⟩⟩, tables, running, plan, pc, opened, ended,
    begun⟩, preparations, prepared⟩ := s
  dsimp only at hpc hrunning hnone hu hro hrr hto htr
  subst hpc hrunning hnone hu hro hrr hto htr
  exact ⟨_, _, _, System.run_cons.mpr ⟨_, hbegin, rfl⟩⟩

/-- One more transaction, from a snapshot to its commit. -/
theorem Waiting.next {stale : StationUpdate plainParts} {k : Nat} {s : Updating plainParts}
    (h : Waiting stale k s) : ∃ s', Waiting stale (k + 1) s' := by
  have hsettled := ((consistent_inductive plainParts).reach h.reach).settled h.storage
  obtain ⟨s₀, as, h0, hrun⟩ := h.reach
  obtain ⟨c, hplan, -⟩ := h.plan
  obtain ⟨update, hsource, hrev, hnew, -, hprepare⟩ :=
    run_prepare h.pc h.storage hplan h.preparations
  obtain ⟨receive, transmit, tables, hcommit⟩ :=
    run_commit (s := { s with prepared := s.prepared ++ [update] }) h.pc h.running
      hsettled.receive hsettled.transmit h.storage (by rw [h.prepared]; rfl) hsource hrev.symm
  refine ⟨_, ⟨⟨s₀, _, h0, System.run_append.mpr ⟨_, System.run_append.mpr ⟨_, hrun, hprepare⟩,
    hcommit⟩⟩, h.pc, h.address, h.running, rfl, ?_, ?_, ⟨1, hnew, fun _ => rfl⟩, h.preparations,
    rfl⟩⟩
  · show (s.station.updates.storage.revision + 1) % WORD = (k + 1) % WORD
    rw [h.revision, Nat.mod_add_mod]
  · show s.station.ended + 1 = k + 1
    rw [h.ended]

theorem exists_waiting (k : Nat) : ∃ (stale : StationUpdate plainParts) (s : Updating plainParts),
    stale.previous = plainPlan 0 ∧ stale.source = 0 ∧ stale.revision = 0 ∧ Waiting stale k s := by
  induction k with
  | zero =>
    obtain ⟨stale, hsource, hrev, -, hprevious, hrun⟩ :=
      run_prepare (s := plainStation) (c := 0) rfl rfl rfl rfl
    exact ⟨stale, _, hprevious, hsource, hrev,
      ⟨_, _, ⟨0, plainPlan 0, ⟨(), false⟩, rfl⟩, hrun⟩, rfl, rfl, rfl, rfl, rfl, rfl,
      ⟨0, rfl, fun h => absurd rfl h⟩, rfl, rfl⟩
  | succ k ih =>
    obtain ⟨stale, s, h1, h2, h3, hs⟩ := ih
    obtain ⟨s', hs'⟩ := hs.next
    exact ⟨stale, s', h1, h2, h3, hs'⟩

/-- Behind `WORD` transactions the revision of the first snapshot is current again: an update from
it begins, though the plan is another one. -/
theorem not_noLostUpdate_wrapped :
    ∃ s : Updating plainParts, (updating plainParts).Reach s ∧ ¬ NoLostUpdate s := by
  obtain ⟨stale, s, hprevious, hsource, hrev, hs⟩ := exists_waiting WORD
  refine ⟨s, hs.reach, fun h => ?_⟩
  have hcurrent : s.station.updates.storage.revision = stale.revision := by
    rw [hs.revision, Nat.mod_self, hrev]
  have hbegin := beginUpdate_of_fresh (hsource.trans hs.address.symm) hs.storage hcurrent
  obtain ⟨c, hplan, hc⟩ := hs.plan
  rcases h.begins stale (by rw [hs.prepared]; simp) (.ok ()) (.ok ()) with
    ⟨-, hsame, -⟩ | ⟨e, herr⟩
  · rw [hprevious, hplan, hc (by decide)] at hsame
    exact absurd (congrArg StationPlan.configuration hsame) Nat.zero_ne_one
  · rw [hbegin] at herr
    exact absurd (congrArg Prod.snd herr) (by simp)

end Updating
end Station
end UsbRadioPlus
