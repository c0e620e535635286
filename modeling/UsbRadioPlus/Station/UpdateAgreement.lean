import UsbRadioPlus.Station.Update

/-!
# The owners of a station agree

Where no transaction is open, both directions have adopted the same generation and the control host
has its plan (`agreement_of_reach`). `Consistent` is the invariant behind it: while a transaction is
open each slot is with the generation that is published (`Slot.Pending`), and the answers that the
control owner has read are still those of the slots.
-/

namespace UsbRadioPlus
namespace Station

open Sys Sys.Slot

variable {P : StationParts}

/-! ## Progress of a transaction -/

/-- Where the two slots are while the transaction is open. -/
def Progress (pc : ControlPc P) (t : Transaction P) (receive transmit : Slot (UpdateOwner P)) :
    Prop :=
  match pc with
  | .publish .receiveResult owner => owner = t.owner ∧ Idle receive ∧ Idle transmit
  | .publish .transmitResult owner =>
    owner = t.owner ∧ (Idle receive ∧ receive.answer = 0) ∧ Idle transmit
  | .publish .receive owner =>
    owner = t.owner ∧ (Idle receive ∧ receive.answer = 0) ∧ Idle transmit ∧ transmit.answer = 0
  | .publish .transmit owner =>
    owner = t.owner ∧ Pending owner receive ∧ Idle transmit ∧ transmit.answer = 0
  | .resultTransmit purpose answer =>
    (purpose = .reverse → t.reversing = true) ∧ (answer ≠ 0 → receive.answer = answer) ∧
      Pending t.owner receive ∧ Pending t.owner transmit
  | .result purpose =>
    (purpose = .reverse → t.reversing = true) ∧
      Pending t.owner receive ∧ Pending t.owner transmit
  | .idle | .applyStopped => Pending t.owner receive ∧ Pending t.owner transmit

namespace Progress

variable {pc : ControlPc P} {t : Transaction P} {receive transmit : Slot (UpdateOwner P)}

theorem read_receive (h : Progress pc t receive transmit) (accepts : Bool) :
    Progress pc t (receive.read accepts) transmit := by
  cases pc with
  | publish stage owner =>
    cases stage with
    | receiveResult =>
      obtain ⟨ho, hr, ht⟩ := h
      exact ⟨ho, by rwa [hr.read accepts], ht⟩
    | transmitResult | receive =>
      obtain ⟨ho, hr, ht⟩ := h
      exact ⟨ho, by rwa [hr.1.read accepts], ht⟩
    | transmit =>
      obtain ⟨ho, hr, ht⟩ := h
      exact ⟨ho, hr.read accepts, ht⟩
  | resultTransmit purpose answer =>
    obtain ⟨hp, ha, hr, ht⟩ := h
    refine ⟨hp, fun hne => ?_, hr.read accepts, ht⟩
    -- An answer that was read is the last word of the reader.
    have hanswer := ha hne
    rw [(hr.idle (hanswer ▸ hne)).read accepts, hanswer]
  | result purpose =>
    obtain ⟨hp, hr, ht⟩ := h
    exact ⟨hp, hr.read accepts, ht⟩
  | idle | applyStopped => exact ⟨h.1.read accepts, h.2⟩

theorem read_transmit (h : Progress pc t receive transmit) (accepts : Bool) :
    Progress pc t receive (transmit.read accepts) := by
  cases pc with
  | publish stage owner =>
    cases stage with
    | receiveResult | transmitResult =>
      obtain ⟨ho, hr, ht⟩ := h
      exact ⟨ho, hr, by rwa [ht.read accepts]⟩
    | receive | transmit =>
      obtain ⟨ho, hr, ht⟩ := h
      exact ⟨ho, hr, by rwa [ht.1.read accepts]⟩
  | resultTransmit purpose answer =>
    obtain ⟨hp, ha, hr, ht⟩ := h
    exact ⟨hp, ha, hr, ht.read accepts⟩
  | result purpose =>
    obtain ⟨hp, hr, ht⟩ := h
    exact ⟨hp, hr, ht.read accepts⟩
  | idle | applyStopped => exact ⟨h.1, h.2.read accepts⟩

theorem readAll (h : Progress pc t receive transmit) (hr : receive.reading = .idle)
    (ht : transmit.reading = .idle) (receiveAccepts transmitAccepts : Bool) :
    Progress pc t (receive.readAll receiveAccepts) (transmit.readAll transmitAccepts) := by
  rw [readAll_eq_iterate hr, readAll_eq_iterate ht]
  have h' := Function.Iterate.rec (fun r => Progress pc t r transmit) h
    (fun _ h => h.read_receive receiveAccepts) 4
  exact Function.Iterate.rec (fun r => Progress pc t _ r) h'
    (fun _ h => h.read_transmit transmitAccepts) 4

end Progress

namespace StationRuntime

/-! ## The invariant -/

/-- The plan of an adopted generation. -/
def planOf (s : StationRuntime P) (adopted : Option (UpdateOwner P)) : StationPlan P :=
  adopted.elim s.opened (·.plan)

/-- Both directions run one generation, and the control host has its plan. -/
structure Agreement (s : StationRuntime P) : Prop where
  adopted : s.updates.receive.adopted = s.updates.transmit.adopted
  plan : s.plan = s.planOf s.updates.receive.adopted
  /-- The processors of that generation are the ones that the meters read. -/
  recorded : s.updates.receive.recorded = s.updates.receive.adopted ∧
    s.updates.transmit.recorded = s.updates.transmit.adopted
  /-- The receive context has the tables of that generation. -/
  tables : ∀ owner, s.updates.receive.adopted = some owner → s.tables = owner.tables

/-- What holds while no transaction is open. -/
structure Settled (s : StationRuntime P) : Prop where
  receive : Idle s.updates.receive
  transmit : Idle s.updates.transmit
  adopted : s.updates.receive.adopted = s.updates.transmit.adopted
  plan : s.plan = s.planOf s.updates.receive.adopted
  recorded : s.updates.receive.recorded = s.updates.receive.adopted ∧
    s.updates.transmit.recorded = s.updates.transmit.adopted
  pc : ∀ stage owner, s.pc ≠ .publish stage owner

/-- What every step keeps. -/
structure Consistent (s : StationRuntime P) : Prop where
  stopped : s.running = false →
    s.updates.receive.reading = .idle ∧ s.updates.transmit.reading = .idle
  tables : ∀ owner, s.updates.receive.adopted = some owner → s.tables = owner.tables
  settled : s.updates.storage.transaction = none → Settled s
  progress : ∀ t, s.updates.storage.transaction = some t →
    Progress s.pc t s.updates.receive s.updates.transmit

theorem Consistent.agreement {s : StationRuntime P} (h : Consistent s)
    (hnone : s.updates.storage.transaction = none) : Agreement s :=
  let hs := h.settled hnone
  ⟨hs.adopted, hs.plan, hs.recorded, h.tables⟩

theorem consistent_open (address : Nat) (plan : StationPlan P) (tables : ReceiveTables P) :
    Consistent («open» address plan tables) where
  stopped _ := ⟨rfl, rfl⟩
  tables _ h := by cases h
  settled _ := ⟨idle_fresh, idle_fresh, rfl, rfl, ⟨rfl, rfl⟩, fun _ _ h => by cases h⟩
  progress _ h := by cases h

/-! ## The callbacks -/

theorem receiveStep_of_idle {s : StationRuntime P} (h : Idle s.updates.receive) (accepts : Bool) :
    s.receiveStep accepts = s := by
  unfold receiveStep
  rw [h.read accepts, h.reading]

theorem transmitStep_of_idle {s : StationRuntime P} (h : Idle s.updates.transmit)
    (accepts : Bool) : s.transmitStep accepts = s := by
  unfold transmitStep
  rw [h.read accepts]

/-- The receive callback touches its slot and its tables only; the tables follow the generation. -/
theorem receiveStep_spec (s : StationRuntime P) (accepts : Bool) :
    ∃ tables, s.receiveStep accepts = { s with
        tables, updates := { s.updates with receive := s.updates.receive.read accepts } } ∧
      ((∀ owner, s.updates.receive.adopted = some owner → s.tables = owner.tables) →
        ∀ owner, (s.updates.receive.read accepts).adopted = some owner →
          tables = owner.tables) := by
  unfold receiveStep Slot.read
  cases s.updates.receive.reading with
  | deciding taken =>
    cases accepts with
    | true =>
      refine ⟨_, rfl, fun _ owner h => ?_⟩
      rw [← Option.some.inj h]
    | false => exact ⟨_, rfl, id⟩
  | idle =>
    refine ⟨_, rfl, fun h => ?_⟩
    simp only
    split <;> exact h
  | recording _ | answering _ => exact ⟨_, rfl, id⟩

theorem Consistent.receiveStep {s : StationRuntime P} (h : Consistent s)
    (hrunning : s.running = true) (accepts : Bool) :
    Consistent (s.receiveStep accepts) := by
  cases htx : s.updates.storage.transaction with
  | none =>
    rw [receiveStep_of_idle (h.settled htx).receive]
    exact h
  | some t =>
    obtain ⟨tables, heq, htables⟩ := s.receiveStep_spec accepts
    rw [heq]
    refine ⟨fun hstop => ?_, htables h.tables, fun hnone => ?_, fun t' ht' => ?_⟩
    · rw [hrunning] at hstop
      cases hstop
    · rw [htx] at hnone
      cases hnone
    · exact (h.progress t' ht').read_receive accepts

theorem Consistent.transmitStep {s : StationRuntime P} (h : Consistent s)
    (hrunning : s.running = true) (accepts : Bool) :
    Consistent (s.transmitStep accepts) := by
  cases htx : s.updates.storage.transaction with
  | none =>
    rw [transmitStep_of_idle (h.settled htx).transmit]
    exact h
  | some t =>
    refine ⟨fun hstop => ?_, h.tables, fun hnone => ?_, fun t' ht' => ?_⟩
    · exact absurd (hrunning.symm.trans hstop) (by simp)
    · exact absurd (htx.symm.trans hnone) (by simp)
    · exact (h.progress t' ht').read_transmit accepts

/-- A stopped stream: the control owner does all that is left of the callbacks. -/
theorem applyStoppedUpdate_spec {s : StationRuntime P} (h : s.running = false)
    (receiveAccepts transmitAccepts : Bool) :
    ∃ tables, s.applyStoppedUpdate receiveAccepts transmitAccepts = { s with
        tables
        updates := { s.updates with
          receive := s.updates.receive.readAll receiveAccepts
          transmit := s.updates.transmit.readAll transmitAccepts } } ∧
      ((∀ owner, s.updates.receive.adopted = some owner → s.tables = owner.tables) →
        ∀ owner, (s.updates.receive.readAll receiveAccepts).adopted = some owner →
          tables = owner.tables) := by
  unfold applyStoppedUpdate Slot.readAll
  rw [h]
  refine ⟨_, rfl, fun htables owner => ?_⟩
  cases s.updates.receive.offered with
  | none => exact htables owner
  | some taken =>
    cases receiveAccepts with
    | true =>
      intro howner
      rw [← Option.some.inj howner]
    | false => exact htables owner

theorem applyStoppedUpdate_of_running {s : StationRuntime P} (h : s.running = true)
    (receiveAccepts transmitAccepts : Bool) :
    s.applyStoppedUpdate receiveAccepts transmitAccepts = s := by
  unfold applyStoppedUpdate
  rw [h]
  rfl

theorem Consistent.applyStoppedUpdate {s : StationRuntime P} (h : Consistent s)
    (receiveAccepts transmitAccepts : Bool) :
    Consistent (s.applyStoppedUpdate receiveAccepts transmitAccepts) := by
  cases hrunning : s.running with
  | true => rwa [applyStoppedUpdate_of_running hrunning]
  | false =>
    obtain ⟨tables, heq, htables⟩ :=
      applyStoppedUpdate_spec hrunning receiveAccepts transmitAccepts
    obtain ⟨hr, ht⟩ := h.stopped hrunning
    rw [heq]
    refine ⟨fun _ => ⟨?_, ?_⟩, htables h.tables, fun hnone => ?_, fun t htx => ?_⟩
    · exact (reading_readAll _ _).trans hr
    · exact (reading_readAll _ _).trans ht
    · have hs := h.settled hnone
      have h1 := hs.receive.readAll receiveAccepts
      have h2 := hs.transmit.readAll transmitAccepts
      exact ⟨by rw [h1]; exact hs.receive, by rw [h2]; exact hs.transmit,
        by rw [h1, h2]; exact hs.adopted, by rw [h1]; exact hs.plan,
        by rw [h1, h2]; exact hs.recorded, hs.pc⟩
    · exact (h.progress t htx).readAll hr ht receiveAccepts transmitAccepts

@[simp] theorem transaction_applyStoppedUpdate (s : StationRuntime P)
    (receiveAccepts transmitAccepts : Bool) :
    (s.applyStoppedUpdate receiveAccepts transmitAccepts).updates.storage = s.updates.storage := by
  unfold applyStoppedUpdate
  split <;> rfl

@[simp] theorem pc_applyStoppedUpdate (s : StationRuntime P)
    (receiveAccepts transmitAccepts : Bool) :
    (s.applyStoppedUpdate receiveAccepts transmitAccepts).pc = s.pc := by
  unfold applyStoppedUpdate
  split <;> rfl

/-! ## The control owner -/

theorem result_eq_ok_iff {receive transmit : Int} :
    UpdateMailbox.result (P := P) receive transmit = .ok () ↔ 0 < receive ∧ 0 < transmit := by
  unfold UpdateMailbox.result
  split
  · simp; omega
  · split
    · simp; omega
    · simp; omega

theorem result_eq_pending_iff {receive transmit : Int} :
    UpdateMailbox.result (P := P) receive transmit = .error .pending ↔
      receive = 0 ∨ transmit = 0 := by
  unfold UpdateMailbox.result
  split
  · rename_i h
    exact iff_of_true rfl h
  · rename_i h
    split
    · exact iff_of_false (by simp) h
    · exact iff_of_false (by simp) h

/-- What an update that begins finds, and what it changes. -/
theorem beginUpdate_cases (s : StationRuntime P) (update : StationUpdate P)
    (forward reverse : Except RadioError Unit) :
    (∃ e, s.beginUpdate update forward reverse = (s, some (.error e))) ∨
      (update.source = s.address ∧ s.updates.storage.transaction = none ∧
        s.updates.storage.revision = update.revision ∧
        s.beginUpdate update forward reverse = ({ s with
          updates := { s.updates with
            storage := { s.updates.storage with transaction := some ⟨update, false⟩ } }
          pc := .publish .receiveResult update.forward
          begun := s.begun ++ [update] }, none)) := by
  unfold beginUpdate
  split
  · exact .inl ⟨_, rfl⟩
  · rename_i hsource
    split
    · exact .inl ⟨_, rfl⟩
    · exact .inl ⟨_, rfl⟩
    · split
      · exact .inl ⟨_, rfl⟩
      · rename_i hfree
        rw [not_or, Bool.not_eq_true, Option.isSome_eq_false_iff, Option.isNone_iff_eq_none,
          not_not] at hfree
        exact .inr ⟨not_not.mp hsource, hfree.1, hfree.2, rfl⟩

theorem Consistent.beginUpdate {s : StationRuntime P} (h : Consistent s)
    (update : StationUpdate P) (forward reverse : Except RadioError Unit) :
    Consistent (s.beginUpdate update forward reverse).1 := by
  rcases s.beginUpdate_cases update forward reverse with ⟨e, heq⟩ | ⟨-, hnone, -, heq⟩
  · rw [heq]
    exact h
  · have hs := h.settled hnone
    rw [heq]
    refine ⟨h.stopped, h.tables, fun hc => (by cases hc), fun t ht => ?_⟩
    obtain rfl := Option.some.inj ht
    exact ⟨rfl, hs.receive, hs.transmit⟩

theorem Consistent.withPc {s : StationRuntime P} (h : Consistent s) {pc : ControlPc P}
    (hpc : ∀ stage owner, pc ≠ .publish stage owner)
    (hprogress : ∀ t, s.updates.storage.transaction = some t →
      Progress pc t s.updates.receive s.updates.transmit) :
    Consistent { s with pc } where
  stopped := h.stopped
  tables := h.tables
  settled hnone := { h.settled hnone with pc := hpc }
  progress := hprogress

theorem Consistent.acceptUpdate {s : StationRuntime P} (h : Consistent s) (hpc : s.pc = .idle) :
    Consistent s.acceptUpdate := by
  refine h.withPc (by simp) fun t ht => ?_
  have hp := h.progress t ht
  rw [hpc] at hp
  exact ⟨by simp, hp⟩

theorem Consistent.finishUpdate {s : StationRuntime P} (h : Consistent s) (hpc : s.pc = .idle)
    (commit receiveAccepts transmitAccepts : Bool) :
    Consistent (s.finishUpdate commit receiveAccepts transmitAccepts).1 := by
  have h' := h.applyStoppedUpdate receiveAccepts transmitAccepts
  unfold StationRuntime.finishUpdate
  simp only
  split
  · exact h'
  · refine h'.withPc (by simp) fun t ht => ?_
    have hp := h'.progress t ht
    rw [pc_applyStoppedUpdate, hpc] at hp
    exact ⟨by cases commit <;> simp, hp⟩

/-- What a call of the control owner does behind the results. -/
inductive ConcludeCase (s : StationRuntime P) (purpose : Purpose)
    (result : Except (StationUpdateError P) Unit) : StationRuntime P → Prop
  | returns : ConcludeCase s purpose result { s with pc := .idle }
  | accepts {t : Transaction P} : s.updates.storage.transaction = some t →
    ConcludeCase s purpose result { s with pc := .idle, plan := t.candidate.plan }
  | commits {t : Transaction P} : s.updates.storage.transaction = some t →
    t.reversing = false → result = .ok () → ConcludeCase s purpose result
      ({ s with pc := .idle }.retire t.candidate.plan t.candidate.forward)
  | reverses {t : Transaction P} : s.updates.storage.transaction = some t →
    t.reversing = false → result ≠ .error .pending → ConcludeCase s purpose result
      { s with
        updates := { s.updates with
          storage := { s.updates.storage with transaction := some { t with reversing := true } } }
        pc := .publish .receiveResult t.candidate.reverse }
  | restores {t : Transaction P} : s.updates.storage.transaction = some t →
    (t.reversing = true ∨ purpose = .reverse) → result = .ok () → ConcludeCase s purpose result
      ({ s with pc := .idle }.retire t.candidate.previous t.candidate.reverse)

theorem conclude_cases (s : StationRuntime P) (purpose : Purpose)
    (result : Except (StationUpdateError P) Unit) :
    ConcludeCase s purpose result (s.conclude purpose result).1 := by
  unfold conclude
  simp only
  split
  · exact .returns
  · exact .returns
  · rename_i htx
    split
    · exact .returns
    · exact .accepts htx
  · exact .returns
  · rename_i htx
    split
    · exact .returns
    · rename_i hr
      exact .commits htx (by simpa using hr) rfl
  · exact .returns
  · rename_i htx hne
    split
    · rename_i hr
      split
      · exact .returns
      · exact .restores htx (.inl hr) rfl
    · rename_i hr
      exact .reverses htx (by simpa using hr) hne
  · exact .returns
  · rename_i htx
    exact .restores htx (.inr rfl) rfl
  · exact .returns

/-- Both directions have adopted the owner that is published. -/
theorem Consistent.retire {s : StationRuntime P} (h : Consistent s) {t : Transaction P}
    {plan : StationPlan P} {purpose : Purpose} {answer : Int}
    (ht : s.updates.storage.transaction = some t)
    (hpc : s.pc = .resultTransmit purpose answer)
    (hok : UpdateMailbox.result (P := P) answer s.updates.transmit.answer = .ok ())
    (hplan : t.owner.plan = plan) :
    Consistent ({ s with pc := .idle }.retire plan t.owner) := by
  have hp := h.progress t ht
  rw [hpc] at hp
  obtain ⟨-, hanswer, hr, hx⟩ := hp
  obtain ⟨h1, h2⟩ := result_eq_ok_iff.mp hok
  have heq := hanswer (by omega)
  obtain ⟨had1, hrec1⟩ := hr.adopted (by omega)
  obtain ⟨had2, hrec2⟩ := hx.adopted h2
  refine ⟨h.stopped, h.tables, fun _ => ?_, fun t' ht' => (by cases ht')⟩
  refine ⟨hr.idle (by omega), hx.idle (by omega), had1.trans had2.symm, ?_, ⟨?_, ?_⟩, by simp [StationRuntime.retire]⟩
  · show plan = _
    rw [← hplan]
    show _ = s.planOf s.updates.receive.adopted
    rw [had1]
    rfl
  · exact hrec1.trans had1.symm
  · exact hrec2.trans had2.symm

theorem Consistent.conclude {s : StationRuntime P} (h : Consistent s) {purpose : Purpose}
    {answer : Int} (hpc : s.pc = .resultTransmit purpose answer) :
    Consistent (s.conclude purpose
      (UpdateMailbox.result answer s.updates.transmit.answer)).1 := by
  have hcases := s.conclude_cases purpose (UpdateMailbox.result answer s.updates.transmit.answer)
  have hprogress : ∀ t, s.updates.storage.transaction = some t →
      (purpose = .reverse → t.reversing = true) ∧ (answer ≠ 0 → s.updates.receive.answer = answer) ∧
        Pending t.owner s.updates.receive ∧ Pending t.owner s.updates.transmit := by
    intro t ht
    have hp := h.progress t ht
    rwa [hpc] at hp
  generalize hs' : (s.conclude purpose
    (UpdateMailbox.result answer s.updates.transmit.answer)).1 = s' at hcases
  cases hcases with
  | returns => exact h.withPc (by simp) fun t ht => (hprogress t ht).2.2
  | accepts htx =>
    refine ⟨h.stopped, h.tables, fun hnone => ?_, fun t ht => (hprogress t ht).2.2⟩
    exact absurd (htx.symm.trans hnone) (by simp)
  | @commits t htx hr hok =>
    have howner : t.owner = t.candidate.forward := by rw [Transaction.owner, hr]; rfl
    rw [← howner]
    exact h.retire htx hpc hok (by rw [howner]; exact t.candidate.forward_plan)
  | @restores t htx hr hok =>
    have hrev : t.reversing = true := hr.elim id fun hp => (hprogress t htx).1 hp
    have howner : t.owner = t.candidate.reverse := by rw [Transaction.owner, hrev]; rfl
    rw [← howner]
    exact h.retire htx hpc hok (by rw [howner]; exact t.candidate.reverse_plan)
  | @reverses t htx hr hne =>
    obtain ⟨-, hanswer, hrx, htx'⟩ := hprogress t htx
    rw [Ne, result_eq_pending_iff, not_or] at hne
    refine ⟨h.stopped, h.tables, fun hnone => (by cases hnone), fun t' ht' => ?_⟩
    obtain rfl := Option.some.inj ht'
    exact ⟨rfl, hrx.idle (by rw [hanswer hne.1]; exact hne.1), htx'.idle hne.2⟩

/-- A store of `publish`: a transaction is open, and the readers go on where they are. -/
theorem Consistent.store {s : StationRuntime P} (h : Consistent s) {stage : PublishStage}
    {owner : UpdateOwner P} (hpc : s.pc = .publish stage owner)
    {receive transmit : Slot (UpdateOwner P)} {pc : ControlPc P}
    (hr : receive.reading = s.updates.receive.reading ∧
      receive.adopted = s.updates.receive.adopted)
    (ht : transmit.reading = s.updates.transmit.reading)
    (hprogress : ∀ t, Progress s.pc t s.updates.receive s.updates.transmit →
      Progress pc t receive transmit) :
    Consistent { s with updates := { s.updates with receive, transmit }, pc } where
  stopped hstop := ⟨hr.1.trans (h.stopped hstop).1, ht.trans (h.stopped hstop).2⟩
  tables owner ho := h.tables owner (hr.2.symm.trans ho)
  settled hnone := absurd hpc ((h.settled hnone).pc stage owner)
  progress t htx := hprogress t (h.progress t htx)

theorem Consistent.controlStep {s : StationRuntime P} (h : Consistent s)
    {receiveAccepts transmitAccepts : Bool} {r : StationRuntime P × Returned P}
    (hstep : s.controlStep receiveAccepts transmitAccepts = some r) : Consistent r.1 := by
  unfold StationRuntime.controlStep at hstep
  split at hstep
  · cases hstep
  · rename_i owner hpc
    obtain rfl := Option.some.inj hstep
    refine h.store hpc ⟨rfl, rfl⟩ rfl fun t hp => ?_
    rw [hpc] at hp
    obtain ⟨ho, hr, ht⟩ := hp
    exact ⟨ho, ⟨hr.clear, rfl⟩, ht⟩
  · rename_i owner hpc
    obtain rfl := Option.some.inj hstep
    refine h.store hpc ⟨rfl, rfl⟩ rfl fun t hp => ?_
    rw [hpc] at hp
    obtain ⟨ho, hr, ht⟩ := hp
    exact ⟨ho, hr, ht.clear, rfl⟩
  · rename_i owner hpc
    obtain rfl := Option.some.inj hstep
    refine h.store hpc ⟨rfl, rfl⟩ rfl fun t hp => ?_
    rw [hpc] at hp
    obtain ⟨ho, hr, ht⟩ := hp
    exact ⟨ho, hr.1.pending_offer hr.2 owner, ht⟩
  · rename_i owner hpc
    obtain rfl := Option.some.inj hstep
    refine h.store hpc ⟨rfl, rfl⟩ rfl fun t hp => ?_
    rw [hpc] at hp
    obtain ⟨rfl, hr, ht⟩ := hp
    exact ⟨hr, ht.1.pending_offer ht.2 _⟩
  · rename_i hpc
    have h' := h.applyStoppedUpdate receiveAccepts transmitAccepts
    have hp : ∀ t, (s.applyStoppedUpdate receiveAccepts
        transmitAccepts).updates.storage.transaction = some t →
        Pending t.owner (s.applyStoppedUpdate receiveAccepts transmitAccepts).updates.receive ∧
          Pending t.owner
            (s.applyStoppedUpdate receiveAccepts transmitAccepts).updates.transmit := by
      intro t ht
      have hp := h'.progress t ht
      rwa [pc_applyStoppedUpdate, hpc] at hp
    simp only at hstep
    split at hstep
    · rename_i candidate htx
      obtain rfl := Option.some.inj hstep
      refine h'.withPc (by simp) fun t ht => ⟨fun _ => ?_, hp t ht⟩
      rw [← Option.some.inj (htx.symm.trans ht)]
    · obtain rfl := Option.some.inj hstep
      exact h'.withPc (by simp) hp
  · rename_i purpose hpc
    obtain rfl := Option.some.inj hstep
    refine h.withPc (by simp) fun t ht => ?_
    have hp := h.progress t ht
    rw [hpc] at hp
    exact ⟨hp.1, fun _ => rfl, hp.2⟩
  · rename_i purpose answer hpc
    obtain rfl := Option.some.inj hstep
    exact h.conclude hpc

end StationRuntime

/-! ## Runs -/

namespace Updating

variable {s s' : Updating P} {a : UpdateAct P}

theorem pc_of_free (h : s.free = true) : s.station.pc = .idle := by
  unfold free at h
  split at h
  · assumption
  · cases h

/-- What a step does to the station; `prepared` are the updates that can begin. -/
inductive StationCase (prepared : List (StationUpdate P)) (s : StationRuntime P) :
    StationRuntime P → Prop
  | same : StationCase prepared s s
  | start : s.pc = .idle → StationCase prepared s { s with running := true }
  | stop : s.updates.receive.reading = .idle → s.updates.transmit.reading = .idle →
    StationCase prepared s { s with running := false }
  | begin {update : StationUpdate P} (forward reverse : Except RadioError Unit) : s.pc = .idle →
    update ∈ prepared → StationCase prepared s (s.beginUpdate update forward reverse).1
  | accept : s.pc = .idle → StationCase prepared s s.acceptUpdate
  | finish (commit receiveAccepts transmitAccepts : Bool) : s.pc = .idle →
    StationCase prepared s (s.finishUpdate commit receiveAccepts transmitAccepts).1
  | control {receiveAccepts transmitAccepts : Bool}
    {r : StationRuntime P × StationRuntime.Returned P} :
    s.controlStep receiveAccepts transmitAccepts = some r → StationCase prepared s r.1
  | receive (accepts : Bool) : s.running = true → StationCase prepared s (s.receiveStep accepts)
  | transmit (accepts : Bool) : s.running = true →
    StationCase prepared s (s.transmitStep accepts)

theorem stationCase_of_step (h : s.step a = some s') :
    StationCase s.prepared s.station s'.station := by
  cases a with
  | start =>
    simp only [step] at h
    split at h
    · rename_i hfree
      obtain rfl := Option.some.inj h
      exact .start (pc_of_free hfree)
    · cases h
  | stop =>
    simp only [step] at h
    split at h
    · rename_i hr ht
      obtain rfl := Option.some.inj h
      exact .stop hr ht
    · cases h
  | snapshot processing =>
    simp only [step] at h
    split at h
    · split at h
      · obtain rfl := Option.some.inj h
        exact .same
      · obtain rfl := Option.some.inj h
        exact .same
    · cases h
  | prepare i plan answers =>
    simp only [step] at h
    split at h
    · cases h
    · split at h
      · obtain rfl := Option.some.inj h
        exact .same
      · obtain rfl := Option.some.inj h
        exact .same
  | foreign update =>
    simp only [step] at h
    split at h
    · obtain rfl := Option.some.inj h
      exact .same
    · cases h
  | «begin» i forward reverse =>
    simp only [step] at h
    split at h
    · rename_i hfree hi
      obtain rfl := Option.some.inj h
      exact .begin forward reverse (pc_of_free hfree) (List.mem_of_getElem? hi)
    · cases h
  | accept =>
    simp only [step] at h
    split at h
    · rename_i hfree
      obtain rfl := Option.some.inj h
      exact .accept (pc_of_free hfree)
    · cases h
  | finish commit receiveAccepts transmitAccepts =>
    simp only [step] at h
    split at h
    · rename_i hfree
      obtain rfl := Option.some.inj h
      exact .finish commit receiveAccepts transmitAccepts (pc_of_free hfree)
    · cases h
  | control receiveAccepts transmitAccepts =>
    obtain ⟨r, hr, rfl⟩ := Option.map_eq_some_iff.mp h
    exact .control hr
  | receive accepts =>
    simp only [step] at h
    split at h
    · rename_i hrunning
      obtain rfl := Option.some.inj h
      exact .receive accepts hrunning
    · cases h
  | transmit accepts =>
    simp only [step] at h
    split at h
    · rename_i hrunning
      obtain rfl := Option.some.inj h
      exact .transmit accepts hrunning
    · cases h

end Updating

namespace StationRuntime

open Updating

theorem Consistent.step {s s' : StationRuntime P} {prepared : List (StationUpdate P)}
    (h : Consistent s) (hcase : StationCase prepared s s') : Consistent s' := by
  cases hcase with
  | same => exact h
  | start _ =>
    exact ⟨fun hstop => (by cases hstop), h.tables, fun hnone => { h.settled hnone with },
      h.progress⟩
  | stop hr ht => exact ⟨fun _ => ⟨hr, ht⟩, h.tables, fun hnone => { h.settled hnone with },
      h.progress⟩
  | begin forward reverse _ _ => exact h.beginUpdate _ forward reverse
  | accept hpc => exact h.acceptUpdate hpc
  | finish commit receiveAccepts transmitAccepts hpc =>
    exact h.finishUpdate hpc commit receiveAccepts transmitAccepts
  | control hstep => exact h.controlStep hstep
  | receive accepts hrunning => exact h.receiveStep hrunning accepts
  | transmit accepts hrunning => exact h.transmitStep hrunning accepts

theorem consistent_inductive (P : StationParts) :
    (updating P).Inductive (fun _ _ => True) fun s => Consistent s.station where
  init := by
    rintro s ⟨address, plan, tables, rfl⟩
    exact consistent_open address plan tables
  step s a s' h _ hstep := h.step (stationCase_of_step hstep)

/-- **Update agreement** in every state that a station reaches. -/
theorem agreement_of_reach {s : Updating P} (h : (updating P).Reach s)
    (hnone : s.station.updates.storage.transaction = none) : Agreement s.station :=
  ((consistent_inductive P).reach h).agreement hnone

/-! ## A rollback of one half -/

/-- Descriptions without content: plans differ in the configuration only. -/
def plainParts : StationParts where
  ChannelConfiguration := Nat
  HardwarePlan := Unit
  SessionConfig := Unit
  NativeProcessingPlan := Unit
  RemoteConfiguration := Unit
  RemoteOperatingState := Unit
  ProcessingRuntimeError := Unit
  ProcessingGeneration := Unit
  PreparedUpdate := Unit
  CtcssTable := Unit
  HardwarePreflight := Nat
  RemotePreparation := Nat
  maximumReceiveFrameCount _ := 960
  subaudibleSource _ := .disabled
  cosAssignment _ := .dsp
  controllerCtcssTable _ := ()
  voterReporting _ := false
  carrierSettings _ settings := settings
  signalingSettings _ _ _ settings := .ok settings

/-- A plan with nothing but its configuration. -/
def plainPlan (configuration : Nat) : StationPlan plainParts :=
  ⟨.rptAdvanced, configuration, (), (), (), none, none⟩

/-- A station with the plan 0. -/
def plainStation : Updating plainParts := ⟨.open 0 (plainPlan 0) ⟨(), false⟩, [], []⟩

/-- An update to a configuration, from the snapshot to its publication. -/
def plainUpdate (configuration : Nat) : List (UpdateAct plainParts) :=
  [.snapshot (.ok ()), .prepare 0 (plainPlan configuration) ⟨.ok (), .ok (), .ok (), .ok (), 0⟩,
    .begin 0 (.ok ()) (.ok ())] ++ List.replicate 5 (.control true true)

set_option maxRecDepth 2000 in
/-- The receive callback adopts the update, the transmit callback rejects it, and both adopt the
reverse generation. -/
theorem agreement_of_rejected : ∃ s : Updating plainParts, s.station.ended = 1 ∧
    s.station.begun.map (·.plan) = [plainPlan 1] ∧ s.station.plan = plainPlan 0 ∧
    Agreement s.station := by
  obtain ⟨s, hrun, hnone, hended, hbegun, hplan⟩ : ∃ s, (updating plainParts).run plainStation
      ([.start] ++ plainUpdate 1 ++ List.replicate 4 (.receive true) ++
        List.replicate 4 (.transmit false) ++ [.finish false true true] ++
        List.replicate 7 (.control true true) ++ List.replicate 4 (.receive true) ++
        List.replicate 4 (.transmit true) ++ List.replicate 2 (.control true true)) = some s ∧
      s.station.updates.storage.transaction = none ∧ s.station.ended = 1 ∧
      s.station.begun.map (·.plan) = [plainPlan 1] ∧ s.station.plan = plainPlan 0 :=
    ⟨_, rfl, rfl, rfl, rfl, rfl⟩
  exact ⟨s, hended, hbegun, hplan,
    agreement_of_reach ⟨_, _, ⟨0, plainPlan 0, ⟨(), false⟩, rfl⟩, hrun⟩ hnone⟩

end StationRuntime
end Station
end UsbRadioPlus
