import UsbRadioPlus.Product.ReloadEnd
import UsbRadioPlus.Station.UpdateAgreement

/-!
# The runs of a channel

* `devices_alone`: no device is opened while another station holds one, and no call panics.
* `reload_reverts`: a reload that ends without a commit leaves the generation that it found.
* `reload_commits`: a replacement that was adopted is the generation behind the commit, as a whole.
-/

namespace UsbRadioPlus
namespace Product

open Sys Fallible Station Driver Asl3

variable {P : ProductParts} {s s' : Channel P}

/-! ## One step -/

/-- A call that neither starts the channel nor commits a reload. -/
def Call.keeps : Call P → Bool
  | .start _ => false
  | .reloadFinish commit _ => !commit
  | _ => true

/-- A call that a reload waits with, between its adoption and its end. -/
def Call.waits : Call P → Bool
  | .service .. | .reloadPrepare .. | .reloadActivate _ => true
  | _ => false

/-- A step that neither starts the channel nor commits a reload. -/
def Act.keeps : Act P → Bool
  | .call c => c.keeps
  | .receive _ => true

/-- A step that a reload waits with, between its adoption and its end. -/
def Act.waits : Act P → Bool
  | .call c => c.waits
  | .receive _ => true

theorem ends_run (h : Owned s) (call : Call P) :
    Ends call.run s fun _ s' => Owned s' ∧ (call.keeps = true → Kept s s') := by
  have hkept {m : Controlled P Unit} {keeps : Bool} (hm : Ends m s fun _ s' => Kept s s') :
      Ends m s fun _ s' => Owned s' ∧ (keeps = true → Kept s s') :=
    hm.imp fun _ _ h' => ⟨h'.owned, fun _ => h'⟩
  cases call with
  | start answers =>
    exact (ends_channelStart h answers).imp fun _ _ h' => ⟨h', fun hnot => (by cases hnot)⟩
  | stop answers => exact hkept (ends_channelStop h answers)
  | quiesce answers => exact hkept (ends_channelQuiesce h answers)
  | service answers delivered drain =>
    exact hkept ((ends_channelService h answers delivered drain).imp fun _ _ h' => h'.kept)
  | reloadPrepare driver answers => exact hkept (ends_channelReloadPrepare h driver answers)
  | reloadActivate answers =>
    exact hkept ((ends_channelReloadActivate h answers).imp fun _ _ h' => h'.1)
  | reloadFinish commit answers =>
    cases commit with
    | false => exact hkept ((ends_channelReloadFinish h answers).imp fun _ _ h' => h'.1)
    | true =>
      exact (ends_channelReloadFinish_commit h answers).imp fun _ _ h' =>
        ⟨h'.1, fun hnot => (by cases hnot)⟩

theorem step_call {call : Call P} (hstep : s.step (.call call) = some s') :
    ∃ r, call.run s = some (r, s') := by
  obtain ⟨⟨r, s''⟩, hrun, rfl⟩ := Option.map_eq_some_iff.mp hstep
  exact ⟨r, hrun⟩

theorem Owned.receive (h : Owned s) {available : Nat} (hstep : s.receive available = some s') :
    Aside s s' := by
  unfold Channel.receive at hstep
  simp only [Option.bind_eq_bind, Option.bind_eq_some_iff] at hstep
  obtain ⟨id, hid, station, hst, hstep⟩ := hstep
  split at hstep
  · obtain rfl := Option.some.inj hstep
    have hserves : Serves station { station with available } :=
      ⟨rfl, rfl, fun hremote => ⟨hremote, rfl⟩, fun hsettled => hsettled⟩
    have haside := h.aside_worked hid hst hserves
    have hopenings : station.openings = HardwareStation.openings { station with available } := rfl
    unfold Channel.worked at haside
    rwa [if_pos hopenings] at haside
  · cases hstep

theorem Owned.step (h : Owned s) {a : Act P} (hstep : s.step a = some s') :
    Owned s' ∧ (a.keeps = true → Kept s s') := by
  cases a with
  | call call =>
    obtain ⟨r, hrun⟩ := step_call hstep
    exact (ends_run h call).exec hrun
  | receive available =>
    have haside := h.receive hstep
    exact ⟨haside.owned, fun _ => haside.kept⟩

/-- A channel that adopts a generation is busy for another preparation. -/
theorem Adopts.step {prepared : PreparedChannelReplacement P} (h : Owned s)
    (hadopts : Adopts prepared s) {a : Act P} (hwaits : a.waits = true)
    (hstep : s.step a = some s') : Adopts prepared s' := by
  cases a with
  | receive available => exact hadopts.aside (h.receive hstep)
  | call call =>
    obtain ⟨r, hrun⟩ := step_call hstep
    cases call with
    | service answers delivered drain =>
      exact hadopts.aside ((ends_channelService h answers delivered drain).exec hrun)
    | reloadActivate answers => exact ((ends_channelReloadActivate h answers).exec hrun).2.2 _ hadopts
    | reloadPrepare driver answers =>
      have hsome : s.rollback.isSome = true := by
        cases hr : s.rollback with
        | none =>
          have hexchanged := hadopts.exchanged
          rw [hr] at hexchanged
          cases hexchanged
        | some adopted => rfl
      have hbusy : Ends (channelReloadPrepare driver answers) s fun _ s' => s' = s := by
        unfold channelReloadPrepare
        simp only [ends_get_bind, h.single hsome]
        unfold prepareGeneration
        rw [ends_get_bind, if_pos hsome]
        exact ends_fail.mpr rfl
      exact hbusy.exec hrun ▸ hadopts
    | _ => cases hwaits

/-! ## Runs -/

theorem reserve_owned (remote : Option P.RemotePreparation) (media : StationMedia P.toStationParts)
    (preflight : P.HardwarePreflight) (jitter : P.JitterConfig) :
    Owned (Channel.reserve remote media preflight jitter) where
  heap := by
    refine ⟨fun _ _ => rfl, fun _ => ?_, fun _ hnone => absurd hnone.symm (Option.some_ne_none _),
      fun _ _ => rfl, fun _ ho => absurd ho List.not_mem_nil, fun _ _ _ hnone => ?_⟩
    · simp [Channel.reserve, parked]
    · exact absurd hnone.symm (Option.some_ne_none _)
  running hrun := by cases hrun
  single hsome := by cases hsome
  current _ _ hsome := absurd hsome.symm (Option.some_ne_none _)
  paired _ := rfl

theorem owned_inductive : (channelRuns P).Inductive (fun _ _ => True) Owned where
  init := by
    rintro s ⟨remote, media, preflight, jitter, rfl⟩
    exact reserve_owned remote media preflight jitter
  step _ _ _ h _ hstep := (h.step hstep).1

theorem owned_of_reach (h : (channelRuns P).Reach s) : Owned s := owned_inductive.reach h

/-- Whatever is done between, a run without a start and a commit keeps what a rollback brings back. -/
theorem kept_of_run {acts : List (Act P)} (h : Owned s) (hkeeps : ∀ a ∈ acts, a.keeps = true)
    (hrun : (channelRuns P).run s acts = some s') : Kept s s' := by
  induction acts generalizing s with
  | nil =>
    obtain rfl := Option.some.inj hrun
    exact h.kept
  | cons a acts ih =>
    obtain ⟨m, hstep, hrest⟩ := System.run_cons.mp hrun
    have hkept := (h.step hstep).2 (hkeeps a List.mem_cons_self)
    exact hkept.trans (ih hkept.owned (fun b hb => hkeeps b (List.mem_cons_of_mem a hb)) hrest)

theorem adopts_of_run {prepared : PreparedChannelReplacement P} {acts : List (Act P)} (h : Owned s)
    (hadopts : Adopts prepared s) (hwaits : ∀ a ∈ acts, a.waits = true)
    (hrun : (channelRuns P).run s acts = some s') : Owned s' ∧ Adopts prepared s' := by
  induction acts generalizing s with
  | nil =>
    obtain rfl := Option.some.inj hrun
    exact ⟨h, hadopts⟩
  | cons a acts ih =>
    obtain ⟨m, hstep, hrest⟩ := System.run_cons.mp hrun
    exact ih (h.step hstep).1 (hadopts.step h (hwaits a List.mem_cons_self) hstep)
      (fun b hb => hwaits b (List.mem_cons_of_mem a hb)) hrest

/-! ## A plain channel -/

/-- No live update is possible. -/
def plainProduct : ProductParts :=
  { StationRuntime.plainParts with
    JitterConfig := Nat
    configurationEq := instDecidableEqNat
    jitterConfig := fun configuration => configuration
    changedGains := fun _ _ => (false, false, false)
    eepromEnabled := fun _ => false
    sameHardwareSettings := fun _ _ _ _ => false }

/-- A controller without echo. -/
def plainController : ControllerState := .prepare .advanced ⟨.disabled, [], 0, 0⟩

/-- The media of a plan. -/
def plainMedia (configuration : Nat) : StationMedia StationRuntime.plainParts :=
  ⟨StationRuntime.plainPlan configuration, plainController, false⟩

/-- A channel that has opened nothing. -/
def plainChannel : Channel plainProduct := .reserve none (plainMedia 0) (0 : Nat) (0 : Nat)

/-- All devices answer with success. -/
def plainStop : StopAnswers := ⟨.retired, true⟩

/-- The answers to an activation that is ready. -/
def plainReady : ReadyAnswers plainProduct := ⟨⟨none, none, 0⟩, StationRuntime.plainPlan 0, .ok true⟩

/-- The answers to a start that succeeds. -/
def plainStart : StartAnswers plainProduct :=
  ⟨true, ⟨plainStop, true, true, plainStop⟩, ⟨true, true⟩, plainStop, plainReady⟩

/-- The answers to a station that comes back. -/
def plainRestore : RestoreAnswers := ⟨true, ⟨plainStop, true, true, plainStop⟩, ⟨true, true⟩, plainStop⟩

/-- The answer of a receive callback without packets. -/
def plainDrain : DrainAnswer := ⟨plainController, 0, true, fun _ => ⟨rfl, rfl⟩⟩

/-- The answers to an update that succeeds. -/
def plainUpdates : UpdateAnswers StationRuntime.plainParts := ⟨.ok (), .ok (), .ok (), .ok (), true, true⟩

/-- Another configuration has been read, perhaps with a remote radio. -/
def plainPrepare (configuration : Nat) (remote : Option Nat) : Call plainProduct :=
  .reloadPrepare ⟨some ⟨some configuration, none⟩, ⟨some (0 : Nat), none⟩⟩
    { finished := true
      joined := none
      livePlan := some (StationRuntime.plainPlan configuration)
      processing := .ok ()
      spawned := true
      plan := some (StationRuntime.plainPlan configuration)
      remote := some remote
      preflight := some configuration
      media := some (plainMedia configuration)
      attached := true }

/-- Outputs that are all low. -/
def plainTransient : HardwareTransientState :=
  ⟨fun _ => 0, none, fun _ => 0, fun _ => rfl⟩

/-- The answers to an activation that succeeds. -/
def plainActivate : ActivateAnswers plainProduct where
  update := plainUpdates
  drain := plainDrain
  transient := .ok plainTransient
  stopped := true
  stoppedAgain := true
  service := plainStop
  received := 0
  drainAgain := plainDrain
  opened := true
  start := plainStart
  restore := plainRestore
  ready := plainReady

/-- The answers to an end that succeeds. -/
def plainFinish : FinishAnswers plainProduct :=
  ⟨plainUpdates, true, ⟨true, true, plainStop⟩, plainRestore, plainReady⟩

/-! ## Exclusive devices -/

/-- **Exclusive devices**: in every state that a channel reaches, each device was opened while no other
station held one, at most one station holds devices, and every call ends without a panic. -/
theorem devices_alone (h : (channelRuns P).Reach s) :
    (∀ o ∈ s.openings, ∀ id, o.held id = true → id = o.station) ∧
      (∀ id id', s.held id = true → s.held id' = true → id = id') ∧
        ∀ call : Call P, ∃ r s', call.run s = some (r, s') := by
  have howned := owned_of_reach h
  refine ⟨howned.heap.alone, fun id id' hid hid' => ?_, fun call => ?_⟩
  · exact Option.some.inj ((howned.heap.held hid).symm.trans (howned.heap.held hid'))
  · obtain ⟨r, s', hrun, -⟩ := ends_run howned call
    exact ⟨r, s', hrun⟩

/-- Two generations have opened their devices. -/
theorem devices_alone_plain : ∃ s : Channel plainProduct,
    s.openings.map (·.station) = [1, 1, 0, 0] ∧ s.held 1 = true ∧ ∀ id, s.held id = true → id = 1 := by
  obtain ⟨s, hrun, hopenings, hheld⟩ : ∃ s, (channelRuns plainProduct).run plainChannel
      [.call (.start plainStart), .call (plainPrepare 1 none), .call (.reloadActivate plainActivate)] =
        some s ∧ s.openings.map (·.station) = [1, 1, 0, 0] ∧ s.held 1 = true :=
    ⟨_, rfl, rfl, rfl⟩
  have halone := devices_alone ⟨plainChannel, _, ⟨none, plainMedia 0, (0 : Nat), (0 : Nat), rfl⟩, hrun⟩
  exact ⟨s, hopenings, hheld, fun id hid => halone.2.1 id 1 hid hheld⟩

/-! ## Rollback -/

/-- **Rollback**: a reload may be prepared, activated and waited for as often as the host likes, and
fail wherever it fails; where its end without a commit succeeds, no reload and no live update is open,
and the present generation is the one in front of it. It runs only if that one did. -/
theorem reload_reverts {acts : List (Act P)} {s₁ : Channel P} {answers : FinishAnswers P}
    (h : (channelRuns P).Reach s) (hidle : Idle s) (hkeeps : ∀ a ∈ acts, a.keeps = true)
    (hrun : (channelRuns P).run s acts = some s₁)
    (hfinish : (Call.reloadFinish false answers).run s₁ = some (.ok (), s')) :
    Idle s' ∧ present s' = present s ∧
      (∀ id station, s'.stations id = some station → Settled station) ∧
        (s'.control.running = true → s.control.running = true) := by
  have hkept := kept_of_run (owned_of_reach h) hkeeps hrun
  obtain ⟨hkept', hidle'⟩ := (ends_channelReloadFinish hkept.owned answers).exec hfinish
  have hnone := (hidle' rfl).1
  have hall := hkept.trans hkept'
  refine ⟨hidle' rfl, ?_, hall.owned.heap.settled (by rw [hnone]; rfl), fun hrunning => ?_⟩
  · rw [← previous_of_none hidle.1, ← previous_of_none hnone]
    exact hall.previous
  · have hruns : runs s' = true → runs s = true := hall.runs
    unfold runs at hruns
    rw [hidle.1, hnone] at hruns
    exact hruns hrunning

/-- The second station had taken over. -/
theorem reload_reverts_plain : ∃ s s₁ s' : Channel plainProduct, s₁.control.hardware = some 1 ∧
    s.control.hardware = some 0 ∧ present s' = present s ∧ s'.control.running = true := by
  obtain ⟨s, hstart, hidle, hhardware⟩ : ∃ s, (channelRuns plainProduct).run plainChannel
      [.call (.start plainStart)] = some s ∧ Idle s ∧ s.control.hardware = some 0 :=
    ⟨_, rfl, ⟨rfl, rfl⟩, rfl⟩
  obtain ⟨s₁, hrun, hexchanged⟩ : ∃ s₁, (channelRuns plainProduct).run plainChannel
      ([.call (.start plainStart)] ++ [.call (plainPrepare 1 none), .call (.reloadActivate plainActivate)]) =
        some s₁ ∧ s₁.control.hardware = some 1 ∧
          ∃ s', (Call.reloadFinish false plainFinish).run s₁ = some (.ok (), s') ∧
            s'.control.running = true :=
    ⟨_, rfl, rfl, _, rfl, rfl⟩
  obtain ⟨hsecond, s', hfinish, hrunning⟩ := hexchanged
  obtain ⟨m, hm, hreload⟩ := System.run_append.mp hrun
  obtain rfl := Option.some.inj (hstart.symm.trans hm)
  have hreverts := reload_reverts ⟨plainChannel, _, ⟨none, plainMedia 0, (0 : Nat), (0 : Nat), rfl⟩, hstart⟩
    hidle (by decide) hreload hfinish
  exact ⟨s, s₁, s', hsecond, hhardware, hreverts.2.1, hrunning⟩

/-! ## Commit -/

/-- **Commit**: the activation of a replacement either fails, and leaves the present generation, or the
channel adopts all of what was prepared. Then, whatever the host does while it waits, the commit
succeeds, and leaves that generation and no other station. -/
theorem reload_commits {prepared : PreparedChannelReplacement P} {answers : ActivateAnswers P}
    {r : Except Status Unit} (h : (channelRuns P).Reach s)
    (hreload : s.control.reload = some (.replacement prepared))
    (hactivate : (Call.reloadActivate answers).run s = some (r, s')) :
    (r ≠ .ok () ∧ present s' = present s) ∨
      ∀ acts s₁ (answers : FinishAnswers P), (∀ a ∈ acts, a.waits = true) →
        (channelRuns P).run s' acts = some s₁ →
          ∃ s₂, (Call.reloadFinish true answers).run s₁ = some (.ok (), s₂) ∧ Works prepared s₂ ∧
            Idle s₂ ∧ ∀ id, (s₂.stations id).isSome = true → s₂.control.hardware = some id := by
  obtain ⟨hkept, hactivates, -⟩ :=
    (ends_channelReloadActivate (owned_of_reach h) answers).exec hactivate
  rcases (hactivates prepared hreload).whole with hadopts | hfailed
  · refine .inr fun acts s₁ answers hwaits hrun => ?_
    obtain ⟨howned, hadopts₁⟩ := adopts_of_run hkept.owned hadopts hwaits hrun
    obtain ⟨r₂, s₂, hrun₂, hcommit⟩ := ends_channelReloadFinish_commit howned answers
    obtain ⟨rfl, hcommits⟩ := hcommit.2 prepared hadopts₁
    have hcontrol := hcommits.control
    refine ⟨s₂, hrun₂, ?_, ⟨hcommits.rollback, ?_⟩, fun id hid => ?_⟩
    · cases hadopts₁.works with
      | media hhardware hmedia hpreflight hremote hjitter =>
        rw [← hcontrol] at hhardware hmedia hpreflight hremote hjitter
        exact .media hhardware hmedia hpreflight hremote hjitter
      | hardware hhardware hequipment hjitter =>
        rw [← hcommits.station _ hhardware] at hequipment
        rw [← hcontrol] at hhardware hjitter
        exact .hardware hhardware hequipment hjitter
    · rw [hcontrol]
      refine howned.single ?_
      cases hr : s₁.rollback with
      | none =>
        have hexchanged := hadopts₁.exchanged
        rw [hr] at hexchanged
        cases hexchanged
      | some adopted => rfl
    · have hheap := hcommits.owned.heap
      rw [hcommits.rollback] at hheap
      rcases (hheap.alive id).mp hid with hactive | hidle
      · exact hactive
      · cases hidle
  · exact .inl hfailed

/-- The adopted station, which has a remote radio, goes on, and the first one is dropped. -/
theorem reload_commits_plain : ∃ s₂ : Channel plainProduct, s₂.control.jitter = (1 : Nat) ∧
    s₂.control.hardware = some 1 ∧ s₂.stations 0 = none ∧
      (s₂.stations 1).map HardwareStation.equipment =
        some (⟨plainMedia 1, (1 : Nat), some (7 : Nat)⟩, true, true) := by
  obtain ⟨s, prepared, hrun, hreload, hprepared, hactivate⟩ : ∃ s prepared,
      (channelRuns plainProduct).run plainChannel
        [.call (.start plainStart), .call (plainPrepare 1 (some 7))] = some s ∧
      s.control.reload = some (.replacement prepared) ∧
        prepared = ⟨some (7 : Nat), plainMedia 1, (1 : Nat), (1 : Nat)⟩ ∧
        ∃ s', (Call.reloadActivate plainActivate).run s = some (.ok (), s') ∧
          ((Call.reloadFinish true plainFinish).run s').map (fun r => r.2.control.hardware) =
            some (some 1) :=
    ⟨_, _, rfl, rfl, rfl, _, rfl, rfl⟩
  subst hprepared
  obtain ⟨s', hactivate, hhardware⟩ := hactivate
  rcases reload_commits ⟨plainChannel, _, ⟨none, plainMedia 0, (0 : Nat), (0 : Nat), rfl⟩, hrun⟩ hreload
    hactivate with hfailed | hcommits
  · exact absurd rfl hfailed.1
  · obtain ⟨s₂, hfinish, hworks, -, halone⟩ := hcommits [] s' plainFinish (by decide) rfl
    rw [hfinish, Option.map_some] at hhardware
    have hsecond : s₂.control.hardware = some 1 := Option.some.inj hhardware
    cases hworks with
    | media hnone => exact absurd (hsecond.symm.trans hnone) (Option.some_ne_none _)
    | hardware hadopted hequipment hjitter =>
      obtain rfl := Option.some.inj (hsecond.symm.trans hadopted)
      refine ⟨s₂, hjitter, hsecond, Option.not_isSome_iff_eq_none.mp fun hsome => ?_, hequipment⟩
      exact absurd (Option.some.inj (hsecond.symm.trans (halone 0 hsome))) (by decide)

end Product
end UsbRadioPlus
