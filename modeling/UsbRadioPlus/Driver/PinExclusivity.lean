import UsbRadioPlus.Driver.OutputEffects
import UsbRadioPlus.Driver.OutputRun

/-!
# The site's pins are its own

In every run of the output state the claimed pins are used for nothing else (`Exclusive`), no pulse
runs on them (`Quiet`), and only the site's commands and the retirement change their levels
(`SameLevels`).

Two operations lose a guard. `restore` installs a remote radio and does not reserve its control
bits, which `configure_remote_radio` does; `prepare_site` rebuilds the reservations of the parallel
bank without those of the selected channel. `Reserving` excludes these steps (`ownPins_of_reachBy`);
with either of them a site can claim the pins (`not_exclusive_unreserved`).
-/

namespace UsbRadioPlus
namespace Driver

open Sys Sys.Mask SiteBankState OutputState

/-- The commands of the site, and its retirement. -/
def OutputAct.drivesSite : OutputAct → Bool
  | .siteBind .. => true
  | .sitePublish .. => true
  | .retireSite => true
  | _ => false

namespace OutputRun

variable {s s' : OutputRun} {plan : HardwarePlan} {act : OutputAct}

/-- The steps that keep the reservations: a remote radio is restored where its control bits are
reserved, and the parallel bank is not rebuilt behind the selection of a channel. -/
def Reserving (s : OutputRun) : OutputAct → Prop
  | .restore state => s.phase ≠ .fresh → state.remoteRadio.isSome = true →
    Apart (s.outputs.claimed .parallel) (parallelRtxControlMask.setWidth 32) →
    (s.outputs.site .parallel).Reserved (parallelRtxControlMask.setWidth 32)
  | .prepareSite devices answers =>
    s.outputs.channelSelected = true → rebuilds devices answers = false
  | _ => True

/-- What every step keeps. -/
structure OwnPins (plan : HardwarePlan) (s : OutputRun) : Prop where
  confined : Confined plan s.outputs
  exclusive : Exclusive plan s.outputs
  quiet : Quiet s.outputs s.devices
  guards : s.phase = .owned ∨ s.phase = .retired → Guards plan s.outputs
  fresh : s.phase = .fresh → ∀ bank, s.outputs.claimed bank = 0

/-- Without claims there is nothing to collide with. -/
theorem exclusive_of_unclaimed {s : OutputState} (h : ∀ bank, s.claimed bank = 0) :
    Exclusive plan s := by
  constructor <;> intros <;> rw [h] <;> exact apart_zero

theorem quiet_of_unclaimed {s : OutputState} (h : ∀ bank, s.claimed bank = 0)
    (devices : ServiceDevices) : Quiet s devices := by
  intro bank device _
  rw [h]
  exact apart_zero

theorem ownPins_new (next : Nat) (plan : HardwarePlan) (remoteRadio : Option RemoteRadio)
    (devices : ServiceDevices) :
    OwnPins plan ⟨(OutputState.new next plan remoteRadio).1, devices,
      (OutputState.new next plan remoteRadio).2, .fresh⟩ := by
  have hclaimed : ∀ bank, (OutputState.new next plan remoteRadio).1.claimed bank = 0 := by
    intro bank
    cases bank <;> rfl
  have hout : ∀ bank, Within ((OutputState.new next plan remoteRadio).1.site bank).snapshot.outputMask
      ((plan.outputEnableMask bank).setWidth 32) := by
    intro bank
    cases bank <;> exact within_refl
  refine ⟨⟨hout, fun bank => ?_⟩, exclusive_of_unclaimed hclaimed, quiet_of_unclaimed hclaimed devices,
    fun h => (by rcases h with h | h <;> cases h), fun _ => hclaimed⟩
  have := hclaimed bank
  unfold claimed at this
  rw [this]
  exact within_zero

theorem quiet_of_same {a b : OutputState} {devices : ServiceDevices} (h : Quiet a devices)
    (hclaimed : ∀ bank, b.claimed bank = a.claimed bank) : Quiet b devices :=
  h.of_noNewPulses hclaimed (noNewPulses_refl devices)

theorem claimed_sitePublish (s : OutputState) (bank : SiteBank) (request : SiteDigitalRequest)
    (b : SiteBank) : (s.sitePublish bank request).claimed b = s.claimed b := by
  unfold OutputState.sitePublish
  simp only
  split
  · exact claimed_setSite_of_same (sameClaims_reject _) b
  · rename_i happly
    exact (claimed_setOutput _ b).trans (claimed_setSite_of_same (apply_spec happly).1 b)

/-- An operation keeps the guards and pulses no claimed pin. -/
theorem guards_operate (hg : Guards plan s.outputs) (hq : Quiet s.outputs s.devices)
    (hphase : s.phase ≠ .fresh) (hres : s.Reserving act) (h : s.operate plan act = some s') :
    Guards plan s'.outputs ∧ Quiet s'.outputs s'.devices ∧ s'.phase = s.phase := by
  cases act with
  | siteBind bank binding answers =>
    obtain rfl := Option.some.inj h
    exact ⟨hg.siteBind .., quiet_siteBind hq _ _ _ _, rfl⟩
  | sitePublish bank request =>
    obtain rfl := Option.some.inj h
    exact ⟨hg.sitePublish .., quiet_of_same hq (claimed_sitePublish _ _ _), rfl⟩
  | apply command answers =>
    obtain ⟨outcome, happly, rfl⟩ := Option.map_eq_some_iff.mp h
    exact ⟨hg.apply happly, quiet_apply hq happly, rfl⟩
  | selectChannel channel answers =>
    obtain rfl := Option.some.inj h
    obtain ⟨hclaimed, hp⟩ := s.outputs.selectChannel_spec channel s.devices answers
    exact ⟨hg.selectChannel .., hq.of_noNewPulses hclaimed hp, rfl⟩
  | configureRemoteRadio settings =>
    obtain rfl := Option.some.inj h
    exact ⟨hg.configureRemoteRadio settings,
      quiet_of_same hq (claimed_configureRemoteRadio _ settings), rfl⟩
  | serviceRemoteRadio logicalPtt answers =>
    obtain rfl := Option.some.inj h
    refine ⟨hg.serviceRemoteRadio .., hq.of_noNewPulses (fun bank => ?_)
      (noNewPulses_serviceRemoteRadio _ _ _ _), rfl⟩
    obtain ⟨parallel, dirty, ptt, heq, -⟩ :=
      s.outputs.serviceRemoteRadio_spec s.devices logicalPtt answers
    show (s.outputs.serviceRemoteRadio s.devices logicalPtt answers).outputs.claimed bank = _
    rw [heq]
    rfl
  | serviceClipLed clipEvents now answers =>
    obtain rfl := Option.some.inj h
    exact ⟨hg.serviceClipLed .., quiet_serviceClipLed hq hg.clipLed.claimed _ _ _, rfl⟩
  | setEncoder active =>
    obtain rfl := Option.some.inj h
    exact ⟨hg.setEncoder active, quiet_of_same hq (claimed_setEncoder active), rfl⟩
  | bindEncoder encoder answers =>
    obtain ⟨outcome, hbind, rfl⟩ := Option.map_eq_some_iff.mp h
    exact ⟨hg.withoutEncoder.bindEncoder hbind, (bindEncoder_spec hbind).2 hq, rfl⟩
  | restore state =>
    obtain rfl := Option.some.inj h
    refine ⟨hg.restore state (hres hphase), quiet_of_same hq fun bank => ?_, rfl⟩
    unfold claimed
    rw [(s.outputs.restore_spec state plan).1]
    rfl
  | observe bank value now =>
    obtain rfl := Option.some.inj h
    exact ⟨hg.setSite (sameClaims_observe ..).keeps,
      quiet_of_same hq (claimed_setSite_of_same (sameClaims_observe ..)), rfl⟩
  | submitted bank value =>
    obtain rfl := Option.some.inj h
    exact ⟨hg.setSite (sameClaims_submitted _).keeps,
      quiet_of_same hq (claimed_setSite_of_same (sameClaims_submitted _)), rfl⟩
  | serviced bank success =>
    obtain rfl := Option.some.inj h
    exact ⟨hg.setSite (sameClaims_serviced _).keeps,
      quiet_of_same hq (claimed_setSite_of_same (sameClaims_serviced _)), rfl⟩
  | retireSite | prepareSite _ _ | elsewhere => cases h

theorem OwnPins.prepare (h : OwnPins plan s) {devices : ServiceDevices} {answers : DeviceAnswers}
    (hres : s.Reserving (.prepareSite devices answers))
    (hstep : s.prepare plan devices answers = some s') : OwnPins plan s' := by
  unfold OutputRun.prepare at hstep
  split at hstep
  · rename_i hopen
    obtain ⟨⟨outcome, next⟩, hprepare, rfl⟩ := Option.map_eq_some_iff.mp hstep
    obtain ⟨hg, hconf, hex⟩ := prepareSite_spec h.confined h.exclusive hopen hres hprepare
    refine ⟨hconf, hex, quiet_prepareSite hopen hprepare, fun hphase => hg ?_, fun hphase => ?_⟩
    · cases hr : outcome.result with
      | ok _ => rfl
      | error e => simp [hr] at hphase
    · cases hr : outcome.result with
      | ok _ => simp [hr] at hphase
      | error e => simp [hr] at hphase
  · cases hstep

/-- What a step is. -/
inductive StepCase (plan : HardwarePlan) (s : OutputRun) (act : OutputAct) (s' : OutputRun) : Prop
  | elsewhere (next : Nat) : s' = { s with next } → act.drivesSite = false → StepCase plan s act s'
  | staged (state : HardwareTransientState) : s.phase = .fresh →
    s' = { s with outputs := s.outputs.restore state plan } → StepCase plan s act s'
  | prepare (devices : ServiceDevices) (answers : DeviceAnswers) :
    act = .prepareSite devices answers → s.prepare plan devices answers = some s' →
    StepCase plan s act s'
  | retire : s.phase ≠ .fresh → act = .retireSite →
    s' = { s with outputs := s.outputs.retireSite, phase := .retired } → StepCase plan s act s'
  | operate : s.phase = .owned ∨ s.phase = .retired → s.operate plan act = some s' →
    StepCase plan s act s'

theorem stepCase_of_step (h : s.step plan act = some s') : StepCase plan s act s' := by
  unfold OutputRun.step at h
  split at h
  · exact .elsewhere _ (Option.some.inj h).symm rfl
  · rename_i state hphase
    exact .staged state hphase (Option.some.inj h).symm
  · rename_i devices answers _
    exact .prepare devices answers rfl h
  · rename_i hphase
    exact .retire (by simp [hphase]) rfl (Option.some.inj h).symm
  · rename_i devices answers _
    exact .prepare devices answers rfl h
  · rename_i devices answers _
    exact .prepare devices answers rfl h
  · rename_i hphase
    exact .retire (by simp [hphase]) rfl (Option.some.inj h).symm
  · rename_i hphase
    exact .retire (by simp [hphase]) rfl (Option.some.inj h).symm
  · exact .operate (.inl ‹_›) h
  · exact .operate (.inr ‹_›) h
  · cases h

theorem OwnPins.step (h : OwnPins plan s) (hres : s.Reserving act)
    (hstep : s.step plan act = some s') : OwnPins plan s' := by
  cases stepCase_of_step hstep with
  | elsewhere next heq _ =>
    subst heq
    exact ⟨h.confined, h.exclusive, h.quiet, h.guards, h.fresh⟩
  | staged state hphase heq =>
    subst heq
    have hsite := (s.outputs.restore_spec state plan).1
    have hclaimed : ∀ bank, (s.outputs.restore state plan).claimed bank = s.outputs.claimed bank := by
      intro bank
      unfold claimed
      rw [hsite]
      rfl
    have hnone := fun bank => (hclaimed bank).trans (h.fresh hphase bank)
    refine ⟨⟨fun bank => ?_, fun bank => ?_⟩, exclusive_of_unclaimed hnone,
      quiet_of_unclaimed hnone _, fun hp => ?_, fun _ => hnone⟩
    · show Within ((s.outputs.restore state plan).site bank).snapshot.outputMask _
      rw [hsite]
      exact h.confined.outputs bank
    · show Within ((s.outputs.restore state plan).site bank).snapshot.claimedMask _
      rw [hsite]
      exact h.confined.claimed bank
    · rcases hp with hp | hp <;> exact absurd (hphase.symm.trans hp) (by simp)
  | prepare devices answers hact hprepare =>
    subst hact
    exact h.prepare hres hprepare
  | retire _ _ heq =>
    subst heq
    have hg := guards_retireSite h.confined h.exclusive
    exact ⟨hg.confined, hg.exclusive, quiet_of_same h.quiet claimed_retireSite, fun _ => hg,
      fun hp => by cases hp⟩
  | operate hphase hop =>
    have hnot : s.phase ≠ .fresh := by
      rcases hphase with hp | hp <;> simp [hp]
    obtain ⟨hg, hq, hsame⟩ := guards_operate (h.guards hphase) h.quiet hnot hres hop
    exact ⟨hg.confined, hg.exclusive, hq, fun _ => hg, fun hp => absurd (hsame.symm.trans hp) hnot⟩

theorem ownPins_inductive (plan : HardwarePlan) :
    (outputRuns plan).Inductive Reserving (OwnPins plan) where
  init := by
    rintro s ⟨next, remoteRadio, devices, rfl⟩
    exact ownPins_new next plan remoteRadio devices
  step _ _ _ h hres hstep := h.step hres hstep

theorem sameLevels_operate (h : Exclusive plan s.outputs) (hact : act.drivesSite = false)
    (hop : s.operate plan act = some s') : SameLevels s.outputs s'.outputs := by
  cases act with
  | siteBind _ _ _ => cases hact
  | sitePublish _ _ => cases hact
  | apply command answers =>
    obtain ⟨outcome, happly, rfl⟩ := Option.map_eq_some_iff.mp hop
    exact sameLevels_apply happly
  | selectChannel channel answers =>
    obtain rfl := Option.some.inj hop
    exact sameLevels_selectChannel _ _ _ _
  | configureRemoteRadio settings =>
    obtain rfl := Option.some.inj hop
    refine sameLevels_of_output fun bank => ?_
    show (s.outputs.configureRemoteRadio settings).1.output bank = _
    unfold OutputState.configureRemoteRadio
    split
    · exact output_setSite ..
    · rename_i site _
      exact @output_setSite s.outputs .parallel site bank
  | serviceRemoteRadio logicalPtt answers =>
    obtain rfl := Option.some.inj hop
    exact h.sameLevels_serviceRemoteRadio _ _ _
  | serviceClipLed clipEvents now answers =>
    obtain rfl := Option.some.inj hop
    refine sameLevels_of_output fun bank => ?_
    obtain ⟨seen, till, heq⟩ :=
      s.outputs.serviceClipLed_spec s.devices plan.clipLedMask clipEvents now answers
    show (s.outputs.serviceClipLed s.devices plan.clipLedMask clipEvents now answers).outputs.output
      bank = _
    rw [heq]
    cases bank <;> rfl
  | setEncoder active =>
    obtain rfl := Option.some.inj hop
    exact h.sameLevels_setEncoder active
  | bindEncoder encoder answers =>
    obtain ⟨outcome, hbind, rfl⟩ := Option.map_eq_some_iff.mp hop
    exact h.sameLevels_bindEncoder hbind
  | restore state =>
    obtain rfl := Option.some.inj hop
    exact sameLevels_restore _ _ _
  | observe _ _ _ | submitted _ _ | serviced _ _ =>
    obtain rfl := Option.some.inj hop
    exact sameLevels_of_output fun _ => output_setSite ..
  | retireSite | prepareSite _ _ | elsewhere => cases hop

theorem sameLevels_step (h : Exclusive plan s.outputs) (hact : act.drivesSite = false)
    (hstep : s.step plan act = some s') : SameLevels s.outputs s'.outputs := by
  cases stepCase_of_step hstep with
  | elsewhere next heq _ =>
    subst heq
    exact sameLevels_of_output fun _ => rfl
  | staged state _ heq =>
    subst heq
    exact sameLevels_restore _ _ _
  | prepare devices answers _ hprepare =>
    unfold OutputRun.prepare at hprepare
    split at hprepare
    · obtain ⟨⟨outcome, next⟩, hp, rfl⟩ := Option.map_eq_some_iff.mp hprepare
      exact h.sameLevels_prepareSite hp
    · cases hprepare
  | retire _ hretire _ =>
    subst hretire
    cases hact
  | operate _ hop => exact sameLevels_operate h hact hop

/-- **Pin exclusivity** in every run that keeps the reservations. -/
theorem ownPins_of_reachBy (h : (outputRuns plan).ReachBy Reserving s) :
    Exclusive plan s.outputs ∧ Quiet s.outputs s.devices ∧
      ∀ act s', s.step plan act = some s' → act.drivesSite = false →
        SameLevels s.outputs s'.outputs := by
  have hown := (ownPins_inductive plan).reachBy h
  exact ⟨hown.exclusive, hown.quiet, fun _ _ hstep hact => sameLevels_step hown.exclusive hact hstep⟩

/-! ## Runs on a parallel port -/

/-- A parallel port with eight outputs and PTT on the last one. -/
def portPlan : HardwarePlan := ⟨none, some ⟨0xff, 0, 0x80, 0, 0, 0⟩, false⟩

/-- A port, and no audio adapter. -/
def portDevices : ServiceDevices := ⟨none, some (.open 0 0), false⟩

/-- Every call succeeds. -/
def allOk : DeviceAnswers where
  capabilitiesCm119 := .ok ⟨0, 0xff⟩
  pulseCm119 := .ok ()
  publishCm119 := .ok ()
  serviceCm119 := .ok ()
  inputsCm119 := .ok ⟨true, false, false, 0⟩
  statisticsCm119 := .ok ⟨true, false⟩
  capabilitiesParallel := .ok ⟨0, 0xff⟩
  pulseParallel := .ok ()
  publishParallel := .ok ()
  serviceParallel := .ok ()
  inputsParallel := .ok ⟨true, 0⟩
  statisticsParallel := .ok ⟨true, 0⟩
  statisticsAgain := .ok ⟨true, 0⟩
  setBinaryChannel := .ok ()
  programRtx := .ok ()
  clearRtxTransmit := .ok ()
  closeParallel := .ok ()

/-- A fresh state of the port; its banks have the generations 1 and 2. -/
def portStart : OutputRun :=
  ⟨(OutputState.new 1 portPlan none).1, portDevices, (OutputState.new 1 portPlan none).2, .fresh⟩

theorem init_portStart : (outputRuns portPlan).init portStart := ⟨1, none, portDevices, rfl⟩

/-- A radio on 146 MHz. -/
def radio : RemoteRadio := ⟨146000000, 146000000, false⟩

/-- The state of a station with a remote radio. -/
def radioState : HardwareTransientState := (OutputState.new 1 portPlan (some radio)).1.snapshot

/-- The site claims a pin of the parallel port, high. -/
def claim (generation : Nat) (pin : U32) : OutputAct :=
  .siteBind .parallel ⟨generation, pin, pin, 0⟩ allOk

/-- A channel is selected, the site takes the lowest pin, and an ordinary command for it is refused:
the pin stays the site's, and high. -/
theorem ownPins_of_claim : ∃ s : OutputRun, s.outputs.claimed .parallel = 1 ∧
    s.outputs.channelSelected = true ∧ s.outputs.parallel = 0xa1 ∧
    Exclusive portPlan s.outputs ∧ Quiet s.outputs s.devices ∧
    ∀ act s', s.step portPlan act = some s' → act.drivesSite = false →
      SameLevels s.outputs s'.outputs := by
  obtain ⟨s, hrun, hclaimed, hchannel, hlevel⟩ : ∃ s, (outputRuns portPlan).run portStart
      [.prepareSite portDevices allOk, .selectChannel 5 allOk, claim 4 1,
        .apply ⟨.parallel, 1, .inactive⟩ allOk] = some s ∧
      s.outputs.claimed .parallel = 1 ∧ s.outputs.channelSelected = true ∧
      s.outputs.parallel = 0xa1 := ⟨_, rfl, rfl, rfl, rfl⟩
  have hmeets : (outputRuns portPlan).Meets Reserving portStart
      [.prepareSite portDevices allOk, .selectChannel 5 allOk, claim 4 1,
        .apply ⟨.parallel, 1, .inactive⟩ allOk] :=
    ⟨fun hc => (by cases hc), fun _ _ => ⟨trivial, fun _ _ => ⟨trivial, fun _ _ => ⟨trivial,
      fun _ _ => trivial⟩⟩⟩⟩
  exact ⟨s, hclaimed, hchannel, hlevel, ownPins_of_reachBy ⟨_, _, init_portStart, hmeets, hrun⟩⟩

/-- A site claims a control bit of a remote radio that was restored, and a bit of a selected channel
behind a recovery. -/
theorem not_exclusive_unreserved :
    (∃ s, (outputRuns portPlan).Reach s ∧ s.outputs.remoteRadio = some radio ∧
      ¬ Exclusive portPlan s.outputs) ∧
    ∃ s, (outputRuns portPlan).Reach s ∧ s.outputs.channelSelected = true ∧
      ¬ Exclusive portPlan s.outputs := by
  constructor
  · obtain ⟨s, hrun, hradio, hclaimed⟩ : ∃ s, (outputRuns portPlan).run portStart
        [.prepareSite portDevices allOk, .restore radioState, claim 4 1] = some s ∧
        s.outputs.remoteRadio = some radio ∧ s.outputs.claimed .parallel = 1 :=
      ⟨_, rfl, rfl, rfl⟩
    refine ⟨s, ⟨_, _, init_portStart, hrun⟩, hradio, fun h => ?_⟩
    have hbits := h.radio (by rw [hradio]; rfl)
    rw [hclaimed] at hbits
    exact absurd hbits (by decide)
  · obtain ⟨s, hrun, hchannel, hclaimed⟩ : ∃ s, (outputRuns portPlan).run portStart
        [.prepareSite portDevices allOk, .selectChannel 5 allOk, .retireSite,
          .prepareSite portDevices allOk, claim 6 0x10] = some s ∧
        s.outputs.channelSelected = true ∧ s.outputs.claimed .parallel = 0x10 :=
      ⟨_, rfl, rfl, rfl⟩
    refine ⟨s, ⟨_, _, init_portStart, hrun⟩, hchannel, fun h => ?_⟩
    have hbits := h.channel hchannel
    rw [hclaimed] at hbits
    exact absurd hbits (by decide)

end OutputRun
end Driver
end UsbRadioPlus
