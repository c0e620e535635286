import UsbRadioPlus.Driver.PinExclusivity
import UsbRadioPlus.Driver.SafeHandover

/-!
# Safe levels across hand-over

In the order of the service worker, what a bank remembers as safe-high is high, and behind a
retirement every safe level is (`SafeRun`). The worker prepares the banks at the start, behind a
retirement, or before any claim; commands come while it owns its devices; and the remote radio is
serviced once the banks have been prepared.

A retirement and a hand-over by `snapshot` and `restore` then leave the claimed pins at their safe
levels and the other pins as they were (`HandsOver`), but for the pins of the radio: the retirement
deasserts the encoder, and the hand-over the PTT.

A restored remote radio has to find its control bits reserved, as in `PinExclusivity`.
-/

namespace UsbRadioPlus
namespace Driver

open Sys Sys.Mask SiteBankState

namespace OutputState

variable {s s' : OutputState} {plan : HardwarePlan} {bank : SiteBank} {devices : ServiceDevices}
  {answers : DeviceAnswers}

/-! ## Restored state -/

theorem getLsbD_setWidth8 {m : U32} {i : Nat} (hlt : i < 8) :
    (m.setWidth 8).getLsbD i = m.getLsbD i := by
  simp [hlt]

/-- The level of a pin that a restore takes from the state. -/
theorem getLsbD_restore_of_unclaimed {state : HardwareTransientState} {i : Nat}
    (hout : (plan.outputEnableMask bank).getLsbD i = true)
    (hclaimed : (s.claimed bank).getLsbD i = false) :
    ((s.restore state plan).output bank).getLsbD i = ((state.outputMask bank).getLsbD i &&
      !(bank == .parallel && plan.pttMask.getLsbD i)) := by
  have hlt : i < 8 := BitVec.lt_of_getLsbD hout
  have hpreserved : ((s.claimed bank).setWidth 8).getLsbD i = false := by
    rw [getLsbD_setWidth8 hlt, hclaimed]
  cases bank with
  | cm119 =>
    have hbyte : (s.restore state plan).output .cm119 =
        (s.cm119 &&& ~~~(plan.outputEnableMask .cm119 &&& ~~~(s.claimed .cm119).setWidth 8)) |||
          (state.outputMask .cm119 &&&
            (plan.outputEnableMask .cm119 &&& ~~~(s.claimed .cm119).setWidth 8)) := by
      unfold OutputState.restore
      simp only
      split
      · rfl
      · split <;> rfl
    rw [hbyte]
    simp only [BitVec.getLsbD_or, BitVec.getLsbD_and, BitVec.getLsbD_not, hout, hpreserved, hlt]
    simp
  | parallel =>
    cases hplan : plan.parallel with
    | none =>
      unfold HardwarePlan.outputEnableMask at hout
      rw [hplan] at hout
      simp at hout
    | some parallel =>
      have hbyte : (s.restore state plan).output .parallel =
          (s.parallel &&& (s.claimed .parallel).setWidth 8) |||
            (state.outputMask .parallel &&& ~~~parallel.pttMask &&&
              ~~~(s.claimed .parallel).setWidth 8) := by
        unfold OutputState.restore
        simp only
        split
        · next hnone => exact absurd (hplan.symm.trans hnone) (by simp)
        · next parallel' hsome =>
          obtain rfl := Option.some.inj (hplan.symm.trans hsome)
          split <;> rfl
      have hptt : plan.pttMask = parallel.pttMask := by
        unfold HardwarePlan.pttMask
        rw [hplan]
        rfl
      rw [hbyte, hptt]
      simp only [BitVec.getLsbD_or, BitVec.getLsbD_and, BitVec.getLsbD_not, hpreserved, hlt]
      simp

theorem safe_restore (h : Safe plan s bank)
    (hptt : (s.site .parallel).Spared (plan.pttMask.setWidth 32))
    (state : HardwareTransientState) : Safe plan (s.restore state plan) bank := by
  obtain ⟨hsite, -⟩ := s.restore_spec state plan
  refine ⟨?_, ?_, ?_, ?_, fun i hi hc => ?_⟩ <;> rw [hsite] at *
  · exact h.outputs
  · exact h.claimed
  · refine within_iff.mpr fun i hi => ?_
    obtain hi | hi := Bool.or_eq_true_iff.mp (BitVec.getLsbD_or ▸ hi)
    · exact within_iff.mp h.safe i (within_iff.mp within_and_left i hi)
    · exact within_iff.mp ((within_and_left.trans within_and_left).trans within_and_right) i hi
  · exact (apart_or (h.free.mono_left within_and_left).symm
      (((apart_clear _ _).mono_left within_and_left).symm)).symm
  · -- what is remembered comes from the state, and the state has it high
    have hretained : ((state.siteSafeHigh bank).setWidth 32 &&&
        (s.site bank).snapshot.outputMask &&& ~~~(s.site bank).snapshot.reservedMask).getLsbD i =
        true := by
      have hc' : (s.site bank).snapshot.claimedMask.getLsbD i = false := hc
      simp only [restoreSafeHigh, BitVec.getLsbD_or, BitVec.getLsbD_and, hc', Bool.and_false,
        Bool.false_or, Bool.and_eq_true] at hi ⊢
      exact hi.1
    have hboth := within_iff.mp within_and_left i hretained
    have hout : (s.site bank).snapshot.outputMask.getLsbD i = true :=
      within_iff.mp within_and_right i hboth
    have hhigh : (state.siteSafeHigh bank).getLsbD i = true := by
      have hw := within_iff.mp within_and_left i hboth
      rw [BitVec.getLsbD_setWidth, Bool.and_eq_true] at hw
      exact hw.2
    have henabled := within_iff.mp h.outputs i hout
    rw [BitVec.getLsbD_setWidth, Bool.and_eq_true] at henabled
    rw [getLsbD_restore_of_unclaimed henabled.2 hc, within_iff.mp (state.safe_within bank) i hhigh,
      Bool.true_and, Bool.not_eq_true']
    cases bank with
    | cm119 => rfl
    | parallel =>
      have hspared := getLsbD_of_apart (retained_apart hptt.reserved (state.siteSafeHigh .parallel))
        hretained
      rw [show (SiteBank.parallel == SiteBank.parallel) = true from rfl, Bool.true_and, hspared]

/-! ## The encoder and the radio of a step -/

/-- The step leaves the encoder and the remote radio alone. -/
structure SameRadio (s s' : OutputState) : Prop where
  encoder : s'.encoder = s.encoder
  radio : s'.remoteRadio = s.remoteRadio

theorem SameRadio.refl (s : OutputState) : SameRadio s s := ⟨rfl, rfl⟩

theorem sameRadio_setSite (bank : SiteBank) (site : SiteBankState) :
    SameRadio s (s.setSite bank site) := ⟨rfl, rfl⟩

theorem SameRadio.setOutput (h : SameRadio s s') (bank : SiteBank) (value : U8) :
    SameRadio s (s'.setOutput bank value) :=
  ⟨(encoder_setOutput value).trans h.encoder, (remoteRadio_setOutput value).trans h.radio⟩

theorem sameRadio_setEncoder (active : Bool) : SameRadio s (s.setEncoder active) :=
  ⟨encoder_setEncoder active, remoteRadio_setEncoder active⟩

theorem sameRadio_siteBind (next : Nat) (binding : SiteDigitalBinding) :
    SameRadio s (s.siteBind next bank binding devices answers).1.outputs := by
  unfold OutputState.siteBind
  simp only
  split
  · exact sameRadio_setSite ..
  · split
    · exact sameRadio_setSite ..
    · split
      · exact sameRadio_setSite ..
      · exact (sameRadio_setSite ..).setOutput ..

theorem sameRadio_sitePublish (request : SiteDigitalRequest) :
    SameRadio s (s.sitePublish bank request) := by
  unfold OutputState.sitePublish
  simp only
  split
  · exact sameRadio_setSite ..
  · exact (sameRadio_setSite ..).setOutput ..

theorem sameRadio_apply {command : OutputCommand} {outcome : Outcome}
    (happly : s.apply command devices answers = some outcome) : SameRadio s outcome.outputs := by
  unfold OutputState.apply at happly
  simp only at happly
  split at happly
  · obtain rfl := Option.some.inj happly
    exact .refl s
  · split at happly
    · obtain rfl := Option.some.inj happly
      exact sameRadio_setSite ..
    · split at happly
      · obtain rfl := Option.some.inj happly
        exact .refl s
      · cases happly
      · split at happly
        · obtain rfl := Option.some.inj happly
          exact .refl s
        · obtain rfl := Option.some.inj happly
          exact ⟨encoder_setOutput _, remoteRadio_setOutput _⟩

theorem sameRadio_selectChannel (channel : U8) :
    SameRadio s (s.selectChannel channel devices answers).outputs := by
  unfold OutputState.selectChannel
  split
  · exact sameRadio_setSite ..
  · simp only
    split
    · exact sameRadio_setSite ..
    · split
      · exact sameRadio_setSite ..
      · exact ⟨rfl, rfl⟩

theorem sameRadio_serviceRemoteRadio (logicalPtt : Bool) :
    SameRadio s (s.serviceRemoteRadio devices logicalPtt answers).outputs := by
  obtain ⟨parallel, dirty, ptt, heq, -⟩ := s.serviceRemoteRadio_spec devices logicalPtt answers
  rw [heq]
  exact ⟨rfl, rfl⟩

theorem sameRadio_retireSite (s : OutputState) : SameRadio s s.retireSite := by
  unfold retireSite retireBank
  have hset := sameRadio_setEncoder (s := s) false
  exact ⟨(encoder_setOutput _).trans ((encoder_setOutput _).trans hset.encoder),
    (remoteRadio_setOutput _).trans ((remoteRadio_setOutput _).trans hset.radio)⟩

/-! ## The operations -/

/-- The pins of the remote radio are remembered nowhere. -/
def RadioApart (s : OutputState) : Prop :=
  s.remoteRadio.isSome = true →
    Apart (s.site .parallel).safeHighMask (parallelRtxControlMask.setWidth 32)

theorem Held.of_settles (h : Held plan s) (hset : Settles plan s s')
    (hencoder : s'.encoder = s.encoder)
    (hradio : s'.remoteRadio.isSome = true →
      (s'.site .parallel).Spared (parallelRtxControlMask.setWidth 32)) : Held plan s' := by
  have hspared : ∀ e, s'.encoder = some e → (s'.site e.bank).Spared (e.mask.setWidth 32) :=
    fun e he => hset.spared _ _ (h.encoderSpared e (hencoder.symm.trans he))
  exact ⟨⟨fun bank => hset.safe bank (h.safe bank), hset.spared _ _ h.ptt,
    fun e he => (hspared e he).safe⟩, hspared, hradio⟩

theorem Held.of_same (h : Held plan s) (hset : Settles plan s s') (hsame : SameRadio s s') :
    Held plan s' :=
  h.of_settles hset hsame.encoder fun hr =>
    hset.spared _ _ (h.radio (by rwa [hsame.radio] at hr))

theorem Held.radioApart (h : Held plan s) : RadioApart s := fun hr => (h.radio hr).safe

theorem configureRemoteRadio_cases (s : OutputState) (settings : RemoteRadio) :
    ∃ site ok, (s.site .parallel).reserve (parallelRtxControlMask.setWidth 32) = (site, ok) ∧
      (s.configureRemoteRadio settings).1 = if ok then { s.setSite .parallel site with
        remoteRadio := some settings, remoteRadioDirty := true } else s.setSite .parallel site := by
  unfold OutputState.configureRemoteRadio
  split <;> next site hres => exact ⟨site, _, hres, rfl⟩

/-- A new radio reserves its control bits. -/
theorem Held.configureRemoteRadio (h : Held plan s) (settings : RemoteRadio) :
    Held plan (s.configureRemoteRadio settings).1 := by
  have hset : Settles plan s (s.configureRemoteRadio settings).1 :=
    (frames_configureRemoteRadio settings).settles
  obtain ⟨site, ok, hres, heq⟩ := s.configureRemoteRadio_cases settings
  rw [heq] at hset ⊢
  cases ok with
  | false => exact h.of_same hset ⟨rfl, rfl⟩
  | true =>
    refine h.of_settles hset rfl fun _ => ?_
    show ((s.setSite .parallel site).site .parallel).Spared _
    rw [site_setSite]
    exact spared_reserve hres

theorem Held.restore (h : Held plan s) (state : HardwareTransientState)
    (hradio : state.remoteRadio.isSome = true →
      Apart (s.claimed .parallel) (parallelRtxControlMask.setWidth 32) →
      Within (parallelRtxControlMask.setWidth 32 &&& (s.site .parallel).snapshot.outputMask)
        (s.site .parallel).snapshot.reservedMask) : Held plan (s.restore state plan) := by
  obtain ⟨hsite, hencoder, -, hr⟩ := s.restore_spec state plan
  have hspared : ∀ bank m, (s.site bank).Spared m → ((s.restore state plan).site bank).Spared m :=
    fun bank m hm => by
      rw [hsite]
      exact hm.restoreSafeHigh _
  refine h.of_settles ⟨fun bank hb => safe_restore hb h.ptt state, hspared⟩ hencoder fun hsome => ?_
  obtain hr | ⟨hr, hfree⟩ := hr
  · rw [hr] at hsome
    exact hspared _ _ (h.radio hsome)
  · rw [hr] at hsome
    rw [hsite]
    -- a free control bit that is reserved is not taken from the state
    refine ⟨hfree, hradio hsome hfree, ?_⟩
    have hold : Apart ((s.site .parallel).safeHighMask &&& (s.site .parallel).snapshot.claimedMask)
        (parallelRtxControlMask.setWidth 32) := Apart.mono_left hfree within_and_right
    have hnew := (retained_apart (hradio hsome hfree) (state.siteSafeHigh .parallel)).mono_left
      (within_and_left (y := ~~~(s.site .parallel).snapshot.claimedMask))
    exact (apart_or hold.symm hnew.symm).symm

/-- A restore into a state that claims nothing and has no encoder. -/
theorem Kept.restore (h : Kept plan s) (hencoder : s.encoder = none)
    (state : HardwareTransientState) : Kept plan (s.restore state plan) := by
  obtain ⟨hsite, he, -⟩ := s.restore_spec state plan
  refine ⟨fun bank => safe_restore (h.safe bank) h.ptt state, ?_, fun e hsome => ?_⟩
  · rw [hsite]
    exact h.ptt.restoreSafeHigh _
  · rw [he, hencoder] at hsome
    cases hsome

theorem kept_new (next : Nat) (plan : HardwarePlan) (remoteRadio : Option RemoteRadio) :
    Kept plan (OutputState.new next plan remoteRadio).1 := by
  refine ⟨fun bank => ?_, ⟨apart_zero, within_and_left, apart_zero⟩, fun e he => by cases he⟩
  cases bank <;>
    exact ⟨within_refl, within_zero, within_zero, apart_zero, fun i hi _ => by
      simp [OutputState.new, SiteBankState.new] at hi⟩

/-! ## Retired banks -/

theorem Kept.of_frames (h : Kept plan s) (hf : Frames s s') (hsame : SameRadio s s') :
    Kept plan s' :=
  have hset : Settles plan s s' := hf.settles
  ⟨fun bank => hset.safe bank (h.safe bank), hset.spared _ _ h.ptt, fun e he =>
    (h.encoder e (hsame.encoder.symm.trans he)).mono_left (hf.narrows e.bank).safe⟩

theorem RadioApart.narrow (h : RadioApart s) (hradio : s'.remoteRadio = s.remoteRadio)
    (hw : Within (s'.site .parallel).safeHighMask (s.site .parallel).safeHighMask) :
    RadioApart s' := fun hr => (h (by rwa [hradio] at hr)).mono_left hw

theorem Kept.retireSite (h : Kept plan s) : Kept plan s.retireSite :=
  ⟨safe_retireSite h.safe, h.ptt.of_narrows (narrows_retireSite .parallel), fun e he =>
    (h.encoder e ((sameRadio_retireSite s).encoder.symm.trans he)).mono_left
      (narrows_retireSite e.bank).safe⟩

/-- Without claims, what is remembered is all there is. -/
theorem Kept.allHigh (h : Kept plan s) (hclaimed : ∀ bank, s.claimed bank = 0) : AllHigh s :=
  fun bank i hi => (h.safe bank).high i hi (by
    rw [show (s.site bank).snapshot.claimedMask = 0 from hclaimed bank]
    simp)

end OutputState

/-! ## The worker's order -/

/-- A run of the output state, and whether its banks have been prepared before. -/
structure WorkerRun where
  run : OutputRun
  prepared : Bool

namespace WorkerRun

variable (s : WorkerRun)

/-- The worker performs the operation in this state. -/
def admits : OutputAct → Bool
  | .prepareSite .. => s.run.phase != .owned ||
      s.run.outputs.claimed .cm119 == 0 && s.run.outputs.claimed .parallel == 0
  | .restore _ => s.run.phase != .retired
  | .siteBind .. | .sitePublish .. | .apply .. | .selectChannel .. | .configureRemoteRadio _
  | .serviceClipLed .. | .bindEncoder .. => s.run.phase == .owned
  | .serviceRemoteRadio .. => s.run.phase == .owned || s.prepared
  | .setEncoder _ | .retireSite | .observe .. | .submitted .. | .serviced .. | .elsewhere => true

/-- A step that the worker admits. -/
def step (plan : HardwarePlan) (act : OutputAct) : Option WorkerRun :=
  if s.admits act then
    (s.run.step plan act).map fun run => ⟨run, s.prepared || run.phase == .owned⟩
  else none

end WorkerRun

/-- The runs of the output state in the order of the worker. -/
def workerRuns (plan : HardwarePlan) : System WorkerRun OutputAct where
  init s := (outputRuns plan).init s.run ∧ s.prepared = false
  step s := s.step plan

namespace WorkerRun

open OutputState

variable {s s' : WorkerRun} {plan : HardwarePlan} {act : OutputAct}

/-- A remote radio is restored where its control bits are reserved. -/
def RadioReserved (s : WorkerRun) : OutputAct → Prop
  | .restore state => s.run.phase ≠ .fresh → state.remoteRadio.isSome = true →
    Apart (s.run.outputs.claimed .parallel) (parallelRtxControlMask.setWidth 32) →
    Within (parallelRtxControlMask.setWidth 32 &&&
      (s.run.outputs.site .parallel).snapshot.outputMask)
      (s.run.outputs.site .parallel).snapshot.reservedMask
  | _ => True

/-- What every step keeps. -/
structure SafeRun (plan : HardwarePlan) (s : WorkerRun) : Prop where
  kept : Kept plan s.run.outputs
  fresh : s.run.phase = .fresh → s.prepared = false ∧ s.run.outputs.encoder = none ∧
    ∀ bank, s.run.outputs.claimed bank = 0
  held : s.run.phase = .owned → Held plan s.run.outputs
  high : s.run.phase = .broken ∨ s.run.phase = .retired → AllHigh s.run.outputs
  radio : s.prepared = true → RadioApart s.run.outputs

/-- A step that serves no claim. -/
theorem SafeRun.of_frames (h : SafeRun plan s) {run : OutputRun}
    (hphase : run.phase = s.run.phase) (hretired : s.run.phase = .retired)
    (hf : Frames s.run.outputs run.outputs) (hsame : SameRadio s.run.outputs run.outputs) :
    SafeRun plan ⟨run, s.prepared || run.phase == .owned⟩ where
  kept := h.kept.of_frames hf hsame
  fresh hfresh := by rw [show run.phase = .retired from hphase.trans hretired] at hfresh; cases hfresh
  held howned := by rw [show run.phase = .retired from hphase.trans hretired] at howned; cases howned
  high _ := hf.allHigh (h.high (.inr hretired))
  radio hp := by
    rw [hphase, hretired] at hp
    exact (h.radio (by simpa using hp)).narrow hsame.radio (hf.narrows .parallel).safe

theorem SafeRun.of_held {run : OutputRun} (hphase : run.phase = .owned)
    (h : Held plan run.outputs) (prepared : Bool) :
    SafeRun plan ⟨run, prepared⟩ where
  kept := h.toKept
  fresh hfresh := by rw [hphase] at hfresh; cases hfresh
  held _ := h
  high hother := by rw [hphase] at hother; rcases hother with h | h <;> cases h
  radio _ := h.radioApart

/-- Operations of a prepared owner. -/
theorem held_operate {run run' : OutputRun} (h : Held plan run.outputs)
    (hradio : ∀ prepared, RadioReserved ⟨run, prepared⟩ act) (hphase : run.phase ≠ .fresh)
    (hop : run.operate plan act = some run') :
    Held plan run'.outputs ∧ run'.phase = run.phase := by
  cases act with
  | siteBind bank binding answers =>
    obtain rfl := Option.some.inj hop
    exact ⟨h.of_same (settles_siteBind ..) (sameRadio_siteBind ..), rfl⟩
  | sitePublish bank request =>
    obtain rfl := Option.some.inj hop
    exact ⟨h.of_same (settles_sitePublish ..) (sameRadio_sitePublish ..), rfl⟩
  | apply command answers =>
    obtain ⟨outcome, happly, rfl⟩ := Option.map_eq_some_iff.mp hop
    exact ⟨h.of_same (settles_apply happly) (sameRadio_apply happly), rfl⟩
  | selectChannel channel answers =>
    obtain rfl := Option.some.inj hop
    exact ⟨h.of_same (frames_selectChannel channel).settles (sameRadio_selectChannel channel), rfl⟩
  | configureRemoteRadio settings =>
    obtain rfl := Option.some.inj hop
    exact ⟨h.configureRemoteRadio settings, rfl⟩
  | serviceRemoteRadio logicalPtt answers =>
    obtain rfl := Option.some.inj hop
    exact ⟨h.of_same (frames_serviceRemoteRadio logicalPtt h.radioApart).settles
      (sameRadio_serviceRemoteRadio logicalPtt), rfl⟩
  | serviceClipLed clipEvents now answers =>
    obtain rfl := Option.some.inj hop
    refine ⟨?_, rfl⟩
    obtain ⟨seen, till, heq⟩ :=
      run.outputs.serviceClipLed_spec run.devices plan.clipLedMask clipEvents now answers
    show Held plan (run.outputs.serviceClipLed run.devices plan.clipLedMask clipEvents now
      answers).outputs
    rw [heq]
    refine h.of_same (settles_of_narrows (fun _ => .refl _) fun bank _ _ _ => ?_) ⟨rfl, rfl⟩
    cases bank <;> rfl
  | setEncoder active =>
    obtain rfl := Option.some.inj hop
    exact ⟨h.of_same (frames_setEncoder h.encoder active).settles (sameRadio_setEncoder active),
      rfl⟩
  | bindEncoder encoder answers =>
    obtain ⟨outcome, hbind, rfl⟩ := Option.map_eq_some_iff.mp hop
    exact ⟨h.toKept.bindEncoder h.radio hbind, rfl⟩
  | restore state =>
    obtain rfl := Option.some.inj hop
    exact ⟨h.restore state (hradio true hphase), rfl⟩
  | observe bank value now =>
    obtain rfl := Option.some.inj hop
    exact ⟨h.of_same (settles_setSite (narrows_observe ..)) (sameRadio_setSite ..), rfl⟩
  | submitted bank value =>
    obtain rfl := Option.some.inj hop
    exact ⟨h.of_same (settles_setSite (narrows_submitted _)) (sameRadio_setSite ..), rfl⟩
  | serviced bank success =>
    obtain rfl := Option.some.inj hop
    exact ⟨h.of_same (settles_setSite (narrows_serviced _)) (sameRadio_setSite ..), rfl⟩
  | retireSite | prepareSite _ _ | elsewhere => cases hop

/-- What the worker still does with retired banks. -/
theorem frames_operate {run' : OutputRun} (h : SafeRun plan s) (hretired : s.run.phase = .retired)
    (hadmits : s.admits act = true) (hop : s.run.operate plan act = some run') :
    Frames s.run.outputs run'.outputs ∧ SameRadio s.run.outputs run'.outputs ∧
      run'.phase = s.run.phase := by
  have hnot : (s.run.phase == Phase.owned) = false := by rw [hretired]; rfl
  cases act with
  | serviceRemoteRadio logicalPtt answers =>
    obtain rfl := Option.some.inj hop
    have hprepared : s.prepared = true := by
      simpa [admits, hnot] using hadmits
    exact ⟨frames_serviceRemoteRadio logicalPtt (h.radio hprepared),
      sameRadio_serviceRemoteRadio logicalPtt, rfl⟩
  | setEncoder active =>
    obtain rfl := Option.some.inj hop
    exact ⟨frames_setEncoder h.kept.encoder active, sameRadio_setEncoder active, rfl⟩
  | observe bank value now =>
    obtain rfl := Option.some.inj hop
    exact ⟨frames_setSite (narrows_observe ..), sameRadio_setSite .., rfl⟩
  | submitted bank value =>
    obtain rfl := Option.some.inj hop
    exact ⟨frames_setSite (narrows_submitted _), sameRadio_setSite .., rfl⟩
  | serviced bank success =>
    obtain rfl := Option.some.inj hop
    exact ⟨frames_setSite (narrows_serviced _), sameRadio_setSite .., rfl⟩
  | siteBind _ _ _ | sitePublish _ _ | apply _ _ | selectChannel _ _ | configureRemoteRadio _
  | serviceClipLed _ _ _ | bindEncoder _ _ => simp [admits, hnot] at hadmits
  | restore _ => simp [admits, hretired] at hadmits
  | retireSite | prepareSite _ _ | elsewhere => cases hop

theorem SafeRun.prepare (h : SafeRun plan s) {devices : ServiceDevices} {answers : DeviceAnswers}
    (hadmits : s.admits (.prepareSite devices answers) = true)
    (hbroken : s.run.phase ≠ .broken) {run : OutputRun}
    (hprepare : s.run.prepare plan devices answers = some run) :
    SafeRun plan ⟨run, s.prepared || run.phase == .owned⟩ := by
  have hall : AllHigh s.run.outputs := by
    cases hphase : s.run.phase with
    | fresh => exact h.kept.allHigh (h.fresh hphase).2.2
    | broken => exact absurd hphase hbroken
    | retired => exact h.high (.inr hphase)
    | owned =>
      refine h.kept.allHigh fun bank => ?_
      simp [admits, hphase] at hadmits
      cases bank
      · exact hadmits.1
      · exact hadmits.2
  unfold OutputRun.prepare at hprepare
  split at hprepare
  · next hopen =>
    obtain ⟨⟨outcome, next⟩, hsite, rfl⟩ := Option.map_eq_some_iff.mp hprepare
    obtain ⟨hkept, hhigh, hradio, hwithin, hheld⟩ := prepareSite_kept h.kept hall hopen hsite
    cases hr : outcome.result with
    | ok _ => exact .of_held (by simp [hr]) (hheld hr) _
    | error e =>
      refine ⟨hkept, fun hp => ?_, fun hp => ?_, fun _ => hhigh, fun hp => ?_⟩
      · simp [hr] at hp
      · simp [hr] at hp
      · exact (h.radio (by simpa [hr] using hp)).narrow hradio hwithin
  · cases hprepare

theorem SafeRun.retire (h : SafeRun plan s) :
    SafeRun plan ⟨{ s.run with outputs := s.run.outputs.retireSite, phase := .retired },
      s.prepared || Phase.retired == .owned⟩ where
  kept := h.kept.retireSite
  fresh hphase := by cases hphase
  held hphase := by cases hphase
  high _ := allHigh_retireSite h.kept.safe
  radio hp := (h.radio (by simpa using hp)).narrow (sameRadio_retireSite _).radio
    (narrows_retireSite .parallel).safe

theorem SafeRun.step (h : SafeRun plan s) (hradio : RadioReserved s act)
    (hstep : s.step plan act = some s') : SafeRun plan s' := by
  unfold WorkerRun.step at hstep
  split at hstep
  · next hadmits =>
    obtain ⟨run, hrun, rfl⟩ := Option.map_eq_some_iff.mp hstep
    cases OutputRun.stepCase_of_step hrun with
    | elsewhere next heq _ =>
      subst heq
      refine ⟨h.kept, fun hp => ⟨?_, (h.fresh hp).2⟩, h.held, h.high, fun hp => ?_⟩
      · simp [(h.fresh hp).1, show s.run.phase = .fresh from hp]
      · obtain hp | hp := Bool.or_eq_true_iff.mp hp
        · exact h.radio hp
        · exact (h.held (by simpa using hp)).radioApart
    | staged state hphase heq =>
      subst heq
      obtain ⟨hprepared, hencoder, hclaimed⟩ := h.fresh hphase
      obtain ⟨hsite, he, -⟩ := s.run.outputs.restore_spec state plan
      refine ⟨h.kept.restore hencoder state, fun _ => ⟨?_, he.trans hencoder, fun bank => ?_⟩,
        fun hp => ?_, fun hp => ?_, fun hp => ?_⟩
      · simp [hprepared, hphase]
      · unfold claimed
        rw [hsite]
        exact hclaimed bank
      · exact absurd (hphase.symm.trans hp) (by simp)
      · rw [show s.run.phase = Phase.fresh from hphase] at hp
        rcases hp with hp | hp <;> cases hp
      · simp [hprepared, hphase] at hp
    | prepare devices answers hact hprepare =>
      subst hact
      refine h.prepare hadmits (fun hbroken => ?_) hprepare
      unfold OutputRun.step at hrun
      rw [hbroken] at hrun
      cases hrun
    | retire _ _ heq =>
      subst heq
      exact h.retire
    | operate hphase hop =>
      rcases hphase with hphase | hphase
      · obtain ⟨hheld, hsame⟩ := held_operate (h.held hphase) (fun _ => hradio)
          (by simp [hphase]) hop
        exact .of_held (hsame.trans hphase) hheld _
      · obtain ⟨hf, hsame, hp⟩ := frames_operate h hphase hadmits hop
        exact h.of_frames hp hphase hf hsame
  · cases hstep

theorem safeRun_inductive (plan : HardwarePlan) :
    (workerRuns plan).Inductive RadioReserved (SafeRun plan) where
  init s hs := by
    obtain ⟨⟨next, remoteRadio, devices, hrun⟩, hprepared⟩ := hs
    obtain ⟨run, prepared⟩ := s
    subst hrun hprepared
    refine ⟨kept_new next plan remoteRadio, fun _ => ⟨rfl, rfl, fun bank => ?_⟩, fun hp => ?_,
      fun hp => ?_, fun hp => ?_⟩
    · cases bank <;> rfl
    · cases hp
    · rcases hp with hp | hp <;> cases hp
    · cases hp
  step _ _ _ h hC hstep := h.step hC hstep

end WorkerRun

/-! ## Hand-over -/

namespace OutputState

variable {s : OutputState} {plan : HardwarePlan} {bank : SiteBank}

/-- The levels that a retirement leaves. The encoder is deasserted. -/
structure RetiresSafely (s : OutputState) : Prop where
  claimed : ∀ bank i, (s.claimed bank).getLsbD i = true →
    (s.retireSite.output bank).getLsbD i = (s.site bank).safeHighMask.getLsbD i
  others : ∀ bank i, (s.claimed bank).getLsbD i = false → FreeOf s.encoder bank i →
    (s.retireSite.output bank).getLsbD i = (s.output bank).getLsbD i
  encoder : ∀ e i, s.encoder = some e → e.mask.getLsbD i = true →
    (s.claimed e.bank).getLsbD i = false → (s.retireSite.output e.bank).getLsbD i = e.inverted

/-- The levels of a new state that takes a snapshot over. The PTT is deasserted. -/
structure HandsOver (plan : HardwarePlan) (s fresh : OutputState) : Prop where
  claimed : ∀ bank i, (s.claimed bank).getLsbD i = true →
    ((fresh.restore s.snapshot plan).output bank).getLsbD i =
      (s.site bank).safeHighMask.getLsbD i
  others : ∀ bank i, (s.claimed bank).getLsbD i = false →
    (plan.outputEnableMask bank).getLsbD i = true →
    (bank = .parallel → plan.pttMask.getLsbD i = false) →
    ((fresh.restore s.snapshot plan).output bank).getLsbD i = (s.output bank).getLsbD i
  ptt : ∀ i, plan.pttMask.getLsbD i = true →
    (plan.outputEnableMask .parallel).getLsbD i = true →
    ((fresh.restore s.snapshot plan).output .parallel).getLsbD i = false

theorem Safe.lt_of_claimed (h : Safe plan s bank) {i : Nat}
    (hi : (s.claimed bank).getLsbD i = true) : i < 8 :=
  h.lt (within_iff.mp h.claimed i hi)

/-- A retired byte: the claimed pins are at their safe levels, and the others as they were. -/
theorem Safe.getLsbD_retiredOutput (h : Safe plan s bank) (output : U8) {i : Nat} (hlt : i < 8)
    (hsame : (s.claimed bank).getLsbD i = false →
      output.getLsbD i = false → (s.output bank).getLsbD i = false) :
    ((s.site bank).retiredOutput output).getLsbD i =
      if (s.claimed bank).getLsbD i then (s.site bank).safeHighMask.getLsbD i
      else output.getLsbD i := by
  rw [OutputState.getLsbD_retiredOutput hlt]
  cases hc : (s.claimed bank).getLsbD i with
  | true => simp [show (s.site bank).snapshot.claimedMask.getLsbD i = true from hc]
  | false =>
    rw [show (s.site bank).snapshot.claimedMask.getLsbD i = false from hc]
    cases ho : output.getLsbD i with
    | true => simp
    | false =>
      have hlow := hsame hc ho
      cases hsafe : (s.site bank).safeHighMask.getLsbD i with
      | false => simp
      | true => exact absurd ((h.high i hsafe hc).symm.trans hlow) (by simp)

theorem getLsbD_setEncoder_false {e : ExternalEncoder} (he : s.encoder = some e) {i : Nat}
    (hi : e.mask.getLsbD i = true) :
    ((s.setEncoder false).output e.bank).getLsbD i = e.inverted := by
  have hlt : i < 8 := BitVec.lt_of_getLsbD hi
  unfold setEncoder
  rw [he]
  simp only
  rw [output_setOutput]
  cases hinv : e.inverted <;> simp [hi, hlt]

theorem Kept.retiresSafely (h : Kept plan s) : RetiresSafely s where
  claimed bank i hi := by
    have hlt := (h.safe bank).lt_of_claimed hi
    rw [output_retireSite, getLsbD_retiredOutput hlt,
      show (s.site bank).snapshot.claimedMask.getLsbD i = true from hi]
    simp
  others bank i hi hfree := by
    by_cases hlt : i < 8
    · rw [output_retireSite, (h.safe bank).getLsbD_retiredOutput _ hlt fun _ ho => by
        rwa [getLsbD_setEncoder hfree] at ho, hi]
      exact getLsbD_setEncoder hfree false
    · rw [BitVec.getLsbD_of_ge _ _ (Nat.le_of_not_lt hlt),
        BitVec.getLsbD_of_ge _ _ (Nat.le_of_not_lt hlt)]
  encoder e i he hi hclaimed := by
    have hlt : i < 8 := BitVec.lt_of_getLsbD hi
    have hapart : (s.site e.bank).safeHighMask.getLsbD i = false := by
      by_contra hsafe
      have hoff := getLsbD_of_apart (h.encoder e he) (Bool.not_eq_false _ ▸ hsafe)
      exact absurd (hi.symm.trans hoff) (by simp)
    rw [output_retireSite, getLsbD_retiredOutput hlt, getLsbD_setEncoder_false he hi, hapart,
      show (s.site e.bank).snapshot.claimedMask.getLsbD i = false from hclaimed]
    simp

theorem Kept.handsOver (h : Kept plan s) (next : Nat) (remoteRadio : Option RemoteRadio) :
    HandsOver plan s (OutputState.new next plan remoteRadio).1 := by
  have hfree : ∀ bank (i : Nat),
      ((OutputState.new next plan remoteRadio).1.claimed bank).getLsbD i = false := by
    intro bank i
    cases bank <;> exact BitVec.getLsbD_zero
  have henabled : ∀ bank i, (s.claimed bank).getLsbD i = true →
      (plan.outputEnableMask bank).getLsbD i = true := fun bank i hi => by
    have hw := within_iff.mp (h.safe bank).outputs i (within_iff.mp (h.safe bank).claimed i hi)
    rw [BitVec.getLsbD_setWidth, Bool.and_eq_true] at hw
    exact hw.2
  refine ⟨fun bank i hi => ?_, fun bank i hi hout hptt => ?_, fun i hi hout => ?_⟩
  · have hlt := (h.safe bank).lt_of_claimed hi
    have hptt : (bank == .parallel && plan.pttMask.getLsbD i) = false := by
      cases bank with
      | cm119 => rfl
      | parallel => exact getLsbD_of_apart h.ptt.claimed hi
    rw [getLsbD_restore_of_unclaimed (henabled bank i hi) (hfree bank i), hptt]
    show (((s.site bank).retiredOutput (s.output bank)).getLsbD i && !false) = _
    rw [getLsbD_retiredOutput hlt,
      show (s.site bank).snapshot.claimedMask.getLsbD i = true from hi]
    simp
  · have hlt : i < 8 := BitVec.lt_of_getLsbD hout
    have hnot : (bank == .parallel && plan.pttMask.getLsbD i) = false := by
      cases bank with
      | cm119 => rfl
      | parallel => exact hptt rfl
    rw [getLsbD_restore_of_unclaimed hout (hfree bank i), hnot]
    show (((s.site bank).retiredOutput (s.output bank)).getLsbD i && !false) = _
    rw [(h.safe bank).getLsbD_retiredOutput _ hlt fun _ ho => ho, hi]
    simp
  · rw [getLsbD_restore_of_unclaimed hout (hfree .parallel i), hi]
    simp

end OutputState

namespace WorkerRun

open OutputState

variable {s : WorkerRun} {plan : HardwarePlan}

/-- **Safe levels across hand-over**: what is remembered as safe-high is high, and a retirement and a
snapshot restored into a new state leave the claimed pins at their safe levels and the others as
they were. -/
theorem handsOver_of_reachBy (h : (workerRuns plan).ReachBy RadioReserved s) :
    (∀ bank i, (s.run.outputs.site bank).safeHighMask.getLsbD i = true →
      (s.run.outputs.claimed bank).getLsbD i = false →
      (s.run.outputs.output bank).getLsbD i = true) ∧
    RetiresSafely s.run.outputs ∧
    ∀ next remoteRadio, HandsOver plan s.run.outputs (OutputState.new next plan remoteRadio).1 := by
  have hkept := ((safeRun_inductive plan).reachBy h).kept
  exact ⟨fun bank => (hkept.safe bank).high, hkept.retiresSafely, hkept.handsOver⟩

/-! ## Runs on a parallel port -/

/-- A fresh owner of the port. -/
def portOwner : WorkerRun := ⟨OutputRun.portStart, false⟩

/-- The site takes two pins and gives one back, which is remembered as safe-high; the other one is
published low, while its safe level is high. -/
theorem handsOver_of_release : ∃ s : WorkerRun, s.run.outputs.claimed .parallel = 1 ∧
    (s.run.outputs.site .parallel).safeHighMask = 3 ∧ s.run.outputs.parallel = 2 ∧
    s.run.outputs.retireSite.parallel = 3 ∧
    ((∀ bank i, (s.run.outputs.site bank).safeHighMask.getLsbD i = true →
      (s.run.outputs.claimed bank).getLsbD i = false →
      (s.run.outputs.output bank).getLsbD i = true) ∧
    RetiresSafely s.run.outputs ∧ ∀ next remoteRadio,
      HandsOver OutputRun.portPlan s.run.outputs
        (OutputState.new next OutputRun.portPlan remoteRadio).1) := by
  obtain ⟨s, hrun, hclaimed, hsafe, hlevel, hretired⟩ : ∃ s, (workerRuns OutputRun.portPlan).run
      portOwner [.prepareSite OutputRun.portDevices OutputRun.allOk,
        .siteBind .parallel ⟨4, 3, 0, 3⟩ OutputRun.allOk,
        .siteBind .parallel ⟨5, 1, 0, 1⟩ OutputRun.allOk] = some s ∧
      s.run.outputs.claimed .parallel = 1 ∧ (s.run.outputs.site .parallel).safeHighMask = 3 ∧
      s.run.outputs.parallel = 2 ∧ s.run.outputs.retireSite.parallel = 3 :=
    ⟨_, rfl, rfl, rfl, rfl, rfl⟩
  have hmeets : (workerRuns OutputRun.portPlan).Meets RadioReserved portOwner
      [.prepareSite OutputRun.portDevices OutputRun.allOk,
        .siteBind .parallel ⟨4, 3, 0, 3⟩ OutputRun.allOk,
        .siteBind .parallel ⟨5, 1, 0, 1⟩ OutputRun.allOk] :=
    ⟨trivial, fun _ _ => ⟨trivial, fun _ _ => ⟨trivial, fun _ _ => trivial⟩⟩⟩
  exact ⟨s, hclaimed, hsafe, hlevel, hretired, handsOver_of_reachBy
    ⟨_, _, ⟨OutputRun.init_portStart, rfl⟩, hmeets, hrun⟩⟩

/-- The port of a remote radio, whose PTT is its transmit bit. -/
def radioPlan : HardwarePlan := ⟨none, some ⟨0xff, 0, parallelRtxTransmitMask, 0, 0, 0⟩, false⟩

/-- A worker of a port with a remote radio. -/
def radioOwner : WorkerRun :=
  ⟨⟨(OutputState.new 1 radioPlan none).1, OutputRun.portDevices,
    (OutputState.new 1 radioPlan none).2, .fresh⟩, false⟩

/-- A retirement changes an active encoder pin, and a restored snapshot the PTT of a transmitting
radio; both are outputs of the plan that no site claims. -/
theorem not_unchanged :
    (∃ s, (workerRuns OutputRun.portPlan).Reach s ∧
      (OutputRun.portPlan.outputEnableMask .parallel).getLsbD 5 = true ∧
      (s.run.outputs.claimed .parallel).getLsbD 5 = false ∧
      (s.run.outputs.retireSite.output .parallel).getLsbD 5 ≠
        (s.run.outputs.output .parallel).getLsbD 5) ∧
    ∃ s, (workerRuns radioPlan).Reach s ∧
      (radioPlan.outputEnableMask .parallel).getLsbD 3 = true ∧
      (s.run.outputs.claimed .parallel).getLsbD 3 = false ∧
      (((OutputState.new 9 radioPlan none).1.restore s.run.outputs.snapshot radioPlan).output
        .parallel).getLsbD 3 ≠ (s.run.outputs.output .parallel).getLsbD 3 := by
  constructor
  · obtain ⟨s, hrun, hclaimed, hlevels⟩ : ∃ s, (workerRuns OutputRun.portPlan).run portOwner
        [.prepareSite OutputRun.portDevices OutputRun.allOk,
          .bindEncoder (some ⟨.parallel, 0x20, false⟩) OutputRun.allOk, .setEncoder true] =
          some s ∧ s.run.outputs.claimed .parallel = 0 ∧ s.run.outputs.retireSite.parallel = 0 ∧
        s.run.outputs.parallel = 0x20 := ⟨_, rfl, rfl, rfl, rfl⟩
    refine ⟨s, ⟨_, _, ⟨OutputRun.init_portStart, rfl⟩, hrun⟩, by decide, ?_, ?_⟩
    · rw [hclaimed]
      decide
    · show s.run.outputs.retireSite.parallel.getLsbD 5 ≠ s.run.outputs.parallel.getLsbD 5
      rw [hlevels.1, hlevels.2]
      decide
  · obtain ⟨s, hrun, hclaimed, hlevel, hrestored⟩ : ∃ s, (workerRuns radioPlan).run radioOwner
        [.prepareSite OutputRun.portDevices OutputRun.allOk,
          .configureRemoteRadio OutputRun.radio, .serviceRemoteRadio true OutputRun.allOk] =
          some s ∧ s.run.outputs.claimed .parallel = 0 ∧ s.run.outputs.parallel = 8 ∧
        ((OutputState.new 9 radioPlan none).1.restore s.run.outputs.snapshot radioPlan).parallel =
          0 := ⟨_, rfl, rfl, rfl, rfl⟩
    refine ⟨s, ⟨_, _, ⟨⟨1, none, OutputRun.portDevices, rfl⟩, rfl⟩, hrun⟩, by decide, ?_, ?_⟩
    · rw [hclaimed]
      decide
    · show ((OutputState.new 9 radioPlan none).1.restore s.run.outputs.snapshot
        radioPlan).parallel.getLsbD 3 ≠ s.run.outputs.parallel.getLsbD 3
      rw [hlevel, hrestored]
      decide

end WorkerRun
end Driver
end UsbRadioPlus
