import UsbRadioPlus.Driver.OutputGuard

/-!
# What the operations do to the claimed pins

* `prepareSite_spec`: a preparation guards the pins of the radio, unless it rebuilds the parallel bank
  behind the selection of a channel.
* `Quiet`: no pulse runs on a claimed pin. A binding cancels the pulses of the pins that it claims,
  and the other operations pulse pins that are not claimed.
* `SameLevels`: the claimed pins keep their levels.
-/

namespace UsbRadioPlus
namespace Driver

open Sys.Mask SiteBankState

namespace OutputState

variable {s s' : OutputState} {plan : HardwarePlan} {bank : SiteBank}

/-! ## Preparation -/

theorem claimed_setSite_of_ne {site : SiteBankState} {b : SiteBank} (h : b ≠ bank) :
    (s.setSite bank site).claimed b = s.claimed b :=
  congrArg (·.snapshot.claimedMask) (site_setSite_of_ne site h)

/-- A bank without claims collides with nothing. -/
theorem Exclusive.setSite (h : Exclusive plan s) {site : SiteBankState}
    (hsite : site.snapshot.claimedMask = 0) : Exclusive plan (s.setSite bank site) := by
  have hapart : ∀ {b m}, Apart (s.claimed b) m → Apart ((s.setSite bank site).claimed b) m := by
    intro b m hm
    by_cases hb : b = bank
    · subst hb
      rw [claimed, site_setSite, hsite]
      exact apart_zero
    · rw [claimed_setSite_of_ne hb]
      exact hm
  exact ⟨fun c hc => hapart (h.cm119Ptt c hc), hapart h.parallelPtt, hapart h.clipLed,
    fun e he => hapart (h.encoder e he), fun hr => hapart (h.radio hr),
    fun hc => hapart (h.channel hc)⟩

theorem confined_setSite (h : Confined plan s) {site : SiteBankState}
    (hclaimed : site.snapshot.claimedMask = 0)
    (hout : Within site.snapshot.outputMask ((plan.outputEnableMask bank).setWidth 32)) :
    Confined plan (s.setSite bank site) where
  outputs b := by
    by_cases hb : b = bank
    · subst hb
      rw [site_setSite]
      exact hout
    · rw [site_setSite_of_ne site hb]
      exact h.outputs b
  claimed b := by
    by_cases hb : b = bank
    · subst hb
      rw [site_setSite, hclaimed]
      exact within_zero
    · rw [site_setSite_of_ne site hb]
      exact h.claimed b

/-- Where the plan has no parallel port, its bank has no outputs. -/
theorem Confined.guarded_parallel (h : Confined plan s) (hplan : plan.parallel = none) (m : U32) :
    (s.site .parallel).Guarded m := by
  refine guarded_of_outputs_zero ?_ (h.claimed .parallel) m
  have hw := h.outputs .parallel
  unfold HardwarePlan.outputEnableMask at hw
  rw [hplan] at hw
  apply BitVec.eq_of_getLsbD_eq
  intro i _
  exact (hw.getLsbD_eq_false (by simp)).trans (by simp)

/-- The preparation of both banks has succeeded; the encoder comes next. -/
theorem guards_prepared {a : OutputState} (hconf : Confined plan s)
    {site : SiteBankState} (ha : a = s.setSite .cm119 site)
    (hclaimed : site.snapshot.claimedMask = 0)
    (hclip : site.Guarded (plan.clipLedMask.setWidth 32))
    (hout : Within site.snapshot.outputMask ((plan.outputEnableMask .cm119).setWidth 32))
    {b : OutputState}
    (hb : b = a ∧ plan.parallel = none ∨ ∃ site', b = a.setSite .parallel site' ∧
      site'.snapshot.claimedMask = 0 ∧ site'.Guarded (plan.pttMask.setWidth 32) ∧
      (a.remoteRadio.isSome = true → site'.Guarded (parallelRtxControlMask.setWidth 32)) ∧
      Within site'.snapshot.outputMask ((plan.outputEnableMask .parallel).setWidth 32) ∧
      s.channelSelected = false) :
    Guards plan { b with encoder := none } := by
  subst ha
  have hconfa := confined_setSite hconf hclaimed hout
  rcases hb with ⟨rfl, hplan⟩ | ⟨site', rfl, hclaimed', hptt, hradio, hout', hchannel⟩
  · have hguard := hconfa.guarded_parallel hplan
    refine ⟨hconfa.of_site rfl, hguard _, ?_, fun _ he => (by cases he), fun _ => hguard _,
      fun _ => hguard _⟩
    show ((s.setSite .cm119 site).site .cm119).Guarded _
    rw [site_setSite]
    exact hclip
  · have hconfb := confined_setSite hconfa hclaimed' hout'
    have hself := @site_setSite (s.setSite .cm119 site) .parallel site'
    refine ⟨hconfb.of_site rfl, ?_, ?_, fun _ he => (by cases he), fun hr => ?_, fun hc => ?_⟩
    · show (((s.setSite .cm119 site).setSite .parallel site').site .parallel).Guarded _
      rw [hself]
      exact hptt
    · show (((s.setSite .cm119 site).setSite .parallel site').site .cm119).Guarded _
      rw [site_setSite_of_ne site' (by simp), site_setSite]
      exact hclip
    · show (((s.setSite .cm119 site).setSite .parallel site').site .parallel).Guarded _
      rw [hself]
      exact hradio hr
    · exact absurd (hchannel.symm.trans hc) (by simp)

/-- The preparation rebuilds the parallel bank. -/
def rebuilds (devices : ServiceDevices) (answers : DeviceAnswers) : Bool :=
  devices.parallel.isSome && (devices.cm119.isNone || answers.capabilitiesCm119.isOk) &&
    answers.capabilitiesParallel.isOk

theorem prepareSite_spec (hconf : Confined plan s) (hex : Exclusive plan s)
    {devices : ServiceDevices} (hopen : devices.justOpened plan = true) {answers : DeviceAnswers}
    (hchannel : s.channelSelected = true → rebuilds devices answers = false) {next next' : Nat}
    {outcome : Outcome} (h : s.prepareSite next plan devices answers = some (outcome, next')) :
    (outcome.result = .ok () → Guards plan outcome.outputs) ∧
      Confined plan outcome.outputs ∧ Exclusive plan outcome.outputs := by
  unfold prepareSite at h
  rcases s.prepareCm119_spec next plan devices answers with
    ⟨error, next₁, heq⟩ | ⟨site, next₁, heq, hclaimed, hclip, hout, hok⟩
  · rw [heq] at h
    obtain ⟨rfl, rfl⟩ := Prod.mk.inj (Option.some.inj h)
    exact ⟨fun hr => (by cases hr), hconf, hex⟩
  rw [heq] at h
  simp only at h
  have hguards := fun b => guards_prepared hconf rfl hclaimed hclip hout (b := b)
  rcases (s.setSite .cm119 site).prepareParallel_spec next₁ plan devices answers with
    ⟨error, next₂, heq⟩ | ⟨heq, hnone⟩ | ⟨site', next₂, heq, hclaimed', hptt, hradio, hout', hdev,
      hcaps⟩
  · rw [heq] at h
    obtain ⟨rfl, rfl⟩ := Prod.mk.inj (Option.some.inj h)
    exact ⟨fun hr => (by cases hr), confined_setSite hconf hclaimed hout, hex.setSite hclaimed⟩
  · have hplan : plan.parallel = none := by
      unfold ServiceDevices.justOpened at hopen
      rcases hnone with hnone | hnone
      · cases hp : plan.parallel with
        | none => rfl
        | some parallel => simp [hnone, hp] at hopen
      · exact hnone
    rw [heq] at h
    obtain ⟨outcome', hbind, hsame⟩ := Option.map_eq_some_iff.mp h
    obtain ⟨rfl, -⟩ := Prod.mk.inj hsame
    have hg := (hguards _ (.inl ⟨rfl, hplan⟩)).bindEncoder hbind
    exact ⟨fun _ => hg, hg.confined, hg.exclusive⟩
  · have hnot : s.channelSelected = false := by
      by_contra hc
      have hfalse := hchannel (by simpa using hc)
      simp [rebuilds, hdev, hcaps, hok] at hfalse
    rw [heq] at h
    obtain ⟨outcome', hbind, hsame⟩ := Option.map_eq_some_iff.mp h
    obtain ⟨rfl, -⟩ := Prod.mk.inj hsame
    have hg := (hguards _ (.inr ⟨site', rfl, hclaimed', hptt, hradio, hout', hnot⟩)).bindEncoder
      hbind
    exact ⟨fun _ => hg, hg.confined, hg.exclusive⟩

/-! ## Pulses -/

/-- No pulse runs on a claimed pin. -/
def Quiet (s : OutputState) (devices : ServiceDevices) : Prop :=
  ∀ bank device, devices.device bank = some device →
    Apart (s.claimed bank) (device.pulsing.setWidth 32)

/-- The devices pulse no other pins. -/
def NoNewPulses (devices devices' : ServiceDevices) : Prop :=
  ∀ bank device', devices'.device bank = some device' → ∃ device, devices.device bank = some device ∧
    Within device'.pulsing device.pulsing

theorem noNewPulses_refl (devices : ServiceDevices) : NoNewPulses devices devices :=
  fun _ device h => ⟨device, h, within_refl⟩

theorem noNewPulses_touch (devices : ServiceDevices) (bank : SiteBank) :
    NoNewPulses devices (devices.touch bank) := by
  intro b device' h
  cases bank <;> cases b <;>
    first
    | exact ⟨device', h, within_refl⟩
    | (obtain ⟨device, hdevice, rfl⟩ := Option.map_eq_some_iff.mp h
       exact ⟨device, hdevice, within_refl⟩)

/-- The pulses of a bank behind `schedule_pulse`. -/
theorem device_schedulePulse {devices : ServiceDevices} {bank b : SiteBank} {invert cancel : U8}
    {answers : DeviceAnswers} {device' : Device}
    (h : (devices.schedulePulse bank invert cancel answers).device b = some device') :
    ∃ device, devices.device b = some device ∧ (b ≠ bank → device' = device) ∧
      Within device'.pulsing (device.pulsing ||| invert) ∧
      (b = bank → answers.pulse bank = .ok () → Apart device'.pulsing cancel) := by
  have hpulse : ∀ (device : Device) (answer : Except GpioError Unit),
      Within (device.pulse invert cancel answer).pulsing (device.pulsing ||| invert) ∧
      (answer = .ok () → Apart (device.pulse invert cancel answer).pulsing cancel) := by
    intro device answer
    cases answer with
    | error e => exact ⟨within_refl, fun hok => by cases hok⟩
    | ok _ =>
      refine ⟨within_and_left, fun _ => apart_iff.mpr fun i hi => ?_⟩
      have hi' := within_iff.mp within_and_right i hi
      rw [BitVec.getLsbD_not, Bool.and_eq_true, Bool.not_eq_true'] at hi'
      exact hi'.2
  have hanswer : ∀ {operation : HardwareOperation} {answer : Except GpioError Unit},
      failing operation answer = .ok () → answer = .ok () := by
    intro operation answer hok
    cases answer with
    | ok _ => rfl
    | error e => cases hok
  cases bank <;> cases b
  · obtain ⟨device, hdevice, rfl⟩ := Option.map_eq_some_iff.mp h
    exact ⟨device, hdevice, fun hne => absurd rfl hne, (hpulse device _).1,
      fun _ hok => (hpulse device _).2 (hanswer hok)⟩
  · exact ⟨device', h, fun _ => rfl, within_or_left, fun hb => by cases hb⟩
  · exact ⟨device', h, fun _ => rfl, within_or_left, fun hb => by cases hb⟩
  · obtain ⟨device, hdevice, rfl⟩ := Option.map_eq_some_iff.mp h
    exact ⟨device, hdevice, fun hne => absurd rfl hne, (hpulse device _).1,
      fun _ hok => (hpulse device _).2 (hanswer hok)⟩

theorem Quiet.of_noNewPulses {devices devices' : ServiceDevices} (h : Quiet s devices)
    (hclaimed : ∀ bank, s'.claimed bank = s.claimed bank) (hp : NoNewPulses devices devices') :
    Quiet s' devices' := by
  intro bank device' hdevice'
  obtain ⟨device, hdevice, hw⟩ := hp bank device' hdevice'
  rw [hclaimed]
  exact (h bank device hdevice).mono (within_setWidth hw)

/-- A pulse on pins that are not claimed. -/
theorem apart_setWidth_zero (mask : U32) : Apart mask ((0 : U8).setWidth 32) :=
  apart_iff.mpr fun i _ => by simp

theorem Quiet.schedulePulse {devices : ServiceDevices} (h : Quiet s devices) {invert : U8}
    (hinvert : Apart (s.claimed bank) (invert.setWidth 32)) (cancel : U8)
    (answers : DeviceAnswers) : Quiet s (devices.schedulePulse bank invert cancel answers) := by
  intro b device' hdevice'
  obtain ⟨device, hdevice, hother, hw, -⟩ := device_schedulePulse hdevice'
  by_cases hb : b = bank
  · subst hb
    refine (apart_or (h b device hdevice) hinvert).mono ?_
    have hor : (device.pulsing.setWidth 32 ||| invert.setWidth 32 : U32) =
        (device.pulsing ||| invert).setWidth 32 := (BitVec.setWidth_or ..).symm
    rw [hor]
    exact within_setWidth hw
  · rw [hother hb]
    exact h b device hdevice

theorem Quiet.cancelPulses {devices : ServiceDevices} (h : Quiet s devices) (bank : SiteBank)
    (mask : U8) (answers : DeviceAnswers) :
    Quiet s (s.cancelPulses bank mask devices answers).devices := by
  unfold OutputState.cancelPulses
  split
  · exact h
  · exact h.schedulePulse (apart_setWidth_zero _) mask answers

@[simp] theorem claimed_setSite (site : SiteBankState) :
    (s.setSite bank site).claimed bank = site.snapshot.claimedMask :=
  congrArg (·.snapshot.claimedMask) (site_setSite site)

/-- A bank that keeps its claims. -/
theorem claimed_setSite_of_same {site : SiteBankState} (h : SameClaims (s.site bank) site)
    (b : SiteBank) : (s.setSite bank site).claimed b = s.claimed b := by
  by_cases hb : b = bank
  · subst hb
    rw [claimed_setSite, h.claimed]
    rfl
  · exact claimed_setSite_of_ne hb

theorem claimed_setOutput (value : U8) (b : SiteBank) :
    (s.setOutput bank value).claimed b = s.claimed b := by
  unfold claimed
  rw [site_setOutput]

theorem claimed_setEncoder (active : Bool) (b : SiteBank) :
    (s.setEncoder active).claimed b = s.claimed b := by
  unfold claimed
  rw [site_setEncoder]

theorem claimed_setSite_reserve (mask : U32) (b : SiteBank) :
    (s.setSite bank ((s.site bank).reserve mask).1).claimed b = s.claimed b := by
  by_cases hb : b = bank
  · subst hb
    rw [claimed_setSite, claimedMask_reserve]
    rfl
  · exact claimed_setSite_of_ne hb

theorem quiet_siteBind {devices : ServiceDevices} (h : Quiet s devices) (next : Nat)
    (bank : SiteBank) (binding : SiteDigitalBinding) (answers : DeviceAnswers) :
    Quiet (s.siteBind next bank binding devices answers).1.outputs
      (s.siteBind next bank binding devices answers).1.devices := by
  have hreject : ∀ {devices' : ServiceDevices} (error : SiteError), Quiet s devices' →
      Quiet (s.setSite bank ((s.site bank).reject error)) devices' := fun error hq =>
    hq.of_noNewPulses (claimed_setSite_of_same (sameClaims_reject error)) (noNewPulses_refl _)
  unfold OutputState.siteBind
  simp only
  split
  · exact hreject _ h
  · split
    · refine hreject _ ?_
      split
      · exact h.cancelPulses bank _ answers
      · exact h
    · rename_i hcancel
      split
      · refine hreject _ ?_
        split
        · exact h.cancelPulses bank _ answers
        · exact h
      · rename_i site output next' hbind
        obtain ⟨-, hclaimed, -, -, -, -⟩ := bind_spec hbind
        intro b device' hdevice'
        rw [claimed_setOutput]
        by_cases hb : b = bank
        · subst hb
          rw [claimed_setSite, hclaimed]
          split at hdevice' <;> rename_i hmask
          · -- The pins were quieted before they were claimed.
            rw [if_pos hmask] at hcancel
            unfold OutputState.cancelPulses at hdevice' hcancel
            split at hdevice' <;> rename_i hdev <;> rw [hdev] at hcancel
            · cases hcancel
            · obtain ⟨device, -, -, -, hcan⟩ := device_schedulePulse hdevice'
              have hap := hcan rfl hcancel
              rw [apart_iff] at hap ⊢
              intro i hi
              by_contra hc
              have hon : i < 32 ∧ device'.pulsing.getLsbD i = true := by
                simpa [BitVec.getLsbD_setWidth] using hc
              have hlt : i < 8 := BitVec.lt_of_getLsbD hon.2
              have hoff := hap i hon.2
              simp [hlt, hi] at hoff
          · rw [apart_iff]
            intro i hi
            by_cases hlt : i < 8
            · have hz := congrArg (·.getLsbD i) (not_not.mp hmask)
              simp [hlt, hi] at hz
            · simp [BitVec.getLsbD_of_ge device'.pulsing i (Nat.le_of_not_lt hlt)]
        · rw [claimed_setSite_of_ne hb]
          split at hdevice'
          · exact h.cancelPulses bank _ answers b device' hdevice'
          · exact h b device' hdevice'

/-- A request pulses its pin, or cancels the pulse of the pin. -/
theorem Quiet.pulsed {devices : ServiceDevices} (h : Quiet s devices) {bank : SiteBank} {bit : U8}
    (hfree : Apart (s.claimed bank) (bit.setWidth 32)) (request : OutputRequest)
    (answers : DeviceAnswers) :
    Quiet s (match request with
      | .pulse _ => devices.schedulePulse bank bit 0 answers
      | _ => devices.schedulePulse bank 0 bit answers) := by
  split
  · exact h.schedulePulse hfree 0 answers
  · exact h.schedulePulse (apart_setWidth_zero _) _ answers

theorem quiet_apply {devices : ServiceDevices} (h : Quiet s devices) {command : OutputCommand}
    {answers : DeviceAnswers} {outcome : Outcome}
    (happly : s.apply command devices answers = some outcome) :
    Quiet outcome.outputs outcome.devices := by
  unfold OutputState.apply at happly
  simp only at happly
  split at happly
  · obtain rfl := Option.some.inj happly
    exact h
  · split at happly
    · obtain rfl := Option.some.inj happly
      exact h.of_noNewPulses (claimed_setSite_of_same (sameClaims_reject _)) (noNewPulses_refl _)
    · rename_i hpermits
      have hfree : Apart (s.claimed command.bank) (command.bit.setWidth 32) :=
        (apart_of_permitsOrdinary (by simpa using hpermits)).1.symm
      split at happly
      · obtain rfl := Option.some.inj happly
        exact h
      · cases happly
      · have hq := h.pulsed hfree command.request answers
        split at happly
        · obtain rfl := Option.some.inj happly
          exact hq
        · obtain rfl := Option.some.inj happly
          refine hq.of_noNewPulses (fun b => ?_) (noNewPulses_refl _)
          exact (claimed_setSite_of_same (sameClaims_releaseSafeHigh _) b).trans
            (claimed_setOutput _ b)

/-- The other operations change no claim, and pulse nothing new. -/
theorem selectChannel_spec (s : OutputState) (channel : U8) (devices : ServiceDevices)
    (answers : DeviceAnswers) :
    (∀ bank, (s.selectChannel channel devices answers).outputs.claimed bank = s.claimed bank) ∧
    NoNewPulses devices (s.selectChannel channel devices answers).devices := by
  have hclaimed := @claimed_setSite_reserve s .parallel
    (parallelBinaryMask.setWidth 32)
  unfold OutputState.selectChannel
  split
  · rename_i site hres
    rw [hres] at hclaimed
    exact ⟨hclaimed, noNewPulses_refl _⟩
  · rename_i site hres
    rw [hres] at hclaimed
    simp only
    split
    · exact ⟨hclaimed, noNewPulses_refl _⟩
    · split
      · exact ⟨hclaimed, noNewPulses_touch _ _⟩
      · exact ⟨hclaimed, noNewPulses_touch _ _⟩

theorem claimed_configureRemoteRadio (s : OutputState) (settings : RemoteRadio) (b : SiteBank) :
    (s.configureRemoteRadio settings).1.claimed b = s.claimed b := by
  have hclaimed := @claimed_setSite_reserve s .parallel
    (parallelRtxControlMask.setWidth 32) b
  unfold OutputState.configureRemoteRadio
  split <;> rename_i hres <;> rw [hres] at hclaimed
  · exact hclaimed
  · exact hclaimed

theorem noNewPulses_serviceRemoteRadio (s : OutputState) (devices : ServiceDevices)
    (logicalPtt : Bool) (answers : DeviceAnswers) :
    NoNewPulses devices (s.serviceRemoteRadio devices logicalPtt answers).devices := by
  have htouch := noNewPulses_touch devices .parallel
  have hrefl := noNewPulses_refl devices
  unfold OutputState.serviceRemoteRadio
  split
  · exact hrefl
  · split
    · exact hrefl
    · split
      · exact hrefl
      · simp only
        split
        · split
          · split
            · exact htouch
            · exact htouch
          · exact hrefl
        · split
          · exact htouch
          · exact htouch

theorem quiet_serviceClipLed {devices : ServiceDevices} (h : Quiet s devices) {clipLedMask : U8}
    (hclip : Apart (s.claimed .cm119) (clipLedMask.setWidth 32)) (clipEvents now : Nat)
    (answers : DeviceAnswers) :
    Quiet (s.serviceClipLed devices clipLedMask clipEvents now answers).outputs
      (s.serviceClipLed devices clipLedMask clipEvents now answers).devices := by
  unfold OutputState.serviceClipLed
  split
  · exact h
  · simp only
    split
    · exact h
    · split
      · exact h
      · have hq := h.schedulePulse hclip 0 answers
        split
        · exact hq
        · exact hq

theorem bindEncoder_spec {encoder : Option ExternalEncoder} {devices : ServiceDevices}
    {answers : DeviceAnswers} {outcome : Outcome}
    (hbind : s.bindEncoder encoder devices answers = some outcome) :
    (∀ b, outcome.outputs.claimed b = s.claimed b) ∧
      (Quiet s devices → Quiet outcome.outputs outcome.devices) := by
  unfold OutputState.bindEncoder at hbind
  cases encoder with
  | none =>
    obtain rfl := Option.some.inj hbind
    have hclaimed : ∀ b, ({ s.setEncoder false with encoder := none } : OutputState).claimed b =
        s.claimed b := claimed_setEncoder false
    exact ⟨hclaimed, fun h => h.of_noNewPulses hclaimed (noNewPulses_refl _)⟩
  | some encoder =>
    have hclaimed := @claimed_setSite_reserve s encoder.bank
      (encoder.mask.setWidth 32)
    simp only at hbind
    split at hbind
    · cases hbind
    · rename_i site hres
      rw [hres] at hclaimed
      obtain rfl := Option.some.inj hbind
      rw [outputs_cancelPulses]
      have hall : ∀ b, ((({ (s.setSite encoder.bank site).setEncoder false with
          encoder := some encoder } : OutputState).setEncoder false).claimed b) = s.claimed b :=
        fun b => (claimed_setEncoder false b).trans
          ((claimed_setEncoder (s := s.setSite encoder.bank site) false b).trans (hclaimed b))
      exact ⟨hall, fun h => Quiet.cancelPulses (h.of_noNewPulses hall (noNewPulses_refl _)) _ _ _⟩

theorem quiet_of_justOpened {devices : ServiceDevices} (h : devices.justOpened plan = true)
    (s : OutputState) : Quiet s devices := by
  have hzero : ∀ bank device, devices.device bank = some device → device.pulsing = 0 := by
    unfold ServiceDevices.justOpened at h
    rw [Bool.and_eq_true, Bool.and_eq_true] at h
    intro bank device hdevice
    cases bank with
    | cm119 =>
      have hcm : devices.cm119 = some device := hdevice
      simpa [hcm] using h.1.2
    | parallel =>
      have hpar : devices.parallel = some device := hdevice
      simpa [hpar] using h.2
  intro bank device hdevice
  rw [hzero bank device hdevice]
  exact apart_iff.mpr fun i _ => by simp

theorem quiet_prepareSite {devices : ServiceDevices} (hopen : devices.justOpened plan = true)
    {answers : DeviceAnswers} {next next' : Nat} {outcome : Outcome}
    (h : s.prepareSite next plan devices answers = some (outcome, next')) :
    Quiet outcome.outputs outcome.devices := by
  unfold prepareSite at h
  split at h
  · obtain ⟨rfl, -⟩ := Prod.mk.inj (Option.some.inj h)
    exact quiet_of_justOpened hopen _
  · split at h
    · obtain ⟨rfl, -⟩ := Prod.mk.inj (Option.some.inj h)
      exact quiet_of_justOpened hopen _
    · obtain ⟨outcome', hbind, hsame⟩ := Option.map_eq_some_iff.mp h
      obtain ⟨rfl, -⟩ := Prod.mk.inj hsame
      exact (bindEncoder_spec hbind).2 (quiet_of_justOpened hopen _)

/-! ## Levels -/

/-- The claimed pins keep their levels. -/
def SameLevels (s s' : OutputState) : Prop :=
  ∀ bank i, (s.claimed bank).getLsbD i = true →
    (s'.output bank).getLsbD i = (s.output bank).getLsbD i

theorem sameLevels_of_output (h : ∀ bank, s'.output bank = s.output bank) : SameLevels s s' :=
  fun bank i _ => by rw [h bank]

/-- A pin apart from a mask of the byte. -/
theorem getLsbD_of_apart {x : U32} {m : U8} (h : Apart x (m.setWidth 32)) {i : Nat}
    (hi : x.getLsbD i = true) : m.getLsbD i = false := by
  have hlt : i < 32 := BitVec.lt_of_getLsbD hi
  simpa [hlt] using apart_iff.mp h i hi

/-- The encoder does not drive the pin. -/
def FreeOf (encoder : Option ExternalEncoder) (bank : SiteBank) (i : Nat) : Prop :=
  ∀ e, encoder = some e → e.bank = bank → e.mask.getLsbD i = false

theorem Exclusive.freeOf (h : Exclusive plan s) {i : Nat}
    (hi : (s.claimed bank).getLsbD i = true) : FreeOf s.encoder bank i := by
  rintro e he rfl
  exact getLsbD_of_apart (h.encoder e he) hi

theorem getLsbD_setEncoder {i : Nat} (h : FreeOf s.encoder bank i) (active : Bool) :
    ((s.setEncoder active).output bank).getLsbD i = (s.output bank).getLsbD i := by
  unfold setEncoder
  split
  · rfl
  · rename_i e he
    by_cases hb : bank = e.bank
    · subst hb
      rw [output_setOutput]
      split
      · exact getLsbD_fill (h e he rfl)
      · exact getLsbD_clear (h e he rfl)
    · rw [output_setOutput_of_ne _ hb]

theorem getLsbD_bindEncoder {encoder : Option ExternalEncoder} {devices : ServiceDevices}
    {answers : DeviceAnswers} {outcome : Outcome}
    (hbind : s.bindEncoder encoder devices answers = some outcome) {i : Nat}
    (hold : FreeOf s.encoder bank i) (hnew : FreeOf encoder bank i) :
    (outcome.outputs.output bank).getLsbD i = (s.output bank).getLsbD i := by
  unfold OutputState.bindEncoder at hbind
  cases encoder with
  | none =>
    obtain rfl := Option.some.inj hbind
    exact (congrArg (BitVec.getLsbD · i) (by cases bank <;> rfl)).trans (getLsbD_setEncoder hold false)
  | some encoder =>
    simp only at hbind
    split at hbind
    · cases hbind
    · rename_i site _
      obtain rfl := Option.some.inj hbind
      rw [outputs_cancelPulses, getLsbD_setEncoder hnew]
      have hold' : FreeOf (s.setSite encoder.bank site).encoder bank i := hold
      have hset := getLsbD_setEncoder hold' false
      rw [output_setSite] at hset
      exact (congrArg (BitVec.getLsbD · i) (by cases bank <;> rfl)).trans hset

theorem Exclusive.sameLevels_bindEncoder (h : Exclusive plan s) {encoder : Option ExternalEncoder}
    {devices : ServiceDevices} {answers : DeviceAnswers} {outcome : Outcome}
    (hbind : s.bindEncoder encoder devices answers = some outcome) :
    SameLevels s outcome.outputs := by
  intro bank i hi
  refine getLsbD_bindEncoder hbind (h.freeOf hi) ?_
  rintro e rfl rfl
  -- The reservation has found the pin unclaimed.
  unfold OutputState.bindEncoder at hbind
  simp only at hbind
  split at hbind
  · cases hbind
  · rename_i site hres
    have hclaims := (guarded_reserve hres).claimed
    have hsame := @claimedMask_reserve (s.site e.bank) (e.mask.setWidth 32)
    rw [hres] at hsame
    rw [hsame] at hclaims
    exact getLsbD_of_apart hclaims hi

theorem Exclusive.sameLevels_setEncoder (h : Exclusive plan s) (active : Bool) :
    SameLevels s (s.setEncoder active) :=
  fun _ _ hi => getLsbD_setEncoder (h.freeOf hi) active

theorem sameLevels_apply {command : OutputCommand} {devices : ServiceDevices}
    {answers : DeviceAnswers} {outcome : Outcome}
    (happly : s.apply command devices answers = some outcome) : SameLevels s outcome.outputs := by
  unfold OutputState.apply at happly
  simp only at happly
  split at happly
  · obtain rfl := Option.some.inj happly
    exact sameLevels_of_output fun _ => rfl
  · split at happly
    · obtain rfl := Option.some.inj happly
      exact sameLevels_of_output fun _ => output_setSite ..
    · rename_i hpermits
      have hfree : Apart (s.claimed command.bank) (command.bit.setWidth 32) :=
        (apart_of_permitsOrdinary (by simpa using hpermits)).1.symm
      split at happly
      · obtain rfl := Option.some.inj happly
        exact sameLevels_of_output fun _ => rfl
      · cases happly
      · split at happly
        · obtain rfl := Option.some.inj happly
          exact sameLevels_of_output fun _ => rfl
        · obtain rfl := Option.some.inj happly
          intro bank i hi
          rw [output_setSite]
          by_cases hb : bank = command.bank
          · subst hb
            have hbit := getLsbD_of_apart hfree hi
            rw [output_setOutput]
            unfold applyPersistent
            split
            · exact getLsbD_clear hbit
            · exact getLsbD_fill hbit
            · rfl
          · rw [output_setOutput_of_ne _ hb]

/-- The channel stands on the bits of its mask. -/
theorem getLsbD_selectChannel {value : U8} (channel : U8) {i : Nat}
    (hbit : parallelBinaryMask.getLsbD i = false) :
    ((value ||| parallelBinaryMask) &&& ~~~(channel <<< 4)).getLsbD i = value.getLsbD i := by
  have hshift : (channel <<< 4).getLsbD i = false := by
    have hw : i < 4 ∨ 8 ≤ i := by
      by_contra hc
      have h4 : i = 4 ∨ i = 5 ∨ i = 6 ∨ i = 7 := by omega
      rcases h4 with rfl | rfl | rfl | rfl <;> exact absurd hbit (by decide)
    rcases hw with hw | hw
    · simp [hw]
    · exact BitVec.getLsbD_of_ge _ _ hw
  rw [getLsbD_clear hshift, getLsbD_fill hbit]

theorem sameLevels_selectChannel (s : OutputState) (channel : U8) (devices : ServiceDevices)
    (answers : DeviceAnswers) : SameLevels s (s.selectChannel channel devices answers).outputs := by
  unfold OutputState.selectChannel
  split
  · exact sameLevels_of_output fun _ => output_setSite ..
  · rename_i site hres
    have hclaims := (guarded_reserve hres).claimed
    have hsame := @claimedMask_reserve (s.site .parallel) (parallelBinaryMask.setWidth 32)
    rw [hres] at hsame
    rw [hsame] at hclaims
    simp only
    split
    · exact sameLevels_of_output fun _ => output_setSite ..
    · split
      · exact sameLevels_of_output fun _ => output_setSite ..
      · intro bank i hi
        cases bank with
        | cm119 => rfl
        | parallel => exact getLsbD_selectChannel channel (getLsbD_of_apart hclaims hi)

theorem Exclusive.sameLevels_serviceRemoteRadio (h : Exclusive plan s) (devices : ServiceDevices)
    (logicalPtt : Bool) (answers : DeviceAnswers) :
    SameLevels s (s.serviceRemoteRadio devices logicalPtt answers).outputs := by
  obtain ⟨parallel, dirty, ptt, heq, hpar⟩ := s.serviceRemoteRadio_spec devices logicalPtt answers
  rw [heq]
  intro bank i hi
  cases bank with
  | cm119 => rfl
  | parallel =>
    rcases hpar with rfl | ⟨hradio, hpar⟩
    · rfl
    · exact hpar i (getLsbD_of_apart (h.radio hradio) hi)

theorem sameLevels_restore (s : OutputState) (state : HardwareTransientState)
    (plan : HardwarePlan) : SameLevels s (s.restore state plan) := by
  intro bank i hi
  by_cases hlt : i < 8
  · have hpres : ((s.claimed bank).setWidth 8).getLsbD i = true := by simp [hlt, hi]
    cases bank with
    | cm119 =>
      have hmask : (plan.outputEnableMask .cm119 &&& ~~~(s.claimed .cm119).setWidth 8).getLsbD i =
          false := by
        rw [BitVec.getLsbD_and, BitVec.getLsbD_not, hpres]
        simp
      have hcm : (s.restore state plan).cm119 = (s.cm119 &&& ~~~(plan.outputEnableMask .cm119 &&&
          ~~~(s.claimed .cm119).setWidth 8)) ||| (state.outputMask .cm119 &&&
          (plan.outputEnableMask .cm119 &&& ~~~(s.claimed .cm119).setWidth 8)) := by
        unfold OutputState.restore
        simp only
        split
        · rfl
        · split
          · rfl
          · rfl
      show (s.restore state plan).cm119.getLsbD i = s.cm119.getLsbD i
      rw [hcm, getLsbD_fill (within_and_right.getLsbD_eq_false hmask), getLsbD_clear hmask]
    | parallel =>
      have hpar : (s.restore state plan).parallel = s.parallel ∨ ∃ ptt : U8,
          (s.restore state plan).parallel = (s.parallel &&& (s.claimed .parallel).setWidth 8) |||
            (state.outputMask .parallel &&& ~~~ptt &&& ~~~(s.claimed .parallel).setWidth 8) := by
        unfold OutputState.restore
        simp only
        split
        · exact .inl rfl
        · split
          · exact .inr ⟨_, rfl⟩
          · exact .inr ⟨_, rfl⟩
      show (s.restore state plan).parallel.getLsbD i = s.parallel.getLsbD i
      rcases hpar with hpar | ⟨ptt, hpar⟩
      · rw [hpar]
      · rw [hpar, BitVec.getLsbD_or, BitVec.getLsbD_and, BitVec.getLsbD_and, BitVec.getLsbD_not,
          hpres]
        simp
  · rw [BitVec.getLsbD_of_ge _ _ (Nat.le_of_not_lt hlt),
      BitVec.getLsbD_of_ge _ _ (Nat.le_of_not_lt hlt)]

/-- A preparation drives the encoder, and nothing else. -/
theorem Exclusive.sameLevels_prepareSite (h : Exclusive plan s) {next next' : Nat}
    {devices : ServiceDevices} {answers : DeviceAnswers} {outcome : Outcome}
    (hprepare : s.prepareSite next plan devices answers = some (outcome, next')) :
    SameLevels s outcome.outputs := by
  unfold prepareSite at hprepare
  rcases s.prepareCm119_spec next plan devices answers with
    ⟨error, next₁, heq⟩ | ⟨site, next₁, heq, -⟩
  · rw [heq] at hprepare
    obtain ⟨rfl, -⟩ := Prod.mk.inj (Option.some.inj hprepare)
    exact sameLevels_of_output fun _ => rfl
  rw [heq] at hprepare
  simp only at hprepare
  have hbind : ∀ {a : OutputState} {o : Outcome}, (∀ b, a.output b = s.output b) →
      a.encoder = s.encoder → a.bindEncoder a.encoder devices answers = some o →
      SameLevels s o.outputs := by
    intro a o hout hencoder hb bank i hi
    rw [← hout bank]
    exact getLsbD_bindEncoder hb (hencoder ▸ h.freeOf hi) (hencoder ▸ h.freeOf hi)
  rcases (s.setSite .cm119 site).prepareParallel_spec next₁ plan devices answers with
    ⟨error, next₂, heq⟩ | ⟨heq, -⟩ | ⟨site', next₂, heq, -⟩
  · rw [heq] at hprepare
    obtain ⟨rfl, -⟩ := Prod.mk.inj (Option.some.inj hprepare)
    exact sameLevels_of_output fun _ => output_setSite ..
  · rw [heq] at hprepare
    obtain ⟨o, hb, hsame⟩ := Option.map_eq_some_iff.mp hprepare
    obtain ⟨rfl, -⟩ := Prod.mk.inj hsame
    exact hbind (fun _ => output_setSite ..) rfl hb
  · rw [heq] at hprepare
    obtain ⟨o, hb, hsame⟩ := Option.map_eq_some_iff.mp hprepare
    obtain ⟨rfl, -⟩ := Prod.mk.inj hsame
    exact hbind (fun b => (output_setSite _ b).trans (output_setSite _ b)) rfl hb

end OutputState
end Driver
end UsbRadioPlus
