import UsbRadioPlus.Driver.OutputState
import UsbRadioPlus.Driver.SiteGuard

/-!
# Guards of the output state

`Exclusive`: no claimed pin is a PTT pin, the clip LED, an encoder pin, a control bit of a configured
remote radio, or a channel-select bit once a channel has been selected. `Guards` says that these pins
are guarded on their bank, which is what the operations keep, one lemma for each. Two of them need
more: a restored remote radio has to find its control bits reserved (`Guards.restore`), and a rebuilt
parallel bank guards the PTT pins and the radio, and no channel (`prepareParallel_spec`).
-/

namespace UsbRadioPlus
namespace Driver

open Sys.Mask SiteBankState

/-! ## Operations on one bank -/

/-- What a change of a bank leaves to its guards. -/
structure SiteBankState.Keeps (site site' : SiteBankState) : Prop where
  guarded : ∀ m, site.Guarded m → site'.Guarded m
  outputs : site'.snapshot.outputMask = site.snapshot.outputMask
  claimed : Within site.snapshot.claimedMask site.snapshot.outputMask →
    Within site'.snapshot.claimedMask site'.snapshot.outputMask

namespace SiteBankState

variable {site site' : SiteBankState}

theorem SameClaims.keeps (h : SameClaims site site') : site.Keeps site' :=
  ⟨fun _ hg => hg.of_same h, h.outputs, fun hc => by rw [h.claimed, h.outputs]; exact hc⟩

theorem keeps_reserve (mask : U32) : site.Keeps (site.reserve mask).1 :=
  ⟨fun _ hg => hg.reserve mask, outputMask_reserve mask, fun hc => by
    rw [claimedMask_reserve, outputMask_reserve]
    exact hc⟩

theorem keeps_bind {next next' : Nat} {binding : SiteDigitalBinding} {output output' : U8}
    (h : site.bind next binding output = .ok (site', output', next')) : site.Keeps site' := by
  obtain ⟨hadmits, hclaimed, -, houtputs, -, -⟩ := bind_spec h
  refine ⟨fun _ hg => hg.bind h, houtputs, fun _ => ?_⟩
  rw [hclaimed, houtputs]
  exact hadmits.available

theorem keeps_retire (output : U8) : site.Keeps (site.retire output).1 :=
  ⟨fun _ hg => guarded_retire hg.claimed output, rfl, id⟩

end SiteBankState

namespace OutputState

variable {s s' : OutputState} {plan : HardwarePlan} {bank : SiteBank}

@[simp] theorem site_setSite (site : SiteBankState) : (s.setSite bank site).site bank = site :=
  Function.update_self ..

@[simp] theorem site_setSite_of_ne (site : SiteBankState) {b : SiteBank} (h : b ≠ bank) :
    (s.setSite bank site).site b = s.site b :=
  Function.update_of_ne h ..

@[simp] theorem output_setSite (site : SiteBankState) (b : SiteBank) :
    (s.setSite bank site).output b = s.output b := by
  cases b <;> rfl

@[simp] theorem output_setOutput (value : U8) : (s.setOutput bank value).output bank = value := by
  cases bank <;> rfl

@[simp] theorem output_setOutput_of_ne (value : U8) {b : SiteBank} (h : b ≠ bank) :
    (s.setOutput bank value).output b = s.output b := by
  cases bank <;> cases b <;> first | rfl | exact absurd rfl h

@[simp] theorem site_setOutput (value : U8) : (s.setOutput bank value).site = s.site := by
  cases bank <;> rfl

@[simp] theorem encoder_setOutput (value : U8) : (s.setOutput bank value).encoder = s.encoder := by
  cases bank <;> rfl

@[simp] theorem remoteRadio_setOutput (value : U8) :
    (s.setOutput bank value).remoteRadio = s.remoteRadio := by
  cases bank <;> rfl

@[simp] theorem channelSelected_setOutput (value : U8) :
    (s.setOutput bank value).channelSelected = s.channelSelected := by
  cases bank <;> rfl

/-! ## Exclusive pins -/

/-- The claims of a bank. -/
def claimed (s : OutputState) (bank : SiteBank) : U32 := (s.site bank).snapshot.claimedMask

/-- The pins claimed by the site are used for nothing else. -/
structure Exclusive (plan : HardwarePlan) (s : OutputState) : Prop where
  cm119Ptt : ∀ cm119, plan.cm119 = some cm119 →
    Apart (s.claimed .cm119) ((profileMasks cm119.profile).1.setWidth 32)
  parallelPtt : Apart (s.claimed .parallel) (plan.pttMask.setWidth 32)
  clipLed : Apart (s.claimed .cm119) (plan.clipLedMask.setWidth 32)
  encoder : ∀ e, s.encoder = some e → Apart (s.claimed e.bank) (e.mask.setWidth 32)
  radio : s.remoteRadio.isSome = true →
    Apart (s.claimed .parallel) (parallelRtxControlMask.setWidth 32)
  channel : s.channelSelected = true →
    Apart (s.claimed .parallel) (parallelBinaryMask.setWidth 32)

/-- The claims are outputs of the plan. -/
structure Confined (plan : HardwarePlan) (s : OutputState) : Prop where
  outputs : ∀ bank,
    Within (s.site bank).snapshot.outputMask ((plan.outputEnableMask bank).setWidth 32)
  claimed : ∀ bank, Within (s.site bank).snapshot.claimedMask (s.site bank).snapshot.outputMask

/-- The pins of the radio are guarded. -/
structure Guards (plan : HardwarePlan) (s : OutputState) : Prop where
  confined : Confined plan s
  parallelPtt : (s.site .parallel).Guarded (plan.pttMask.setWidth 32)
  clipLed : (s.site .cm119).Guarded (plan.clipLedMask.setWidth 32)
  encoder : ∀ e, s.encoder = some e → (s.site e.bank).Guarded (e.mask.setWidth 32)
  radio : s.remoteRadio.isSome = true →
    (s.site .parallel).Guarded (parallelRtxControlMask.setWidth 32)
  channel : s.channelSelected = true →
    (s.site .parallel).Guarded (parallelBinaryMask.setWidth 32)

theorem within_setWidth {x y : U8} (h : Within x y) :
    Within (x.setWidth 32) (y.setWidth 32 : U32) := by
  rw [within_iff] at *
  intro i hi
  simp only [BitVec.getLsbD_setWidth, Bool.and_eq_true] at hi ⊢
  exact ⟨hi.1, h i hi.2⟩

theorem apart_setWidth {x y : U8} (h : Apart x y) :
    Apart (x.setWidth 32) (y.setWidth 32 : U32) := by
  rw [apart_iff] at *
  intro i hi
  simp only [BitVec.getLsbD_setWidth, Bool.and_eq_true] at hi
  simp [h i hi.2]

/-- The plan keeps the dedicated PTT pin from the ordinary outputs. -/
theorem Confined.apart_cm119Ptt (h : Confined plan s) {cm119 : Cm119Plan}
    (hplan : plan.cm119 = some cm119) :
    Apart (s.claimed .cm119) ((profileMasks cm119.profile).1.setWidth 32) := by
  have hw := (h.claimed .cm119).trans (h.outputs .cm119)
  refine Apart.mono_left (apart_setWidth cm119.ptt_apart) ?_
  unfold HardwarePlan.outputEnableMask at hw
  rw [hplan] at hw
  exact hw

theorem Guards.exclusive (h : Guards plan s) : Exclusive plan s where
  cm119Ptt _ hplan := h.confined.apart_cm119Ptt hplan
  parallelPtt := h.parallelPtt.claimed
  clipLed := h.clipLed.claimed
  encoder e he := (h.encoder e he).claimed
  radio hr := (h.radio hr).claimed
  channel hc := (h.channel hc).claimed

theorem Confined.of_site (h : Confined plan s) (hsite : s'.site = s.site) : Confined plan s' :=
  ⟨by rw [hsite]; exact h.outputs, by rw [hsite]; exact h.claimed⟩

theorem Confined.setSite (h : Confined plan s) {site : SiteBankState}
    (hk : (s.site bank).Keeps site) : Confined plan (s.setSite bank site) where
  outputs b := by
    by_cases hb : b = bank
    · subst hb
      rw [site_setSite, hk.outputs]
      exact h.outputs b
    · rw [site_setSite_of_ne site hb]
      exact h.outputs b
  claimed b := by
    by_cases hb : b = bank
    · subst hb
      rw [site_setSite]
      exact hk.claimed (h.claimed b)
    · rw [site_setSite_of_ne site hb]
      exact h.claimed b

/-- The guards look at the banks, the encoder, the remote radio and the channel. -/
theorem Guards.of_eq (h : Guards plan s) (hsite : s'.site = s.site) (he : s'.encoder = s.encoder)
    (hr : s'.remoteRadio = s.remoteRadio) (hc : s'.channelSelected = s.channelSelected) :
    Guards plan s' where
  confined := h.confined.of_site hsite
  parallelPtt := by rw [hsite]; exact h.parallelPtt
  clipLed := by rw [hsite]; exact h.clipLed
  encoder e hse := by rw [hsite]; exact h.encoder e (he.symm.trans hse)
  radio := by rw [hsite, hr]; exact h.radio
  channel := by rw [hsite, hc]; exact h.channel

theorem Guarded.setSite {site : SiteBankState} (hk : (s.site bank).Keeps site) {b : SiteBank}
    {m : U32} (h : (s.site b).Guarded m) : ((s.setSite bank site).site b).Guarded m := by
  by_cases hb : b = bank
  · subst hb
    rw [site_setSite]
    exact hk.guarded m h
  · rw [site_setSite_of_ne site hb]
    exact h

theorem Guards.setSite (h : Guards plan s) {site : SiteBankState}
    (hk : (s.site bank).Keeps site) : Guards plan (s.setSite bank site) where
  confined := h.confined.setSite hk
  parallelPtt := Guarded.setSite hk h.parallelPtt
  clipLed := Guarded.setSite hk h.clipLed
  encoder e he := Guarded.setSite hk (h.encoder e he)
  radio hr := Guarded.setSite hk (h.radio hr)
  channel hc := Guarded.setSite hk (h.channel hc)

theorem Guards.setOutput (h : Guards plan s) (bank : SiteBank) (value : U8) :
    Guards plan (s.setOutput bank value) :=
  h.of_eq (site_setOutput _) (encoder_setOutput _) (remoteRadio_setOutput _)
    (channelSelected_setOutput _)

theorem site_setEncoder (active : Bool) : (s.setEncoder active).site = s.site := by
  unfold setEncoder
  split
  · rfl
  · exact site_setOutput _

theorem encoder_setEncoder (active : Bool) : (s.setEncoder active).encoder = s.encoder := by
  unfold setEncoder
  split
  · rfl
  · exact encoder_setOutput _

theorem remoteRadio_setEncoder (active : Bool) :
    (s.setEncoder active).remoteRadio = s.remoteRadio := by
  unfold setEncoder
  split
  · rfl
  · exact remoteRadio_setOutput _

theorem channelSelected_setEncoder (active : Bool) :
    (s.setEncoder active).channelSelected = s.channelSelected := by
  unfold setEncoder
  split
  · rfl
  · exact channelSelected_setOutput _

theorem Guards.setEncoder (h : Guards plan s) (active : Bool) : Guards plan (s.setEncoder active) :=
  h.of_eq (site_setEncoder _) (encoder_setEncoder _) (remoteRadio_setEncoder _)
    (channelSelected_setEncoder _)

@[simp] theorem outputs_cancelPulses (mask : U8) (devices : ServiceDevices)
    (answers : DeviceAnswers) : (s.cancelPulses bank mask devices answers).outputs = s := by
  unfold cancelPulses
  split <;> rfl

/-! ## The operations -/

theorem Guards.siteBind (h : Guards plan s) (next : Nat) (bank : SiteBank)
    (binding : SiteDigitalBinding) (devices : ServiceDevices) (answers : DeviceAnswers) :
    Guards plan (s.siteBind next bank binding devices answers).1.outputs := by
  unfold OutputState.siteBind
  simp only
  split
  · exact h.setSite (sameClaims_reject _).keeps
  · split
    · exact h.setSite (sameClaims_reject _).keeps
    · split
      · exact h.setSite (sameClaims_reject _).keeps
      · rename_i hbind
        exact (h.setSite (keeps_bind hbind)).setOutput ..

theorem Guards.sitePublish (h : Guards plan s) (bank : SiteBank) (request : SiteDigitalRequest) :
    Guards plan (s.sitePublish bank request) := by
  unfold OutputState.sitePublish
  simp only
  split
  · exact h.setSite (sameClaims_reject _).keeps
  · rename_i happly
    exact (h.setSite (apply_spec happly).1.keeps).setOutput ..

theorem Guards.apply (h : Guards plan s) {command : OutputCommand} {devices : ServiceDevices}
    {answers : DeviceAnswers} {outcome : Outcome}
    (happly : s.apply command devices answers = some outcome) : Guards plan outcome.outputs := by
  unfold OutputState.apply at happly
  simp only at happly
  split at happly
  · obtain rfl := Option.some.inj happly
    exact h
  · split at happly
    · obtain rfl := Option.some.inj happly
      exact h.setSite (sameClaims_reject _).keeps
    · split at happly
      · obtain rfl := Option.some.inj happly
        exact h
      · cases happly
      · split at happly
        · obtain rfl := Option.some.inj happly
          exact h
        · obtain rfl := Option.some.inj happly
          have hout := h.setOutput command.bank
            (applyPersistent (s.output command.bank) command.bit command.request)
          have hk := (@sameClaims_releaseSafeHigh
            (s.site command.bank) command.bit).keeps
          refine hout.setSite ?_
          rw [site_setOutput]
          exact hk

theorem Guards.selectChannel (h : Guards plan s) (channel : U8) (devices : ServiceDevices)
    (answers : DeviceAnswers) :
    Guards plan (s.selectChannel channel devices answers).outputs := by
  have hkeeps := @keeps_reserve (s.site .parallel) (parallelBinaryMask.setWidth 32)
  unfold OutputState.selectChannel
  split
  · rename_i site hres
    rw [hres] at hkeeps
    exact h.setSite hkeeps
  · rename_i site hres
    have hguard := guarded_reserve hres
    rw [hres] at hkeeps
    have hset := h.setSite hkeeps
    simp only
    split
    · exact hset
    · split
      · exact hset
      · exact ⟨hset.confined.of_site rfl, hset.parallelPtt, hset.clipLed, hset.encoder, hset.radio,
          fun _ => by simpa using hguard⟩

theorem Guards.configureRemoteRadio (h : Guards plan s) (settings : RemoteRadio) :
    Guards plan (s.configureRemoteRadio settings).1 := by
  have hkeeps := @keeps_reserve (s.site .parallel) (parallelRtxControlMask.setWidth 32)
  unfold OutputState.configureRemoteRadio
  split
  · rename_i site hres
    rw [hres] at hkeeps
    exact h.setSite hkeeps
  · rename_i site hres
    have hguard := guarded_reserve hres
    rw [hres] at hkeeps
    have hset := h.setSite hkeeps
    exact ⟨hset.confined.of_site rfl, hset.parallelPtt, hset.clipLed, hset.encoder,
      fun _ => by simpa using hguard, hset.channel⟩

/-- `service_remote_radio` changes the byte of the parallel port and what it has programmed. -/
theorem serviceRemoteRadio_spec (s : OutputState) (devices : ServiceDevices) (logicalPtt : Bool)
    (answers : DeviceAnswers) : ∃ parallel dirty ptt,
      (s.serviceRemoteRadio devices logicalPtt answers).outputs =
        { s with parallel, remoteRadioDirty := dirty, remoteRadioPtt := ptt } ∧
      (parallel = s.parallel ∨ s.remoteRadio.isSome = true ∧
        ∀ i, parallelRtxControlMask.getLsbD i = false →
          parallel.getLsbD i = s.parallel.getLsbD i) := by
  unfold OutputState.serviceRemoteRadio
  split
  · exact ⟨_, _, _, rfl, .inl rfl⟩
  · rename_i settings hradio
    split
    · exact ⟨_, _, _, rfl, .inl rfl⟩
    · split
      · exact ⟨_, _, _, rfl, .inl rfl⟩
      · simp only
        split
        · split
          · split
            · exact ⟨_, _, _, rfl, .inl rfl⟩
            · refine ⟨_, _, _, rfl, .inr ⟨by rw [hradio]; rfl, fun i hi => ?_⟩⟩
              have hw : Within (parallelRtxTransmitMask ||| parallelRtxPowerMask)
                parallelRtxControlMask := by decide
              exact getLsbD_clear (hw.getLsbD_eq_false hi)
          · exact ⟨_, _, _, rfl, .inl rfl⟩
        · split
          · exact ⟨_, _, _, rfl, .inl rfl⟩
          · refine ⟨_, _, _, rfl, .inr ⟨by rw [hradio]; rfl, fun i hi => ?_⟩⟩
            have hw : Within parallelRtxTransmitMask parallelRtxControlMask := by decide
            split
            · rw [getLsbD_fill (hw.getLsbD_eq_false hi), getLsbD_clear hi]
            · exact getLsbD_clear hi

theorem Guards.serviceRemoteRadio (h : Guards plan s) (devices : ServiceDevices) (logicalPtt : Bool)
    (answers : DeviceAnswers) :
    Guards plan (s.serviceRemoteRadio devices logicalPtt answers).outputs := by
  obtain ⟨parallel, dirty, ptt, heq, -⟩ := s.serviceRemoteRadio_spec devices logicalPtt answers
  rw [heq]
  exact h.of_eq rfl rfl rfl rfl

theorem serviceClipLed_spec (s : OutputState) (devices : ServiceDevices) (clipLedMask : U8)
    (clipEvents now : Nat) (answers : DeviceAnswers) : ∃ seen till,
      (s.serviceClipLed devices clipLedMask clipEvents now answers).outputs =
        { s with clipEventsSeen := seen, clipLedUntil := till } := by
  unfold OutputState.serviceClipLed
  split
  · exact ⟨_, _, rfl⟩
  · simp only
    split
    · exact ⟨_, _, rfl⟩
    · split
      · exact ⟨_, _, rfl⟩
      · split
        · exact ⟨_, _, rfl⟩
        · exact ⟨_, _, rfl⟩

theorem Guards.serviceClipLed (h : Guards plan s) (devices : ServiceDevices) (clipLedMask : U8)
    (clipEvents now : Nat) (answers : DeviceAnswers) :
    Guards plan (s.serviceClipLed devices clipLedMask clipEvents now answers).outputs := by
  obtain ⟨seen, till, heq⟩ := s.serviceClipLed_spec devices clipLedMask clipEvents now answers
  rw [heq]
  exact h.of_eq rfl rfl rfl rfl

theorem Guards.withoutEncoder (h : Guards plan s) : Guards plan { s with encoder := none } :=
  ⟨h.confined.of_site rfl, h.parallelPtt, h.clipLed, fun _ he => (by cases he), h.radio, h.channel⟩

/-- A binding guards the pin of its encoder, whatever the old encoder was. -/
theorem Guards.bindEncoder (h : Guards plan { s with encoder := none })
    {encoder : Option ExternalEncoder} {devices : ServiceDevices} {answers : DeviceAnswers}
    {outcome : Outcome} (hbind : s.bindEncoder encoder devices answers = some outcome) :
    Guards plan outcome.outputs := by
  unfold OutputState.bindEncoder at hbind
  cases encoder with
  | none =>
    obtain rfl := Option.some.inj hbind
    exact h.of_eq (site_setEncoder false) rfl (remoteRadio_setEncoder false)
      (channelSelected_setEncoder false)
  | some encoder =>
    have hkeeps := @keeps_reserve (s.site encoder.bank) (encoder.mask.setWidth 32)
    simp only at hbind
    split at hbind
    · cases hbind
    · rename_i site hres
      obtain rfl := Option.some.inj hbind
      have hguard := guarded_reserve hres
      rw [hres] at hkeeps
      have hset : Guards plan { s.setSite encoder.bank site with encoder := none } :=
        Guards.setSite h hkeeps
      rw [outputs_cancelPulses]
      refine Guards.setEncoder ?_ false
      have hradio := remoteRadio_setEncoder (s := s.setSite encoder.bank site) false
      have hchannel := channelSelected_setEncoder (s := s.setSite encoder.bank site) false
      have hsite := site_setEncoder (s := s.setSite encoder.bank site) false
      refine ⟨hset.confined.of_site hsite, by rw [hsite]; exact hset.parallelPtt,
        by rw [hsite]; exact hset.clipLed, fun e he => ?_, by rw [hsite, hradio]; exact hset.radio,
        by rw [hsite, hchannel]; exact hset.channel⟩
      obtain rfl := Option.some.inj he
      rw [hsite, site_setSite]
      exact hguard

/-- The retirement of a bank guards what is not claimed on it: the site cannot bind any more. -/
theorem claimed_retireBank (bank b : SiteBank) : (s.retireBank bank).claimed b = s.claimed b := by
  unfold retireBank claimed
  rw [site_setOutput]
  by_cases hb : b = bank
  · subst hb
    rw [site_setSite]
    rfl
  · rw [site_setSite_of_ne _ hb]

theorem generation_retireSite (bank : SiteBank) :
    (s.retireSite.site bank).snapshot.generation = 0 := by
  show ((((s.setEncoder false).retireBank .cm119).retireBank .parallel).site bank).snapshot.generation
    = 0
  unfold retireBank
  cases bank with
  | cm119 =>
    rw [site_setOutput, site_setSite_of_ne _ (by simp), site_setOutput, site_setSite]
    rfl
  | parallel =>
    rw [site_setOutput, site_setSite]
    rfl

theorem claimed_retireSite (b : SiteBank) : s.retireSite.claimed b = s.claimed b := by
  show (((s.setEncoder false).retireBank .cm119).retireBank .parallel).claimed b = _
  rw [claimed_retireBank, claimed_retireBank]
  exact congrArg (fun site : SiteBank → SiteBankState => (site b).snapshot.claimedMask)
    (site_setEncoder false)

theorem Confined.retireBank (h : Confined plan s) (bank : SiteBank) :
    Confined plan (s.retireBank bank) :=
  (h.setSite (keeps_retire (s.output bank))).of_site (site_setOutput _)

/-- A retired site can bind nothing, so what is not claimed is guarded. -/
theorem guards_retireSite (hconf : Confined plan s) (hex : Exclusive plan s) :
    Guards plan s.retireSite := by
  have hguard : ∀ {b m}, Apart (s.claimed b) m → (s.retireSite.site b).Guarded m := fun hm =>
    ⟨by rw [← claimed_retireSite] at hm; exact hm, .inl (generation_retireSite _)⟩
  have hencoder : s.retireSite.encoder = s.encoder := by
    show (((s.setEncoder false).retireBank .cm119).retireBank .parallel).encoder = _
    unfold retireBank
    rw [encoder_setOutput]
    exact (encoder_setOutput _).trans (encoder_setEncoder false)
  have hradio : s.retireSite.remoteRadio = s.remoteRadio := by
    show (((s.setEncoder false).retireBank .cm119).retireBank .parallel).remoteRadio = _
    unfold retireBank
    rw [remoteRadio_setOutput]
    exact (remoteRadio_setOutput _).trans (remoteRadio_setEncoder false)
  have hchannel : s.retireSite.channelSelected = s.channelSelected := by
    show (((s.setEncoder false).retireBank .cm119).retireBank .parallel).channelSelected = _
    unfold retireBank
    rw [channelSelected_setOutput]
    exact (channelSelected_setOutput _).trans (channelSelected_setEncoder false)
  refine ⟨?_, hguard hex.parallelPtt, hguard hex.clipLed,
    fun e he => hguard (hex.encoder e (hencoder.symm.trans he)),
    fun hr => hguard (hex.radio (by rwa [hradio] at hr)),
    fun hc => hguard (hex.channel (hchannel.symm.trans hc))⟩
  have hset : Confined plan (s.setEncoder false) := hconf.of_site (site_setEncoder false)
  exact ((hset.retireBank .cm119).retireBank .parallel).of_site rfl

/-! ## Restored state -/

theorem apart_of_setWidth {x : U32} {y : U8} (h : Apart (x.setWidth 8) y) :
    Apart x (y.setWidth 32) := by
  rw [apart_iff] at *
  intro i hi
  by_cases hlt : i < 8
  · simpa [show i < 32 by omega] using h i (by simpa [hlt] using hi)
  · simp [BitVec.getLsbD_of_ge y i (Nat.le_of_not_lt hlt)]

/-- What `restore` leaves. -/
theorem restore_spec (s : OutputState) (state : HardwareTransientState) (plan : HardwarePlan) :
    (s.restore state plan).site = (fun bank =>
      (s.site bank).restoreSafeHigh (state.siteSafeHigh bank)) ∧
    (s.restore state plan).encoder = s.encoder ∧
    (s.restore state plan).channelSelected = s.channelSelected ∧
    ((s.restore state plan).remoteRadio = s.remoteRadio ∨
      (s.restore state plan).remoteRadio = state.remoteRadio ∧
        Apart (s.claimed .parallel) (parallelRtxControlMask.setWidth 32)) := by
  unfold OutputState.restore
  simp only
  split
  · exact ⟨rfl, rfl, rfl, .inl rfl⟩
  · split
    · rename_i hfree
      exact ⟨rfl, rfl, rfl, .inr ⟨rfl, apart_of_setWidth hfree⟩⟩
    · exact ⟨rfl, rfl, rfl, .inl rfl⟩

/-- A state that installs a remote radio finds its control bits reserved. -/
theorem Guards.restore (h : Guards plan s) (state : HardwareTransientState)
    (hradio : state.remoteRadio.isSome = true →
      Apart (s.claimed .parallel) (parallelRtxControlMask.setWidth 32) →
      (s.site .parallel).Reserved (parallelRtxControlMask.setWidth 32)) :
    Guards plan (s.restore state plan) := by
  obtain ⟨hsite, hencoder, hchannel, hr⟩ := s.restore_spec state plan
  have hk : ∀ bank, SameClaims (s.site bank)
      ((s.site bank).restoreSafeHigh (state.siteSafeHigh bank)) := fun bank =>
    sameClaims_restoreSafeHigh _
  refine ⟨⟨fun bank => ?_, fun bank => ?_⟩, ?_, ?_, fun e he => ?_, fun hsome => ?_, fun hc => ?_⟩
  · rw [hsite]
    exact h.confined.outputs bank
  · rw [hsite]
    exact h.confined.claimed bank
  · rw [hsite]
    exact h.parallelPtt.of_same (hk _)
  · rw [hsite]
    exact h.clipLed.of_same (hk _)
  · rw [hsite]
    exact (h.encoder e (hencoder.symm.trans he)).of_same (hk _)
  · rw [hsite]
    rcases hr with hr | ⟨hr, hfree⟩
    · rw [hr] at hsome
      exact (h.radio hsome).of_same (hk _)
    · rw [hr] at hsome
      exact Guarded.of_same (hk _) ⟨hfree, hradio hsome hfree⟩
  · rw [hsite]
    exact (h.channel (hchannel.symm.trans hc)).of_same (hk _)

/-! ## Preparation -/

/-- A bank without outputs guards every pin. -/
theorem guarded_of_outputs_zero {site : SiteBankState} (h : site.snapshot.outputMask = 0)
    (hc : Within site.snapshot.claimedMask site.snapshot.outputMask) (m : U32) :
    site.Guarded m := by
  refine ⟨?_, .inr ?_⟩
  · rw [h] at hc
    exact apart_zero.mono_left hc
  · rw [h]
    exact (BitVec.and_zero (x := m)).symm ▸ within_zero

theorem prepareCm119_spec (s : OutputState) (next : Nat) (plan : HardwarePlan)
    (devices : ServiceDevices) (answers : DeviceAnswers) :
    (∃ error next', s.prepareCm119 next plan devices answers = (s, next', .error error)) ∨
    ∃ site next', s.prepareCm119 next plan devices answers =
        (s.setSite .cm119 site, next', .ok ()) ∧ site.snapshot.claimedMask = 0 ∧
      site.Guarded (plan.clipLedMask.setWidth 32) ∧
      Within site.snapshot.outputMask ((plan.outputEnableMask .cm119).setWidth 32) ∧
      (devices.cm119.isNone || answers.capabilitiesCm119.isOk) = true := by
  unfold prepareCm119
  simp only
  split
  · rename_i hnone
    exact .inr ⟨_, _, rfl, rfl, guarded_of_outputs_zero rfl within_zero _, within_zero,
      by rw [hnone]; rfl⟩
  · split
    · exact .inl ⟨_, _, rfl⟩
    · rename_i hcaps
      exact .inr ⟨_, _, rfl, rfl,
        (guarded_new _ _ _ within_and_left).of_same (sameClaims_restoreSafeHigh _),
        within_and_right, by rw [hcaps, Bool.or_comm]; rfl⟩

/-- A rebuilt parallel bank guards the PTT pins, and the control bits of a remote radio. -/
theorem prepareParallel_spec (s : OutputState) (next : Nat) (plan : HardwarePlan)
    (devices : ServiceDevices) (answers : DeviceAnswers) :
    (∃ error next', s.prepareParallel next plan devices answers = (s, next', .error error)) ∨
    (s.prepareParallel next plan devices answers = (s, next, .ok ()) ∧
      (devices.parallel = none ∨ plan.parallel = none)) ∨
    ∃ site next', s.prepareParallel next plan devices answers =
        (s.setSite .parallel site, next', .ok ()) ∧ site.snapshot.claimedMask = 0 ∧
      site.Guarded (plan.pttMask.setWidth 32) ∧
      (s.remoteRadio.isSome = true → site.Guarded (parallelRtxControlMask.setWidth 32)) ∧
      Within site.snapshot.outputMask ((plan.outputEnableMask .parallel).setWidth 32) ∧
      devices.parallel.isSome = true ∧ answers.capabilitiesParallel.isOk = true := by
  unfold prepareParallel
  simp only
  split
  · rename_i device parallel hdevice hplan
    split
    · exact .inl ⟨_, _, rfl⟩
    · rename_i caps hcaps
      refine .inr (.inr ⟨_, _, rfl, rfl, ?_, fun hradio => ?_, ?_, by rw [hdevice]; rfl,
        by rw [hcaps]; rfl⟩)
      · refine (guarded_new _ _ _ (within_and_left.trans ?_)).of_same (sameClaims_restoreSafeHigh _)
        refine within_setWidth ?_
        unfold HardwarePlan.pttMask
        rw [hplan]
        exact within_or_left
      · refine (guarded_new _ _ _ (within_and_left.trans ?_)).of_same (sameClaims_restoreSafeHigh _)
        refine within_setWidth ?_
        rw [if_pos hradio]
        exact within_or_right
      · unfold HardwarePlan.outputEnableMask
        rw [hplan]
        exact within_and_right
  · rename_i hnone
    refine .inr (.inl ⟨rfl, ?_⟩)
    cases hdevice : devices.parallel with
    | none => exact .inl rfl
    | some device =>
      refine .inr ?_
      cases hplan : plan.parallel with
      | none => rfl
      | some parallel => exact (hnone device parallel hdevice hplan).elim

end OutputState
end Driver
end UsbRadioPlus
