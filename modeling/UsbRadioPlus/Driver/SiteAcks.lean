import UsbRadioPlus.Driver.OutputGuard

/-!
# What leaves the acknowledgements of a bank alone

Only a publication, a service and a preparation write the acknowledgements of a bank (`submitted`,
`serviced`, `new`). Every other operation of the output state keeps them, and the available outputs
with them (`KeepsAcks`). The CM119 outputs that a native cycle remembers as published are kept or
forgotten.
-/

namespace UsbRadioPlus
namespace Driver

namespace SiteBankState

variable {site site' site'' : SiteBankState}

/-- The same acknowledgements, of the same available outputs. -/
structure SameAcks (site site' : SiteBankState) : Prop where
  submittedGeneration : site'.snapshot.submittedGeneration = site.snapshot.submittedGeneration
  submittedHigh : site'.snapshot.submittedHighMask = site.snapshot.submittedHighMask
  servicedGeneration : site'.snapshot.servicedGeneration = site.snapshot.servicedGeneration
  servicedHigh : site'.snapshot.servicedHighMask = site.snapshot.servicedHighMask
  outputs : site'.snapshot.outputMask = site.snapshot.outputMask

theorem sameAcks_refl (site : SiteBankState) : SameAcks site site := ⟨rfl, rfl, rfl, rfl, rfl⟩

theorem SameAcks.trans (h : SameAcks site site') (h' : SameAcks site' site'') :
    SameAcks site site'' :=
  ⟨h'.submittedGeneration.trans h.submittedGeneration, h'.submittedHigh.trans h.submittedHigh,
    h'.servicedGeneration.trans h.servicedGeneration, h'.servicedHigh.trans h.servicedHigh,
    h'.outputs.trans h.outputs⟩

theorem sameAcks_reject (error : SiteError) : SameAcks site (site.reject error) :=
  ⟨rfl, rfl, rfl, rfl, rfl⟩

theorem sameAcks_restoreSafeHigh (high : U8) : SameAcks site (site.restoreSafeHigh high) :=
  ⟨rfl, rfl, rfl, rfl, rfl⟩

theorem sameAcks_reserve (mask : U32) : SameAcks site (site.reserve mask).1 := by
  unfold reserve
  split
  · exact sameAcks_reject _
  · exact ⟨rfl, rfl, rfl, rfl, rfl⟩

theorem sameAcks_observe (value : Option U32) (now : Nat) : SameAcks site (site.observe value now) := by
  cases value <;> exact ⟨rfl, rfl, rfl, rfl, rfl⟩

theorem sameAcks_bind {next next' : Nat} {binding : SiteDigitalBinding} {output output' : U8}
    (h : site.bind next binding output = .ok (site', output', next')) : SameAcks site site' := by
  unfold bind at h
  split at h
  · cases h
  · simp only at h
    split at h
    · cases h
    · simp only [Except.ok.injEq, Prod.mk.injEq] at h
      obtain ⟨rfl, -, -⟩ := h
      exact ⟨rfl, rfl, rfl, rfl, rfl⟩

theorem sameAcks_apply {request : SiteDigitalRequest} {output output' : U8}
    (h : site.apply request output = .ok (site', output')) : SameAcks site site' := by
  unfold apply at h
  split at h
  · cases h
  · obtain ⟨rfl, -⟩ := Prod.mk.inj (Except.ok.inj h)
    exact ⟨rfl, rfl, rfl, rfl, rfl⟩

/-- Nothing is acknowledged. -/
def Unacknowledged (site : SiteBankState) : Prop :=
  site.snapshot.submittedGeneration = 0 ∧ site.snapshot.servicedGeneration = 0

end SiteBankState

namespace OutputState

open SiteBankState

variable {s s' s'' : OutputState} {bank : SiteBank} {plan : HardwarePlan}

/-- The operation acknowledges nothing, and remembers no publication that was not remembered. -/
structure KeepsAcks (s s' : OutputState) : Prop where
  site : ∀ bank, SameAcks (s.site bank) (s'.site bank)
  native : s'.nativeOutputs = s.nativeOutputs ∨ s'.nativeOutputs = none

theorem keepsAcks_refl (s : OutputState) : KeepsAcks s s := ⟨fun _ => sameAcks_refl _, .inl rfl⟩

theorem KeepsAcks.trans (h : KeepsAcks s s') (h' : KeepsAcks s' s'') : KeepsAcks s s'' := by
  refine ⟨fun bank => (h.site bank).trans (h'.site bank), ?_⟩
  rcases h'.native with hn | hn
  · exact hn ▸ h.native
  · exact .inr hn

/-- Neither the sites nor the remembered outputs change. -/
theorem keepsAcks_of_eq (hsite : s'.site = s.site) (hnative : s'.nativeOutputs = s.nativeOutputs) :
    KeepsAcks s s' := ⟨fun _ => hsite ▸ sameAcks_refl _, .inl hnative⟩

theorem nativeOutputs_setOutput (value : U8) : (s.setOutput bank value).nativeOutputs = s.nativeOutputs := by
  cases bank <;> rfl

theorem nativeOutputs_setEncoder (active : Bool) :
    (s.setEncoder active).nativeOutputs = s.nativeOutputs := by
  unfold setEncoder
  split
  · rfl
  · exact nativeOutputs_setOutput _

theorem keepsAcks_setSite {site : SiteBankState} (h : SameAcks (s.site bank) site) :
    KeepsAcks s (s.setSite bank site) := by
  refine ⟨fun b => ?_, .inl rfl⟩
  by_cases hb : b = bank
  · subst hb
    rw [site_setSite]
    exact h
  · rw [site_setSite_of_ne _ hb]
    exact sameAcks_refl _

theorem keepsAcks_setOutput (value : U8) : KeepsAcks s (s.setOutput bank value) :=
  keepsAcks_of_eq (site_setOutput value) (nativeOutputs_setOutput value)

theorem keepsAcks_setEncoder (active : Bool) : KeepsAcks s (s.setEncoder active) :=
  keepsAcks_of_eq (site_setEncoder active) (nativeOutputs_setEncoder active)

theorem keepsAcks_siteBind (next : Nat) (binding : SiteDigitalBinding) (devices : ServiceDevices)
    (answers : DeviceAnswers) : KeepsAcks s (s.siteBind next bank binding devices answers).1.outputs := by
  unfold siteBind
  simp only
  split
  · exact keepsAcks_setSite (sameAcks_reject _)
  · split
    · exact keepsAcks_setSite (sameAcks_reject _)
    · split
      · exact keepsAcks_setSite (sameAcks_reject _)
      · next hbind => exact (keepsAcks_setSite (sameAcks_bind hbind)).trans (keepsAcks_setOutput _)

theorem keepsAcks_sitePublish (request : SiteDigitalRequest) :
    KeepsAcks s (s.sitePublish bank request) := by
  unfold sitePublish
  simp only
  split
  · exact keepsAcks_setSite (sameAcks_reject _)
  · next happly => exact (keepsAcks_setSite (sameAcks_apply happly)).trans (keepsAcks_setOutput _)

theorem keepsAcks_apply {command : OutputCommand} {devices : ServiceDevices}
    {answers : DeviceAnswers} {outcome : Outcome}
    (h : s.apply command devices answers = some outcome) : KeepsAcks s outcome.outputs := by
  unfold apply at h
  simp only at h
  split at h
  · obtain rfl := Option.some.inj h
    exact keepsAcks_refl s
  · split at h
    · obtain rfl := Option.some.inj h
      exact keepsAcks_setSite (sameAcks_reject _)
    · split at h
      · obtain rfl := Option.some.inj h
        exact keepsAcks_refl s
      · cases h
      · split at h
        · obtain rfl := Option.some.inj h
          exact keepsAcks_refl s
        · obtain rfl := Option.some.inj h
          refine (keepsAcks_setOutput _).trans (keepsAcks_setSite ?_)
          rw [site_setOutput]
          exact ⟨rfl, rfl, rfl, rfl, rfl⟩

theorem keepsAcks_selectChannel (channel : U8) (devices : ServiceDevices) (answers : DeviceAnswers) :
    KeepsAcks s (s.selectChannel channel devices answers).outputs := by
  have hreserve := @sameAcks_reserve (s.site .parallel) (parallelBinaryMask.setWidth 32)
  unfold selectChannel
  split
  · next hres =>
    rw [hres] at hreserve
    exact keepsAcks_setSite hreserve
  · next hres =>
    rw [hres] at hreserve
    have hset := keepsAcks_setSite hreserve
    simp only
    split
    · exact hset
    · split
      · exact hset
      · exact hset.trans (keepsAcks_of_eq rfl rfl)

theorem keepsAcks_configureRemoteRadio (settings : RemoteRadio) :
    KeepsAcks s (s.configureRemoteRadio settings).1 := by
  have hreserve := @sameAcks_reserve (s.site .parallel) (parallelRtxControlMask.setWidth 32)
  unfold configureRemoteRadio
  split
  · next hres =>
    rw [hres] at hreserve
    exact keepsAcks_setSite hreserve
  · next hres =>
    rw [hres] at hreserve
    exact (keepsAcks_setSite hreserve).trans (keepsAcks_of_eq rfl rfl)

theorem keepsAcks_serviceRemoteRadio (devices : ServiceDevices) (logicalPtt : Bool)
    (answers : DeviceAnswers) :
    KeepsAcks s (s.serviceRemoteRadio devices logicalPtt answers).outputs := by
  obtain ⟨parallel, dirty, ptt, heq, -⟩ := s.serviceRemoteRadio_spec devices logicalPtt answers
  rw [heq]
  exact keepsAcks_of_eq rfl rfl

theorem keepsAcks_serviceClipLed (devices : ServiceDevices) (clipLedMask : U8)
    (clipEvents now : Nat) (answers : DeviceAnswers) :
    KeepsAcks s (s.serviceClipLed devices clipLedMask clipEvents now answers).outputs := by
  obtain ⟨seen, till, heq⟩ := s.serviceClipLed_spec devices clipLedMask clipEvents now answers
  rw [heq]
  exact keepsAcks_of_eq rfl rfl

theorem keepsAcks_restore (state : HardwareTransientState) (plan : HardwarePlan) :
    KeepsAcks s (s.restore state plan) := by
  refine ⟨fun bank => ?_, .inl ?_⟩
  · rw [(s.restore_spec state plan).1]
    exact sameAcks_restoreSafeHigh _
  · unfold OutputState.restore
    simp only
    split
    · rfl
    · split <;> rfl

theorem keepsAcks_bindEncoder {encoder : Option ExternalEncoder} {devices : ServiceDevices}
    {answers : DeviceAnswers} {outcome : Outcome}
    (h : s.bindEncoder encoder devices answers = some outcome) : KeepsAcks s outcome.outputs := by
  cases encoder with
  | none =>
    obtain rfl := Option.some.inj h
    exact (keepsAcks_setEncoder false).trans (keepsAcks_of_eq rfl rfl)
  | some encoder =>
    have hreserve := @sameAcks_reserve (s.site encoder.bank) (encoder.mask.setWidth 32)
    unfold bindEncoder at h
    simp only at h
    split at h
    · cases h
    · next hres =>
      rw [hres] at hreserve
      obtain rfl := Option.some.inj h
      rw [outputs_cancelPulses]
      have hdeasserted := (keepsAcks_setSite hreserve).trans (keepsAcks_setEncoder false)
      have hbound : KeepsAcks s { (s.setSite encoder.bank _).setEncoder false with
          encoder := some encoder } := hdeasserted.trans (keepsAcks_of_eq rfl rfl)
      exact hbound.trans (keepsAcks_setEncoder false)

theorem keepsAcks_retireBank (bank : SiteBank) : KeepsAcks s (s.retireBank bank) := by
  have hsame : SameAcks (s.site bank) ((s.site bank).retire (s.output bank)).1 :=
    ⟨rfl, rfl, rfl, rfl, rfl⟩
  exact (keepsAcks_setSite hsame).trans (keepsAcks_setOutput _)

theorem keepsAcks_retireSite (s : OutputState) : KeepsAcks s s.retireSite := by
  have hbanks : KeepsAcks s (((s.setEncoder false).retireBank .cm119).retireBank .parallel) :=
    (keepsAcks_setEncoder false).trans <| (keepsAcks_retireBank .cm119).trans
      (keepsAcks_retireBank .parallel)
  exact ⟨hbanks.site, .inr rfl⟩

/-! ## Preparation -/

/-- A preparation keeps the acknowledgements of a bank or drops them. -/
structure Prepares (s s' : OutputState) : Prop where
  site : ∀ bank, SameAcks (s.site bank) (s'.site bank) ∨ (s'.site bank).Unacknowledged
  native : s'.nativeOutputs = s.nativeOutputs

theorem Prepares.trans_keeps (h : Prepares s s') (h' : KeepsAcks s' s'')
    (hnative : s''.nativeOutputs = s'.nativeOutputs) : Prepares s s'' := by
  refine ⟨fun bank => (h.site bank).imp (fun hsame => hsame.trans (h'.site bank)) fun hnone => ?_,
    hnative.trans h.native⟩
  have hsame := h'.site bank
  exact ⟨hsame.submittedGeneration.trans hnone.1, hsame.servicedGeneration.trans hnone.2⟩

theorem prepares_setSite {site : SiteBankState} (h : site.Unacknowledged) :
    Prepares s (s.setSite bank site) := by
  refine ⟨fun b => ?_, rfl⟩
  by_cases hb : b = bank
  · subst hb
    rw [site_setSite]
    exact .inr h
  · rw [site_setSite_of_ne _ hb]
    exact .inl (sameAcks_refl _)

theorem Prepares.trans (h : Prepares s s') (h' : Prepares s' s'') : Prepares s s'' := by
  refine ⟨fun bank => ?_, h'.native.trans h.native⟩
  rcases h'.site bank with hsame | hnone
  · exact (h.site bank).imp (fun h => h.trans hsame) fun hnone =>
      ⟨hsame.submittedGeneration.trans hnone.1, hsame.servicedGeneration.trans hnone.2⟩
  · exact .inr hnone

theorem prepares_refl (s : OutputState) : Prepares s s := ⟨fun _ => .inl (sameAcks_refl _), rfl⟩

theorem nativeOutputs_bindEncoder {encoder : Option ExternalEncoder} {devices : ServiceDevices}
    {answers : DeviceAnswers} {outcome : Outcome}
    (h : s.bindEncoder encoder devices answers = some outcome) :
    outcome.outputs.nativeOutputs = s.nativeOutputs := by
  cases encoder with
  | none =>
    obtain rfl := Option.some.inj h
    exact nativeOutputs_setEncoder false
  | some encoder =>
    unfold bindEncoder at h
    simp only at h
    split at h
    · cases h
    · obtain rfl := Option.some.inj h
      rw [outputs_cancelPulses, nativeOutputs_setEncoder]
      exact nativeOutputs_setEncoder false

theorem prepareCm119_acks (s : OutputState) (next : Nat) (plan : HardwarePlan)
    (devices : ServiceDevices) (answers : DeviceAnswers) :
    Prepares s (s.prepareCm119 next plan devices answers).1 ∧
      ((s.prepareCm119 next plan devices answers).2.2 = .ok () →
        ((s.prepareCm119 next plan devices answers).1.site .cm119).Unacknowledged) := by
  unfold prepareCm119
  simp only
  split
  · exact ⟨prepares_setSite ⟨rfl, rfl⟩, fun _ => by rw [site_setSite]; exact ⟨rfl, rfl⟩⟩
  · split
    · exact ⟨prepares_refl s, nofun⟩
    · exact ⟨prepares_setSite ⟨rfl, rfl⟩, fun _ => by rw [site_setSite]; exact ⟨rfl, rfl⟩⟩

theorem prepareParallel_acks (s : OutputState) (next : Nat) (plan : HardwarePlan)
    (devices : ServiceDevices) (answers : DeviceAnswers) :
    Prepares s (s.prepareParallel next plan devices answers).1 ∧
      ((s.prepareParallel next plan devices answers).2.2 = .ok () →
        devices.parallel.isSome = true → plan.parallel.isSome = true →
        ((s.prepareParallel next plan devices answers).1.site .parallel).Unacknowledged) := by
  unfold prepareParallel
  simp only
  split
  · split
    · exact ⟨prepares_refl s, nofun⟩
    · exact ⟨prepares_setSite ⟨rfl, rfl⟩, fun _ _ _ => by rw [site_setSite]; exact ⟨rfl, rfl⟩⟩
  · next hnone =>
    refine ⟨prepares_refl s, fun _ hdevice hplan => ?_⟩
    obtain ⟨device, hdevice⟩ := Option.isSome_iff_exists.mp hdevice
    obtain ⟨parallel, hplan⟩ := Option.isSome_iff_exists.mp hplan
    exact (hnone device parallel hdevice hplan).elim

/-- A preparation that succeeds acknowledges nothing on the banks of its devices. -/
theorem prepareSite_acks {next next' : Nat} {devices : ServiceDevices} {answers : DeviceAnswers}
    {outcome : Outcome} (h : s.prepareSite next plan devices answers = some (outcome, next')) :
    Prepares s outcome.outputs ∧ (outcome.result = .ok () →
      (outcome.outputs.site .cm119).Unacknowledged ∧
      (devices.parallel.isSome = true → plan.parallel.isSome = true →
        (outcome.outputs.site .parallel).Unacknowledged)) := by
  obtain ⟨hcm119, hcm119None⟩ := prepareCm119_acks s next plan devices answers
  unfold prepareSite at h
  split at h
  · next heq =>
    rw [heq] at hcm119
    obtain ⟨rfl, -⟩ := Prod.mk.inj (Option.some.inj h)
    exact ⟨hcm119, nofun⟩
  · next first next₁ heq =>
    rw [heq] at hcm119 hcm119None
    obtain ⟨hparallel, hparallelNone⟩ := prepareParallel_acks first next₁ plan devices answers
    split at h
    · next heq' =>
      rw [heq'] at hparallel
      obtain ⟨rfl, -⟩ := Prod.mk.inj (Option.some.inj h)
      exact ⟨hcm119.trans hparallel, nofun⟩
    · next second next₂ heq' =>
      rw [heq'] at hparallel hparallelNone
      obtain ⟨outcome', hbind, hout⟩ := Option.map_eq_some_iff.mp h
      obtain ⟨rfl, -⟩ := Prod.mk.inj hout
      have hencoder := keepsAcks_bindEncoder hbind
      have hnative := nativeOutputs_bindEncoder hbind
      refine ⟨(hcm119.trans hparallel).trans_keeps hencoder hnative, fun _ => ⟨?_, fun hd hp => ?_⟩⟩
      · have hsame := hencoder.site .cm119
        rcases hparallel.site .cm119 with hkept | hnone
        · have hall := hkept.trans hsame
          exact ⟨hall.submittedGeneration.trans (hcm119None rfl).1,
            hall.servicedGeneration.trans (hcm119None rfl).2⟩
        · exact ⟨hsame.submittedGeneration.trans hnone.1, hsame.servicedGeneration.trans hnone.2⟩
      · have hsame := hencoder.site .parallel
        have hnone := hparallelNone rfl hd hp
        exact ⟨hsame.submittedGeneration.trans hnone.1, hsame.servicedGeneration.trans hnone.2⟩

end OutputState
end Driver
end UsbRadioPlus
