import UsbRadioPlus.Driver.OutputRun
import UsbRadioPlus.Driver.SafeLevels

/-!
# Retirement and preparation

What a retirement and a preparation of the banks do to the safe levels. Behind a retirement every
safe level is high (`AllHigh`); a preparation that finds it so keeps it, and of the safe levels it
remembers none of a pin that the radio, the PTT or the encoder uses (`Held`).

`Frames` are the steps that narrow the banks and move no pin with a safe level.
-/

namespace UsbRadioPlus
namespace Driver

open Sys Sys.Mask SiteBankState

namespace OutputState

variable {s s' : OutputState} {plan : HardwarePlan} {bank : SiteBank} {devices : ServiceDevices}
  {answers : DeviceAnswers}

/-! ## The encoder -/

/-- The pins of the encoder are remembered nowhere. -/
def EncoderApart (s : OutputState) : Prop :=
  ∀ e, s.encoder = some e → Apart (s.site e.bank).safeHighMask (e.mask.setWidth 32)

/-- Every safe level is high, claimed or not. -/
def AllHigh (s : OutputState) : Prop :=
  ∀ bank i, (s.site bank).safeHighMask.getLsbD i = true → (s.output bank).getLsbD i = true

theorem EncoderApart.freeOf (h : EncoderApart s) {i : Nat}
    (hi : (s.site bank).safeHighMask.getLsbD i = true) : FreeOf s.encoder bank i := by
  rintro e he rfl
  exact getLsbD_of_apart (h e he) hi

/-- A step that narrows the banks and moves no pin with a safe level. -/
structure Frames (s s' : OutputState) : Prop where
  narrows : ∀ bank, Narrows (s.site bank) (s'.site bank)
  levels : ∀ bank i, (s'.site bank).safeHighMask.getLsbD i = true →
    (s'.output bank).getLsbD i = (s.output bank).getLsbD i

theorem Frames.settles (h : Frames s s') : Settles plan s s' :=
  settles_of_narrows h.narrows fun bank i hi _ => h.levels bank i hi

theorem Frames.allHigh (h : Frames s s') (hall : AllHigh s) : AllHigh s' := fun bank i hi => by
  rw [h.levels bank i hi]
  exact hall bank i (within_iff.mp (h.narrows bank).safe i hi)

theorem frames_setSite {site : SiteBankState} (h : Narrows (s.site bank) site) :
    Frames s (s.setSite bank site) :=
  ⟨narrows_setSite h, fun b i _ => by rw [output_setSite]⟩

theorem frames_setEncoder (h : EncoderApart s) (active : Bool) : Frames s (s.setEncoder active) := by
  refine ⟨fun bank => ?_, fun bank i hi => ?_⟩
  · rw [site_setEncoder]
    exact .refl _
  · rw [site_setEncoder] at hi
    exact getLsbD_setEncoder (h.freeOf hi) active

/-- What a binding leaves: no encoder, or one with a reserved pin. -/
theorem bindEncoder_cases {encoder : Option ExternalEncoder} {outcome : Outcome}
    (hbind : s.bindEncoder encoder devices answers = some outcome) :
    outcome.outputs.remoteRadio = s.remoteRadio ∧ outcome.outputs.encoder = encoder ∧
      (encoder = none ∧ outcome.outputs.site = s.site ∨ ∃ e site, encoder = some e ∧
        (s.site e.bank).reserve (e.mask.setWidth 32) = (site, true) ∧
        outcome.outputs.site = (s.setSite e.bank site).site) := by
  unfold OutputState.bindEncoder at hbind
  cases encoder with
  | none =>
    obtain rfl := Option.some.inj hbind
    exact ⟨remoteRadio_setEncoder false, rfl, .inl ⟨rfl, site_setEncoder false⟩⟩
  | some e =>
    simp only at hbind
    split at hbind
    · cases hbind
    · next site hres =>
      obtain rfl := Option.some.inj hbind
      rw [outputs_cancelPulses]
      refine ⟨?_, encoder_setEncoder false, .inr ⟨e, site, rfl, hres, ?_⟩⟩
      · exact (remoteRadio_setEncoder false).trans
          (remoteRadio_setEncoder (s := s.setSite e.bank site) false)
      · exact (site_setEncoder false).trans (site_setEncoder (s := s.setSite e.bank site) false)

theorem frames_bindEncoder {encoder : Option ExternalEncoder} {outcome : Outcome}
    (h : EncoderApart s) (hbind : s.bindEncoder encoder devices answers = some outcome) :
    Frames s outcome.outputs ∧ ∀ e, outcome.outputs.encoder = some e →
      (outcome.outputs.site e.bank).Spared (e.mask.setWidth 32) := by
  obtain ⟨-, hencoder, ⟨rfl, hsite⟩ | ⟨e, site, rfl, hres, hsite⟩⟩ := bindEncoder_cases hbind
  · refine ⟨⟨fun bank => by rw [hsite]; exact .refl _, fun bank i hi => ?_⟩, fun e he => ?_⟩
    · rw [hsite] at hi
      exact getLsbD_bindEncoder hbind (h.freeOf hi) fun _ he => by cases he
    · exact absurd (hencoder.symm.trans he) (by simp)
  · have hnarrows : Narrows (s.site e.bank) site := by
      have hn := @narrows_reserve (s.site e.bank) (e.mask.setWidth 32)
      rwa [hres] at hn
    have hspared := spared_reserve hres
    refine ⟨⟨fun bank => by rw [hsite]; exact narrows_setSite hnarrows bank, fun bank i hi => ?_⟩,
      fun e' he => ?_⟩
    · rw [hsite] at hi
      have hold := within_iff.mp (narrows_setSite hnarrows bank).safe i hi
      refine getLsbD_bindEncoder hbind (h.freeOf hold) ?_
      rintro e' he rfl
      obtain rfl := Option.some.inj he
      rw [site_setSite] at hi
      exact getLsbD_of_apart hspared.safe hi
    · obtain rfl := Option.some.inj (hencoder.symm.trans he)
      rw [hsite, site_setSite]
      exact hspared

/-! ## The radio and the channel -/

theorem frames_selectChannel (channel : U8) :
    Frames s (s.selectChannel channel devices answers).outputs := by
  have hn := @narrows_reserve (s.site .parallel) (parallelBinaryMask.setWidth 32)
  unfold OutputState.selectChannel
  split
  · next site hres =>
    rw [hres] at hn
    exact frames_setSite hn
  · next site hres =>
    rw [hres] at hn
    have hspared := spared_reserve hres
    simp only
    split
    · exact frames_setSite hn
    · split
      · exact frames_setSite hn
      · refine ⟨narrows_setSite hn, fun bank i hi => ?_⟩
        cases bank with
        | cm119 => rfl
        | parallel =>
          have hsafe : site.safeHighMask.getLsbD i = true := by
            rw [show site = (s.setSite .parallel site).site .parallel from (site_setSite site).symm]
            exact hi
          have hbit := getLsbD_of_apart hspared.safe hsafe
          exact getLsbD_selectChannel channel hbit

theorem frames_configureRemoteRadio (settings : RemoteRadio) :
    Frames s (s.configureRemoteRadio settings).1 := by
  have hn := @narrows_reserve (s.site .parallel) (parallelRtxControlMask.setWidth 32)
  unfold OutputState.configureRemoteRadio
  split <;> next site hres =>
    rw [hres] at hn
    exact ⟨narrows_setSite hn, fun bank i _ => by cases bank <;> rfl⟩

theorem frames_serviceRemoteRadio (logicalPtt : Bool)
    (hradio : s.remoteRadio.isSome = true →
      Apart (s.site .parallel).safeHighMask (parallelRtxControlMask.setWidth 32)) :
    Frames s (s.serviceRemoteRadio devices logicalPtt answers).outputs := by
  obtain ⟨parallel, dirty, ptt, heq, hpar⟩ := s.serviceRemoteRadio_spec devices logicalPtt answers
  rw [heq]
  refine ⟨fun _ => .refl _, fun bank i hi => ?_⟩
  cases bank with
  | cm119 => rfl
  | parallel =>
    obtain rfl | ⟨hsome, hpar⟩ := hpar
    · rfl
    · exact hpar i (getLsbD_of_apart (hradio hsome) hi)

/-! ## Retirement and preparation -/

/-- The level of a pin that the retirement leaves. -/
theorem getLsbD_retiredOutput {site : SiteBankState} {output : U8} {i : Nat} (hlt : i < 8) :
    (site.retiredOutput output).getLsbD i =
      (output.getLsbD i && !site.snapshot.claimedMask.getLsbD i || site.safeHighMask.getLsbD i) := by
  simp only [SiteBankState.retiredOutput, BitVec.getLsbD_setWidth, BitVec.getLsbD_or,
    BitVec.getLsbD_and, BitVec.getLsbD_not, hlt, show i < 32 by omega]
  simp

theorem output_retireSite (bank : SiteBank) :
    s.retireSite.output bank = (s.site bank).retiredOutput ((s.setEncoder false).output bank) := by
  have hsite := site_setEncoder (s := s) false
  show (((s.setEncoder false).retireBank .cm119).retireBank .parallel).output bank = _
  unfold retireBank
  cases bank with
  | cm119 =>
    rw [output_setOutput_of_ne _ (by simp), output_setSite, output_setOutput, hsite]
    rfl
  | parallel =>
    rw [output_setOutput, site_setOutput, site_setSite_of_ne _ (by simp), hsite,
      output_setOutput_of_ne _ (by simp), output_setSite]
    rfl

theorem narrows_retireSite (bank : SiteBank) : Narrows (s.site bank) (s.retireSite.site bank) := by
  have hsite := site_setEncoder (s := s) false
  show Narrows _ ((((s.setEncoder false).retireBank .cm119).retireBank .parallel).site bank)
  unfold retireBank
  cases bank with
  | cm119 =>
    rw [site_setOutput, site_setSite_of_ne _ (by simp), site_setOutput, site_setSite, hsite]
    exact narrows_retire _
  | parallel =>
    rw [site_setOutput, site_setSite, site_setOutput, site_setSite_of_ne _ (by simp), hsite]
    exact narrows_retire _

/-- Behind a retirement every safe level is high. -/
theorem allHigh_retireSite (hsafe : ∀ bank, Safe plan s bank) : AllHigh s.retireSite := by
  intro bank i hi
  have hold := within_iff.mp (narrows_retireSite bank).safe i hi
  have hlt : i < 8 := (hsafe bank).lt (within_iff.mp (hsafe bank).safe i hold)
  rw [output_retireSite, getLsbD_retiredOutput hlt, hold, Bool.or_true]

theorem safe_retireSite (hsafe : ∀ bank, Safe plan s bank) (bank : SiteBank) :
    Safe plan s.retireSite bank := by
  have hn := narrows_retireSite (s := s) bank
  have h := hsafe bank
  exact ⟨by rw [hn.outputs]; exact h.outputs, by rw [hn.claimed, hn.outputs]; exact h.claimed,
    by rw [hn.outputs]; exact hn.safe.trans h.safe, hn.free h.free,
    fun i hi _ => allHigh_retireSite hsafe bank i hi⟩

/-- A bank that was rebuilt: it claims nothing, and remembers some of the safe levels. -/
structure Rebuilt (plan : HardwarePlan) (s : OutputState) (bank : SiteBank)
    (site : SiteBankState) : Prop where
  claimed : site.snapshot.claimedMask = 0
  outputs : Within site.snapshot.outputMask ((plan.outputEnableMask bank).setWidth 32)
  within : Within site.safeHighMask site.snapshot.outputMask
  free : Apart site.safeHighMask site.snapshot.reservedMask
  safe : Within site.safeHighMask (s.site bank).safeHighMask

theorem rebuilt_new (next : Nat) (inputs initial : U32) {outputs reserved : U32}
    (h : Within outputs ((plan.outputEnableMask bank).setWidth 32)) :
    Rebuilt plan s bank ((SiteBankState.new next inputs outputs reserved initial).1.restoreSafeHigh
      (s.site bank).safeHigh) := by
  have hsafe := safeHighMask_new next inputs initial outputs reserved (s.site bank).safeHighMask
  refine ⟨rfl, h, hsafe.trans within_and_right, ?_, hsafe.trans within_and_left⟩
  refine (apart_or (Apart.symm ?_) (Apart.symm ?_)).symm
  · exact apart_zero.mono_left within_and_left
  · exact (apart_clear _ _).mono_left within_and_left

theorem prepareCm119_rebuilt (s : OutputState) (next : Nat) (plan : HardwarePlan)
    (devices : ServiceDevices) (answers : DeviceAnswers) :
    (∃ error next', s.prepareCm119 next plan devices answers = (s, next', .error error)) ∨
    ∃ site next', s.prepareCm119 next plan devices answers =
      (s.setSite .cm119 site, next', .ok ()) ∧ Rebuilt plan s .cm119 site := by
  unfold prepareCm119
  simp only
  split
  · exact .inr ⟨_, _, rfl, rebuilt_new _ _ _ within_zero⟩
  · split
    · exact .inl ⟨_, _, rfl⟩
    · exact .inr ⟨_, _, rfl, rebuilt_new _ _ _ within_and_right⟩

theorem prepareParallel_rebuilt (s : OutputState) (next : Nat) (plan : HardwarePlan)
    (devices : ServiceDevices) (answers : DeviceAnswers) :
    (∃ error next', s.prepareParallel next plan devices answers = (s, next', .error error)) ∨
    s.prepareParallel next plan devices answers = (s, next, .ok ()) ∧
      (devices.parallel = none ∨ plan.parallel = none) ∨
    ∃ site next', s.prepareParallel next plan devices answers =
      (s.setSite .parallel site, next', .ok ()) ∧ Rebuilt plan s .parallel site ∧
      site.Spared (plan.pttMask.setWidth 32) ∧
      (s.remoteRadio.isSome = true → site.Spared (parallelRtxControlMask.setWidth 32)) := by
  unfold prepareParallel
  simp only
  split
  · next device parallel hdevice hplan =>
    split
    · exact .inl ⟨_, _, rfl⟩
    · refine .inr (.inr ⟨_, _, rfl, rebuilt_new _ _ _ ?_, spared_new _ _ _ ?_ _, fun hradio =>
        spared_new _ _ _ ?_ _⟩)
      · unfold HardwarePlan.outputEnableMask
        rw [hplan]
        exact within_and_right
      · refine within_and_left.trans (within_setWidth ?_)
        unfold HardwarePlan.pttMask
        rw [hplan]
        exact within_or_left
      · refine within_and_left.trans (within_setWidth ?_)
        rw [if_pos hradio]
        exact within_or_right
  · next hnone =>
    refine .inr (.inl ⟨rfl, ?_⟩)
    cases hdevice : devices.parallel with
    | none => exact .inl rfl
    | some device =>
      cases hplan : plan.parallel with
      | none => exact .inr rfl
      | some parallel => exact (hnone device parallel hdevice hplan).elim

/-- What the phases have in common. -/
structure Kept (plan : HardwarePlan) (s : OutputState) : Prop where
  safe : ∀ bank, Safe plan s bank
  ptt : (s.site .parallel).Spared (plan.pttMask.setWidth 32)
  encoder : EncoderApart s

/-- A bank that was rebuilt in a state where every safe level is high. -/
theorem Kept.setSite (h : Kept plan s) (hall : AllHigh s) {site : SiteBankState}
    (hr : Rebuilt plan s bank site)
    (hptt : bank = .parallel → site.Spared (plan.pttMask.setWidth 32)) :
    Kept plan (s.setSite bank site) ∧ AllHigh (s.setSite bank site) := by
  have hall' : AllHigh (s.setSite bank site) := by
    intro b i hi
    rw [output_setSite]
    by_cases hb : b = bank
    · subst hb
      rw [site_setSite] at hi
      exact hall b i (within_iff.mp hr.safe i hi)
    · rw [site_setSite_of_ne _ hb] at hi
      exact hall b i hi
  refine ⟨⟨fun b => ?_, ?_, fun e he => ?_⟩, hall'⟩
  · by_cases hb : b = bank
    · subst hb
      refine ⟨?_, ?_, ?_, ?_, fun i hi _ => hall' b i hi⟩ <;> rw [site_setSite]
      · exact hr.outputs
      · rw [hr.claimed]
        exact within_zero
      · exact hr.within
      · exact hr.free
    · have hsafe := h.safe b
      refine ⟨?_, ?_, ?_, ?_, fun i hi _ => hall' b i hi⟩ <;> rw [site_setSite_of_ne _ hb]
      · exact hsafe.outputs
      · exact hsafe.claimed
      · exact hsafe.safe
      · exact hsafe.free
  · by_cases hb : bank = .parallel
    · subst hb
      rw [site_setSite]
      exact hptt rfl
    · rw [site_setSite_of_ne _ (Ne.symm hb)]
      exact h.ptt
  · by_cases hb : e.bank = bank
    · subst hb
      rw [site_setSite]
      exact (h.encoder e he).mono_left hr.safe
    · rw [site_setSite_of_ne _ hb]
      exact h.encoder e he

/-- The state of a prepared owner. -/
structure Held (plan : HardwarePlan) (s : OutputState) : Prop extends Kept plan s where
  encoderSpared : ∀ e, s.encoder = some e → (s.site e.bank).Spared (e.mask.setWidth 32)
  radio : s.remoteRadio.isSome = true →
    (s.site .parallel).Spared (parallelRtxControlMask.setWidth 32)

/-- A bank without outputs spares every pin. -/
theorem Safe.spared (h : Safe plan s bank) (hplan : plan.outputEnableMask bank = 0) (m : U32) :
    (s.site bank).Spared m := by
  have hzero : Within (s.site bank).snapshot.outputMask 0 := by
    have ho := h.outputs
    rw [hplan] at ho
    exact ho
  exact ⟨apart_zero.mono_left (h.claimed.trans hzero),
    (within_and_right.trans hzero).trans within_zero,
    apart_zero.mono_left (h.safe.trans hzero)⟩

/-- Without a parallel port among the devices, the plan has no outputs there. -/
theorem outputs_zero_of_unopened (hopen : devices.justOpened plan = true)
    (hnone : devices.parallel = none ∨ plan.parallel = none) :
    plan.outputEnableMask .parallel = 0 := by
  have hplan : plan.parallel = none := by
    unfold ServiceDevices.justOpened at hopen
    rcases hnone with hnone | hnone
    · cases hp : plan.parallel with
      | none => rfl
      | some parallel => simp [hnone, hp] at hopen
    · exact hnone
  unfold HardwarePlan.outputEnableMask
  rw [hplan]
  rfl

/-- A binding of the encoder behind the rebuilt banks. -/
theorem Kept.bindEncoder (h : Kept plan s)
    (hradio : s.remoteRadio.isSome = true →
      (s.site .parallel).Spared (parallelRtxControlMask.setWidth 32))
    {encoder : Option ExternalEncoder} {outcome : Outcome}
    (hbind : s.bindEncoder encoder devices answers = some outcome) : Held plan outcome.outputs := by
  obtain ⟨hframes, hspared⟩ := frames_bindEncoder h.encoder hbind
  obtain ⟨hremote, -⟩ := bindEncoder_cases hbind
  have hsettles : Settles plan s outcome.outputs := hframes.settles
  refine ⟨⟨fun bank => hsettles.safe bank (h.safe bank), hsettles.spared _ _ h.ptt,
    fun e he => (hspared e he).safe⟩, hspared, fun hr => ?_⟩
  rw [hremote] at hr
  exact hsettles.spared _ _ (hradio hr)

/-- A preparation keeps the safe levels, whether it succeeds or not. -/
theorem prepareSite_kept (h : Kept plan s) (hall : AllHigh s)
    (hopen : devices.justOpened plan = true) {next next' : Nat} {outcome : Outcome}
    (hprepare : s.prepareSite next plan devices answers = some (outcome, next')) :
    Kept plan outcome.outputs ∧ AllHigh outcome.outputs ∧
      outcome.outputs.remoteRadio = s.remoteRadio ∧
      Within (outcome.outputs.site .parallel).safeHighMask (s.site .parallel).safeHighMask ∧
      (outcome.result = .ok () → Held plan outcome.outputs) := by
  have hbound : ∀ {a : OutputState}, Kept plan a → AllHigh a → a.remoteRadio = s.remoteRadio →
      Within (a.site .parallel).safeHighMask (s.site .parallel).safeHighMask →
      (a.remoteRadio.isSome = true →
        (a.site .parallel).Spared (parallelRtxControlMask.setWidth 32)) →
      a.bindEncoder a.encoder devices answers = some outcome →
      Kept plan outcome.outputs ∧ AllHigh outcome.outputs ∧
        outcome.outputs.remoteRadio = s.remoteRadio ∧
        Within (outcome.outputs.site .parallel).safeHighMask (s.site .parallel).safeHighMask ∧
        (outcome.result = .ok () → Held plan outcome.outputs) := by
    intro a ha halla hremote hwithin hradio hbind
    have hheld := ha.bindEncoder hradio hbind
    obtain ⟨hframes, -⟩ := frames_bindEncoder ha.encoder hbind
    obtain ⟨hsame, -⟩ := bindEncoder_cases hbind
    exact ⟨hheld.toKept, hframes.allHigh halla, hsame.trans hremote,
      (hframes.narrows .parallel).safe.trans hwithin, fun _ => hheld⟩
  unfold prepareSite at hprepare
  rcases s.prepareCm119_rebuilt next plan devices answers with
    ⟨error, next₁, heq⟩ | ⟨site, next₁, heq, hrebuilt⟩
  · rw [heq] at hprepare
    obtain ⟨rfl, -⟩ := Prod.mk.inj (Option.some.inj hprepare)
    exact ⟨h, hall, rfl, within_refl, fun hr => by cases hr⟩
  rw [heq] at hprepare
  obtain ⟨h₁, hall₁⟩ := h.setSite hall hrebuilt fun hb => by cases hb
  have hsame : (s.setSite .cm119 site).site .parallel = s.site .parallel :=
    site_setSite_of_ne _ (by simp)
  simp only at hprepare
  rcases (s.setSite .cm119 site).prepareParallel_rebuilt next₁ plan devices answers with
    ⟨error, next₂, heq⟩ | ⟨heq, hnone⟩ | ⟨site', next₂, heq, hrebuilt', hptt, hradio⟩
  · rw [heq] at hprepare
    obtain ⟨rfl, -⟩ := Prod.mk.inj (Option.some.inj hprepare)
    exact ⟨h₁, hall₁, rfl, hsame ▸ within_refl, fun hr => by cases hr⟩
  · rw [heq] at hprepare
    obtain ⟨outcome', hbind, hout⟩ := Option.map_eq_some_iff.mp hprepare
    obtain ⟨rfl, -⟩ := Prod.mk.inj hout
    refine hbound h₁ hall₁ rfl (hsame ▸ within_refl) (fun _ => ?_) hbind
    exact (h₁.safe .parallel).spared (outputs_zero_of_unopened hopen hnone) _
  · rw [heq] at hprepare
    obtain ⟨outcome', hbind, hout⟩ := Option.map_eq_some_iff.mp hprepare
    obtain ⟨rfl, -⟩ := Prod.mk.inj hout
    obtain ⟨h₂, hall₂⟩ := h₁.setSite hall₁ hrebuilt' fun _ => hptt
    have hself : ((s.setSite .cm119 site).setSite .parallel site').site .parallel = site' :=
      site_setSite site'
    refine hbound h₂ hall₂ rfl ?_ (fun hr => ?_) hbind
    · rw [hself, ← hsame]
      exact hrebuilt'.safe
    · rw [hself]
      exact hradio hr

end OutputState
end Driver
end UsbRadioPlus
