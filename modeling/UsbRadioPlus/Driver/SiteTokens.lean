import UsbRadioPlus.Driver.PinExclusivity
import UsbRadioPlus.Sys.Tokens

/-!
# Stale commands of a site

The generations of the two banks are tokens of the process: a binding and a preparation take one, a
retirement lets it go, and nothing else touches them (`issues_step`). So a generation that a bank does
not have any more comes back in no run, and a command that still carries it is rejected with the error
counter as its only trace.
-/

namespace UsbRadioPlus
namespace Driver

open Sys Sys.Mask SiteBankState

/-! ## The tokens of the output state -/

namespace OutputState

variable {s s' : OutputState} {bank : SiteBank} {next next' : Nat}

/-- The generations that own the banks, and the generation counter. -/
def tokens (s : OutputState) (next : Nat) : TokenStore SiteBank :=
  ⟨fun bank => (s.site bank).snapshot.generation, next⟩

/-- A run of the tokens. -/
def Issues (t t' : TokenStore SiteBank) : Prop :=
  ∃ acts, (Sys.tokens SiteBank WORD).run t acts = some t'

theorem Issues.refl (t : TokenStore SiteBank) : Issues t t := ⟨[], rfl⟩

theorem Issues.of_eq {t t' : TokenStore SiteBank} (h : t' = t) : Issues t t' := h ▸ .refl t

theorem Issues.trans {t t' t'' : TokenStore SiteBank} (h : Issues t t') (h' : Issues t' t'') :
    Issues t t'' := by
  obtain ⟨acts, hrun⟩ := h
  obtain ⟨acts', hrun'⟩ := h'
  exact ⟨acts ++ acts', System.run_append.mpr ⟨t', hrun, hrun'⟩⟩

theorem issues_step (t : TokenStore SiteBank) (act : TokenAct SiteBank) :
    Issues t (t.step WORD act) := ⟨[act], rfl⟩

theorem tokens_of_site (h : s'.site = s.site) (next : Nat) : s'.tokens next = s.tokens next := by
  rw [tokens, tokens, h]

theorem tokens_setSite (site : SiteBankState) (next next' : Nat) :
    (s.setSite bank site).tokens next' =
      (s.tokens next).give bank site.snapshot.generation next' := by
  refine congrArg (TokenStore.mk · next') (funext fun b => ?_)
  by_cases hb : b = bank
  · subst hb
    rw [site_setSite, Function.update_self]
  · rw [site_setSite_of_ne site hb, Function.update_of_ne hb]
    rfl

/-- A change of a bank that leaves its generation. -/
theorem tokens_setSite_of_same {site : SiteBankState}
    (h : site.snapshot.generation = (s.site bank).snapshot.generation) (next : Nat) :
    (s.setSite bank site).tokens next = s.tokens next := by
  rw [tokens_setSite site next next, h]
  exact congrArg (TokenStore.mk · next) (Function.update_eq_self bank _)

theorem tokens_reject (error : SiteError) (next : Nat) :
    (s.setSite bank ((s.site bank).reject error)).tokens next = s.tokens next :=
  @tokens_setSite_of_same s bank ((s.site bank).reject error) rfl next

theorem generation_reserve (site : SiteBankState) (mask : U32) :
    (site.reserve mask).1.snapshot.generation = site.snapshot.generation := by
  unfold reserve
  split <;> rfl

/-! ## The operations -/

theorem tokens_restore (state : HardwareTransientState) (plan : HardwarePlan) (next : Nat) :
    (s.restore state plan).tokens next = s.tokens next := by
  rw [tokens, tokens, (s.restore_spec state plan).1]
  rfl

theorem issues_siteBind (next : Nat) (binding : SiteDigitalBinding) (devices : ServiceDevices)
    (answers : DeviceAnswers) :
    Issues (s.tokens next) ((s.siteBind next bank binding devices answers).1.outputs.tokens
      (s.siteBind next bank binding devices answers).2) := by
  unfold siteBind
  simp only
  split
  · exact .of_eq (tokens_reject _ next)
  · split
    · exact .of_eq (tokens_reject _ next)
    · split
      · exact .of_eq (tokens_reject _ next)
      next site output next' hbind =>
        have htoken : (site.snapshot.generation, next') = takeToken WORD next := by
          unfold SiteBankState.bind at hbind
          split at hbind
          · cases hbind
          · simp only at hbind
            split at hbind
            · cases hbind
            · simp only [Except.ok.injEq, Prod.mk.injEq] at hbind
              obtain ⟨rfl, -, rfl⟩ := hbind
              rfl
        have hissue := issues_step (s.tokens next) (.issue bank)
        rw [TokenStore.step, show (s.tokens next).next = next from rfl, ← htoken,
          ← tokens_setSite site next next'] at hissue
        rwa [tokens_of_site (site_setOutput output)]

theorem tokens_sitePublish (request : SiteDigitalRequest) (next : Nat) :
    (s.sitePublish bank request).tokens next = s.tokens next := by
  unfold sitePublish
  simp only
  split
  · exact tokens_reject _ next
  next site output happly =>
    rw [tokens_of_site (site_setOutput output)]
    exact tokens_setSite_of_same (apply_spec happly).1.generation next

theorem tokens_apply {command : OutputCommand} {devices : ServiceDevices}
    {answers : DeviceAnswers} {outcome : Outcome}
    (h : s.apply command devices answers = some outcome) (next : Nat) :
    outcome.outputs.tokens next = s.tokens next := by
  unfold apply at h
  simp only at h
  split at h
  · obtain rfl := Option.some.inj h
    rfl
  · split at h
    · obtain rfl := Option.some.inj h
      exact tokens_reject _ next
    · split at h
      · obtain rfl := Option.some.inj h
        rfl
      · cases h
      · split at h
        · obtain rfl := Option.some.inj h
          rfl
        · obtain rfl := Option.some.inj h
          refine (tokens_setSite_of_same ?_ next).trans (tokens_of_site (site_setOutput _) next)
          rw [site_setOutput]
          rfl

theorem tokens_reserved {mask : U32} {site : SiteBankState} {reserved : Bool}
    (h : (s.site bank).reserve mask = (site, reserved)) (next : Nat) :
    (s.setSite bank site).tokens next = s.tokens next := by
  have hgeneration := generation_reserve (s.site bank) mask
  rw [h] at hgeneration
  exact tokens_setSite_of_same hgeneration next

theorem tokens_selectChannel (channel : U8) (devices : ServiceDevices) (answers : DeviceAnswers)
    (next : Nat) :
    (s.selectChannel channel devices answers).outputs.tokens next = s.tokens next := by
  unfold selectChannel
  split
  next hres => exact tokens_reserved hres next
  next hres =>
    simp only
    split
    · exact tokens_reserved hres next
    · split
      · exact tokens_reserved hres next
      · exact tokens_reserved hres next

theorem tokens_configureRemoteRadio (settings : RemoteRadio) (next : Nat) :
    (s.configureRemoteRadio settings).1.tokens next = s.tokens next := by
  unfold configureRemoteRadio
  split
  next hres => exact tokens_reserved hres next
  next hres => exact tokens_reserved hres next

theorem tokens_setEncoder (active : Bool) (next : Nat) :
    (s.setEncoder active).tokens next = s.tokens next := tokens_of_site (site_setEncoder active) next

theorem tokens_bindEncoder {encoder : Option ExternalEncoder} {devices : ServiceDevices}
    {answers : DeviceAnswers} {outcome : Outcome}
    (h : s.bindEncoder encoder devices answers = some outcome) (next : Nat) :
    outcome.outputs.tokens next = s.tokens next := by
  cases encoder with
  | none =>
    obtain rfl := Option.some.inj h
    exact tokens_setEncoder false next
  | some encoder =>
    unfold bindEncoder at h
    simp only at h
    split at h
    · cases h
    next site hres =>
      obtain rfl := Option.some.inj h
      rw [outputs_cancelPulses]
      exact (tokens_setEncoder false next).trans
        ((tokens_setEncoder false next).trans (tokens_reserved hres next))

theorem issues_retireSite (s : OutputState) (next : Nat) :
    Issues (s.tokens next) (s.retireSite.tokens next) := by
  have hbank (s : OutputState) (bank : SiteBank) :
      Issues (s.tokens next) ((s.retireBank bank).tokens next) := by
    have hdrop := issues_step (s.tokens next) (.drop bank)
    rw [retireBank, tokens_of_site (site_setOutput _), tokens_setSite _ next next]
    exact hdrop
  have hbanks := (hbank (s.setEncoder false) .cm119).trans (hbank _ .parallel)
  rwa [tokens_setEncoder] at hbanks

theorem issues_setSite_new (next : Nat) (inputs outputs reserved initial : U32) (high : U8) :
    Issues (s.tokens next) ((s.setSite bank ((SiteBankState.new next inputs outputs reserved
      initial).1.restoreSafeHigh high)).tokens (SiteBankState.new next inputs outputs reserved
        initial).2) := by
  rw [tokens_setSite _ next]
  exact issues_step (s.tokens next) (.issue bank)

theorem issues_prepareCm119 (s : OutputState) (next : Nat) (plan : HardwarePlan)
    (devices : ServiceDevices) (answers : DeviceAnswers) :
    Issues (s.tokens next) ((s.prepareCm119 next plan devices answers).1.tokens
      (s.prepareCm119 next plan devices answers).2.1) := by
  unfold prepareCm119
  simp only
  split
  · exact issues_setSite_new next ..
  · split
    · exact .refl _
    · exact issues_setSite_new next ..

theorem issues_prepareParallel (s : OutputState) (next : Nat) (plan : HardwarePlan)
    (devices : ServiceDevices) (answers : DeviceAnswers) :
    Issues (s.tokens next) ((s.prepareParallel next plan devices answers).1.tokens
      (s.prepareParallel next plan devices answers).2.1) := by
  unfold prepareParallel
  simp only
  split
  · split
    · exact .refl _
    · exact issues_setSite_new next ..
  · exact .refl _

theorem issues_prepareSite {plan : HardwarePlan} {devices : ServiceDevices}
    {answers : DeviceAnswers} {outcome : Outcome}
    (h : s.prepareSite next plan devices answers = some (outcome, next')) :
    Issues (s.tokens next) (outcome.outputs.tokens next') := by
  have hcm119 := issues_prepareCm119 s next plan devices answers
  unfold prepareSite at h
  split at h
  next heq =>
    rw [heq] at hcm119
    obtain ⟨rfl, rfl⟩ := Prod.mk.inj (Option.some.inj h)
    exact hcm119
  next first next₁ heq =>
    rw [heq] at hcm119
    have hparallel := issues_prepareParallel first next₁ plan devices answers
    split at h
    next heq' =>
      rw [heq'] at hparallel
      obtain ⟨rfl, rfl⟩ := Prod.mk.inj (Option.some.inj h)
      exact hcm119.trans hparallel
    next second next₂ heq' =>
      rw [heq'] at hparallel
      obtain ⟨outcome', hbind, hout⟩ := Option.map_eq_some_iff.mp h
      obtain ⟨rfl, rfl⟩ := Prod.mk.inj hout
      rw [tokens_bindEncoder hbind]
      exact hcm119.trans hparallel

end OutputState
/-- The bank and the generation of a site command. -/
def OutputAct.siteCommand : OutputAct → Option (SiteBank × Nat)
  | .siteBind bank binding _ => some (bank, binding.generation)
  | .sitePublish bank request => some (bank, request.generation)
  | _ => none

namespace OutputRun

open OutputState

variable {plan : HardwarePlan} {s s' : OutputRun} {act : OutputAct}

/-- The tokens of a run. -/
def tokens (s : OutputRun) : TokenStore SiteBank := s.outputs.tokens s.next

theorem issues_operate (h : s.operate plan act = some s') : Issues s.tokens s'.tokens := by
  cases act with
  | siteBind bank binding answers =>
    obtain rfl := Option.some.inj h
    exact issues_siteBind s.next binding s.devices answers
  | sitePublish bank request =>
    obtain rfl := Option.some.inj h
    exact .of_eq (tokens_sitePublish request s.next)
  | apply command answers =>
    obtain ⟨outcome, happly, rfl⟩ := Option.map_eq_some_iff.mp h
    exact .of_eq (tokens_apply happly s.next)
  | selectChannel channel answers =>
    obtain rfl := Option.some.inj h
    exact .of_eq (tokens_selectChannel channel s.devices answers s.next)
  | configureRemoteRadio settings =>
    obtain rfl := Option.some.inj h
    exact .of_eq (tokens_configureRemoteRadio settings s.next)
  | serviceRemoteRadio logicalPtt answers =>
    obtain rfl := Option.some.inj h
    obtain ⟨parallel, dirty, ptt, heq, -⟩ :=
      s.outputs.serviceRemoteRadio_spec s.devices logicalPtt answers
    exact .of_eq (tokens_of_site (congrArg OutputState.site heq) s.next)
  | serviceClipLed clipEvents now answers =>
    obtain rfl := Option.some.inj h
    obtain ⟨seen, till, heq⟩ :=
      s.outputs.serviceClipLed_spec s.devices plan.clipLedMask clipEvents now answers
    exact .of_eq (tokens_of_site (congrArg OutputState.site heq) s.next)
  | setEncoder active =>
    obtain rfl := Option.some.inj h
    exact .of_eq (tokens_setEncoder active s.next)
  | bindEncoder encoder answers =>
    obtain ⟨outcome, hbind, rfl⟩ := Option.map_eq_some_iff.mp h
    exact .of_eq (tokens_bindEncoder hbind s.next)
  | restore state =>
    obtain rfl := Option.some.inj h
    exact .of_eq (tokens_restore state plan s.next)
  | observe bank value now =>
    obtain rfl := Option.some.inj h
    exact .of_eq (tokens_setSite_of_same (sameClaims_observe value now).generation s.next)
  | submitted bank value =>
    obtain rfl := Option.some.inj h
    exact .of_eq (tokens_setSite_of_same (sameClaims_submitted value).generation s.next)
  | serviced bank success =>
    obtain rfl := Option.some.inj h
    exact .of_eq (tokens_setSite_of_same (sameClaims_serviced success).generation s.next)
  | retireSite | prepareSite _ _ | elsewhere => cases h

theorem issues_prepare {devices : ServiceDevices} {answers : DeviceAnswers}
    (h : s.prepare plan devices answers = some s') : Issues s.tokens s'.tokens := by
  unfold OutputRun.prepare at h
  split at h
  · obtain ⟨⟨outcome, next⟩, hprepare, rfl⟩ := Option.map_eq_some_iff.mp h
    exact issues_prepareSite hprepare
  · cases h

/-- Every step is a run of the tokens. -/
theorem issues_step (h : s.step plan act = some s') : Issues s.tokens s'.tokens := by
  unfold OutputRun.step at h
  split at h
  · obtain rfl := Option.some.inj h
    exact OutputState.issues_step s.tokens .elsewhere
  · obtain rfl := Option.some.inj h
    exact .of_eq (tokens_restore _ plan s.next)
  · exact issues_prepare h
  · obtain rfl := Option.some.inj h
    exact issues_retireSite s.outputs s.next
  · exact issues_prepare h
  · exact issues_prepare h
  · obtain rfl := Option.some.inj h
    exact issues_retireSite s.outputs s.next
  · obtain rfl := Option.some.inj h
    exact issues_retireSite s.outputs s.next
  · exact issues_operate h
  · exact issues_operate h
  · cases h

theorem fair_new (next : Nat) (plan : HardwarePlan) (remoteRadio : Option RemoteRadio) :
    ((OutputState.new next plan remoteRadio).1.tokens
      (OutputState.new next plan remoteRadio).2).Fair := by
  have hnone : (⟨fun _ => 0, next⟩ : TokenStore SiteBank).Fair :=
    ⟨fun _ => .inl rfl, fun _ _ _ h => absurd rfl h⟩
  have hcm119 := (hnone.step WORD (.issue .cm119)).1
  have hboth := (hcm119.step WORD (.issue .parallel)).1
  refine cast (congrArg TokenStore.Fair ?_) hboth
  refine congrArg₂ TokenStore.mk (funext fun bank => ?_) rfl
  cases bank <;> rfl

/-- The banks of a run are owners of tokens. -/
theorem tokens_simulation (plan : HardwarePlan) :
    Simulation (outputRuns plan) (Sys.tokens SiteBank WORD) fun s t => t = s.tokens where
  init := by
    rintro s ⟨next, remoteRadio, devices, rfl⟩
    exact ⟨_, fair_new next plan remoteRadio, rfl⟩
  step := by
    rintro s act s' t rfl hstep
    obtain ⟨acts, hrun⟩ := issues_step hstep
    exact ⟨acts, _, hrun, rfl⟩

/-! ## Commands -/

/-- Nothing has changed but the error counters of a bank. -/
structure Undisturbed (s s' : OutputRun) : Prop where
  output : ∀ bank, s'.outputs.output bank = s.outputs.output bank
  claims : ∀ bank, SameClaims (s.outputs.site bank) (s'.outputs.site bank)
  safeHigh : ∀ bank, (s'.outputs.site bank).safeHighMask = (s.outputs.site bank).safeHighMask
  devices : s'.devices = s.devices
  next : s'.next = s.next

theorem operate_of_step (h : s.step plan act = some s') (hcommand : act.siteCommand.isSome) :
    s.operate plan act = some s' := by
  cases act <;> cases hcommand <;> cases hphase : s.phase <;>
    simp only [step, hphase, reduceCtorEq] at h <;> exact h

theorem undisturbed_reject (s : OutputRun) (bank : SiteBank) (error : SiteError) :
    s.Undisturbed { s with
      outputs := s.outputs.setSite bank ((s.outputs.site bank).reject error) } where
  output := output_setSite _
  claims b := by
    by_cases hb : b = bank
    · subst hb
      simp only [site_setSite]
      exact sameClaims_reject error
    · simp only [site_setSite_of_ne _ hb]
      exact sameClaims_refl _
  safeHigh b := by
    by_cases hb : b = bank
    · subst hb
      simp only [site_setSite]
      rfl
    · simp only [site_setSite_of_ne _ hb]
  devices := rfl
  next := rfl

theorem validateGeneration_of_stale {site : SiteBankState} {generation : Nat}
    (h : generation = 0 ∨ generation ≠ site.snapshot.generation) :
    site.validateGeneration generation = .error .staleGeneration := by
  rw [validateGeneration, if_neg]
  rintro ⟨hne, heq⟩
  rcases h with hzero | hold
  · exact hne hzero
  · exact hold heq

/-- A stale command is rejected. -/
theorem undisturbed_of_stale {bank : SiteBank} {generation : Nat}
    (hcommand : act.siteCommand = some (bank, generation))
    (hstale : generation = 0 ∨ generation ≠ (s.outputs.site bank).snapshot.generation)
    (h : s.step plan act = some s') : s.Undisturbed s' := by
  have hop := operate_of_step h (by rw [hcommand]; rfl)
  have hreject := undisturbed_reject s bank .staleGeneration
  cases act with
  | siteBind bank binding answers =>
    obtain ⟨rfl, rfl⟩ := Prod.mk.inj (Option.some.inj hcommand)
    obtain rfl := Option.some.inj hop
    have hvalid : (s.outputs.site bank).validateBinding binding = .error .staleGeneration := by
      rw [validateBinding, validateGeneration_of_stale hstale]
    simp only [siteBind, hvalid]
    exact hreject
  | sitePublish bank request =>
    obtain ⟨rfl, rfl⟩ := Prod.mk.inj (Option.some.inj hcommand)
    obtain rfl := Option.some.inj hop
    have hvalid : (s.outputs.site bank).apply request (s.outputs.output bank) =
        .error .staleGeneration := by
      rw [SiteBankState.apply, validateRequest, validateGeneration_of_stale hstale]
    simp only [sitePublish, hvalid]
    exact hreject
  | _ => cases hcommand

/-- A publication changes only pins that it selects and the site claims. -/
theorem getLsbD_sitePublish (s : OutputState) (bank : SiteBank) (request : SiteDigitalRequest)
    (i : Nat) (hne : ((s.sitePublish bank request).output bank).getLsbD i ≠
      (s.output bank).getLsbD i) :
    request.outputMask.getLsbD i = true ∧ (s.claimed bank).getLsbD i = true := by
  unfold sitePublish at hne
  simp only at hne
  split at hne
  · rw [output_setSite] at hne
    exact absurd rfl hne
  next site output happly =>
    obtain ⟨-, -, hclaimed, hhigh, rfl⟩ := apply_spec happly
    have hselected : request.outputMask.getLsbD i = true := by
      by_contra hnot
      have hoff := Bool.eq_false_iff.mpr hnot
      have hlow : request.highMask.getLsbD i = false := hhigh.getLsbD_eq_false hoff
      rw [output_setOutput] at hne
      refine hne ?_
      by_cases hlt : i < 8
      · simp only [BitVec.getLsbD_setWidth, BitVec.getLsbD_or, BitVec.getLsbD_and,
          BitVec.getLsbD_not, hoff, hlow, hlt, Nat.lt_of_lt_of_le hlt (by decide : 8 ≤ 32),
          decide_true, Bool.true_and, Bool.not_false, Bool.and_true, Bool.or_false]
      · rw [BitVec.getLsbD_of_ge _ _ (Nat.le_of_not_lt hlt),
          BitVec.getLsbD_of_ge _ _ (Nat.le_of_not_lt hlt)]
    exact ⟨hselected, within_iff.mp hclaimed i hselected⟩

/-- A publication is of its bank alone, and leaves its claims and safe levels. -/
theorem sitePublish_frame (s : OutputState) (bank : SiteBank) (request : SiteDigitalRequest) :
    (∀ b, b ≠ bank → (s.sitePublish bank request).output b = s.output b) ∧
      (∀ b, SameClaims (s.site b) ((s.sitePublish bank request).site b)) ∧
      ∀ b, ((s.sitePublish bank request).site b).safeHighMask = (s.site b).safeHighMask := by
  have hset : ∀ site : SiteBankState, SameClaims (s.site bank) site →
      site.safeHighMask = (s.site bank).safeHighMask →
      ∀ b, SameClaims (s.site b) ((s.setSite bank site).site b) ∧
        ((s.setSite bank site).site b).safeHighMask = (s.site b).safeHighMask := by
    intro site hsame hsafe b
    by_cases hb : b = bank
    · subst hb
      rw [site_setSite]
      exact ⟨hsame, hsafe⟩
    · rw [site_setSite_of_ne site hb]
      exact ⟨sameClaims_refl _, rfl⟩
  unfold sitePublish
  simp only
  split
  next error _ =>
    have hboth := hset ((s.site bank).reject error) (sameClaims_reject _) rfl
    exact ⟨fun b _ => output_setSite ((s.site bank).reject error) b, fun b => (hboth b).1, fun b => (hboth b).2⟩
  next site output happly =>
    obtain ⟨hsame, hsafe, -⟩ := apply_spec happly
    have hboth := hset site hsame hsafe
    rw [site_setOutput]
    exact ⟨fun b hb => (output_setOutput_of_ne _ hb).trans (output_setSite _ b),
      fun b => (hboth b).1, fun b => (hboth b).2⟩

/-! ## The contract -/

/-- What site commands can do in a state, and behind every run from it. -/
structure SiteContract (plan : HardwarePlan) (s : OutputRun) : Prop where
  /-- A command with another generation than the bank's, or with none, has no effect. -/
  stale : ∀ act s' bank generation, act.siteCommand = some (bank, generation) →
    generation = 0 ∨ generation ≠ (s.outputs.site bank).snapshot.generation →
    s.step plan act = some s' → s.Undisturbed s'
  /-- The generations of the banks were given once. -/
  fair : s.tokens.Fair
  /-- A bank has the generation that it has now, or none, or one that was never given before. -/
  later : ∀ acts s', (outputRuns plan).run s acts = some s' → s.tokens.Later s'.tokens
  /-- A command that is queued with a generation the bank does not have comes too late. -/
  queued : ∀ acts s' act s'' bank generation, (outputRuns plan).run s acts = some s' →
    act.siteCommand = some (bank, generation) →
    generation < s.next → generation ≠ (s.outputs.site bank).snapshot.generation →
    s'.step plan act = some s'' → s'.Undisturbed s''
  /-- A publication changes pins that are claimed and selected. -/
  publish : ∀ bank request s', s.step plan (.sitePublish bank request) = some s' →
    (∀ b, b ≠ bank → s'.outputs.output b = s.outputs.output b) ∧
    (∀ b, SameClaims (s.outputs.site b) (s'.outputs.site b)) ∧
    (∀ b, (s'.outputs.site b).safeHighMask = (s.outputs.site b).safeHighMask) ∧
    ∀ i, (s'.outputs.output bank).getLsbD i ≠ (s.outputs.output bank).getLsbD i →
      request.outputMask.getLsbD i = true ∧ (s.outputs.claimed bank).getLsbD i = true

/-- **Stale site commands have no effect** in every run of binds, publications, retirements and
recoveries. -/
theorem siteContract_of_reach (h : (outputRuns plan).Reach s) : SiteContract plan s := by
  obtain ⟨t, ht, rfl⟩ := (tokens_simulation plan).reach h
  have hfair : s.tokens.Fair := TokenStore.fair_inductive.reach ht
  have hlater : ∀ acts s', (outputRuns plan).run s acts = some s' → s.tokens.Later s'.tokens := by
    intro acts s' hrun
    obtain ⟨acts', t', hrun', rfl⟩ := (tokens_simulation plan).run rfl hrun
    exact (hfair.run hrun').2
  refine ⟨fun act s' bank generation => undisturbed_of_stale, hfair, hlater, ?_, ?_⟩
  · intro acts s' act s'' bank generation hrun hcommand hgiven hne hstep
    refine undisturbed_of_stale hcommand (or_iff_not_imp_left.mpr fun hzero heq => ?_) hstep
    rcases (hlater acts s' hrun).held bank with hsame | hnone | hnew
    · exact hne (heq.trans hsame)
    · exact hzero (heq.trans hnone)
    · have : s.next ≤ generation := heq ▸ hnew
      omega
  · intro bank request s' hstep
    have hop := operate_of_step hstep rfl
    obtain rfl := Option.some.inj hop
    obtain ⟨hother, hclaims, hsafe⟩ := sitePublish_frame s.outputs bank request
    exact ⟨hother, hclaims, hsafe, getLsbD_sitePublish s.outputs bank request⟩

/-- The site claims a pin of the port, is retired, and the banks are rebuilt: the generation of the
claim has gone. -/
theorem siteContract_of_recovery : ∃ s : OutputRun, SiteContract portPlan s ∧
    (s.outputs.site .parallel).snapshot.generation = 7 ∧ s.next = 8 := by
  obtain ⟨s, hrun, hgeneration, hnext⟩ : ∃ s, (outputRuns portPlan).run portStart
      [.prepareSite portDevices allOk, claim 4 1, .retireSite, .prepareSite portDevices allOk] =
        some s ∧ (s.outputs.site .parallel).snapshot.generation = 7 ∧ s.next = 8 :=
    ⟨_, rfl, rfl, rfl⟩
  exact ⟨s, siteContract_of_reach ⟨_, _, init_portStart, hrun⟩, hgeneration, hnext⟩

end OutputRun
end Driver
end UsbRadioPlus
