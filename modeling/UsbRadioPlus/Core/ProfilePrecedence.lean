import UsbRadioPlus.Core.ProfileOverlay

/-!
# What a tolerant resolution gives

Settings of one name count once (`counted`). An option has the value of the scoped overlay, of the flat one
or of the shipped chain, the first that is valid (`Resolved`); every counted setting that is invalid,
unknown or unsupported has one warning (`warned`). The order of the settings changes neither the chain
nor, up to their order and to the spelling of repeated settings, the warnings.

The length limit of `stage_order` is that of the text with its white space. `Unpadded` leaves that out.
-/

namespace UsbRadioPlus
namespace Core

open Sys Rust Rust.Str

/-! ## One overlay -/

namespace RawOverlay

/-- The value that the overlay gives to an option. -/
def assigned (self : RawOverlay) (row : OptionRow) : Option row.target.field.Value :=
  (self.counted.find? fun setting => setting.key = row.name.toList).bind fun setting =>
    (row.target.parse setting.value).toOption

/-- The warning for a setting, where the chain has the inherited values. -/
def warned (self : RawOverlay) (role : ChainRole) (inherited : (f : Field) → f.Value)
    (setting : RawSetting) : Option ResolutionWarning :=
  match optionRow setting.key with
  | none => some (unknownWarning self setting)
  | some row =>
    if row.supported role then
      match row.target.parse setting.value with
      | .ok _ => none
      | .error reason => some (invalidWarning self setting
          (fallbackText row.target.field (inherited row.target.field)) reason)
    else some (unsupportedWarning self setting)

theorem report_applySetting (self : RawOverlay) (role : ChainRole) (s : (f : Field) → f.Value)
    (setting : RawSetting) :
    (applySetting role self setting).report? s = self.warned role s setting := by
  rw [warned]
  cases hrow : optionRow setting.key with
  | none => rw [applySetting_unknown hrow, Effect.report?]
  | some row =>
    cases hrole : row.supported role with
    | false => simp only [applySetting_unsupported hrow hrole, Effect.report?, hrole,
        Bool.false_eq_true, if_false]
    | true =>
      rw [applySetting_supported hrow hrole]
      cases hparse : row.target.parse setting.value <;>
        simp only [Except.mapError, Effect.report?, hrole, if_true, hparse]

theorem find?_counted {self : RawOverlay} {setting : RawSetting} (h : setting ∈ self.counted) :
    self.counted.find? (fun other => other.key = setting.key) = some setting := by
  cases hfind : self.counted.find? fun other => decide (other.key = setting.key) with
  | none => exact absurd (decide_eq_true rfl) (List.find?_eq_none.mp hfind setting h)
  | some other =>
    have hkey : other.key = setting.key := of_decide_eq_true (List.find?_some hfind :)
    rw [List.inj_on_of_nodup_map (nodup_map_firstsFrom [] self.settings)
      (List.mem_of_find?_eq_some hfind) h hkey]

theorem findSome?_effects {self : RawOverlay} {role : ChainRole} {row : OptionRow}
    (hrow : row ∈ OPTIONS) (hrole : row.supported role = true) :
    (self.effects role).findSome? (·.value? row.target.field) = self.assigned row := by
  refine Option.ext fun value => ?_
  rw [Effect.findSome?_value? (apart_effects role self), assigned, Option.bind_eq_some_iff]
  constructor
  · rintro ⟨e, he, hvalue⟩
    obtain ⟨setting, hsetting, rfl⟩ := List.mem_map.mp he
    obtain ⟨row', hrow', -, parsed, hparse, heq⟩ := value_applySetting hvalue
    obtain ⟨hmem, hname⟩ := optionRow_mem hrow'
    obtain rfl := List.inj_on_of_nodup_map nodup_fields hmem hrow (congrArg Sigma.fst heq)
    obtain rfl := eq_of_heq (Sigma.mk.inj heq).2
    refine ⟨setting, hname ▸ find?_counted hsetting, ?_⟩
    rw [hparse, Except.toOption]
  · rintro ⟨setting, hfind, hparse⟩
    have hkey : setting.key = row.name.toList := of_decide_eq_true (List.find?_some hfind :)
    refine ⟨_, List.mem_map_of_mem (List.mem_of_find?_eq_some hfind), ?_⟩
    rw [applySetting_supported (hkey ▸ optionRow_of_mem hrow) hrole]
    cases hresult : row.target.parse setting.value with
    | error reason =>
      rw [hresult] at hparse
      cases hparse
    | ok parsed =>
      rw [hresult] at hparse
      rw [Except.mapError, Effect.value?, dif_pos rfl]
      exact hparse

/-- What the flat or the scoped overlay leaves of a field. -/
theorem run_effects {self : RawOverlay} {role : ChainRole} {row : OptionRow} (hrow : row ∈ OPTIONS)
    (hrole : row.supported role = true) (s : (f : Field) → f.Value) :
    (Effect.run s (self.effects role)).1 row.target.field =
      (self.assigned row).getD (s row.target.field) := by
  rw [Effect.run_store s (apart_effects role self), findSome?_effects hrow hrole]

theorem run_effects_other {self : RawOverlay} {role : ChainRole} {f : Field}
    (h : ∀ row ∈ OPTIONS, row.supported role = true → row.target.field ≠ f)
    (s : (f : Field) → f.Value) : (Effect.run s (self.effects role)).1 f = s f := by
  refine Effect.run_other s fun e he hfield => ?_
  obtain ⟨setting, -, rfl⟩ := List.mem_map.mp he
  obtain ⟨row, hmem, -, hf, hrole⟩ := field_applySetting hfield
  exact h row hmem hrole hf

theorem run_warnings (self : RawOverlay) (role : ChainRole) (s : (f : Field) → f.Value) :
    (Effect.run s (self.effects role)).2 = self.counted.filterMap (self.warned role s) := by
  rw [Effect.run_reports s (apart_effects role self), effects, List.filterMap_map]
  exact List.filterMap_congr fun setting _ => report_applySetting self role s setting

/-! ## The order of the settings -/

/-- The same overlay with its settings in another order. -/
structure Reordered (overlay other : RawOverlay) : Prop where
  same : other = { overlay with settings := other.settings }
  perm : overlay.settings.Perm other.settings

/-- White space takes no `stage_order` over its length limit. -/
def Unpadded (self : RawOverlay) : Prop :=
  ∀ setting ∈ self.settings, setting.key = "stage_order".toList →
    stageOrder (trim setting.value) = stageOrder setting.value

/-- No name is given twice. -/
def DistinctNames (self : RawOverlay) : Prop := (self.settings.map RawSetting.key).Nodup

theorem Reordered.noConflict {overlay other : RawOverlay} (h : Reordered overlay other)
    (hconflict : overlay.NoConflict) : other.NoConflict := fun a ha b hb =>
  hconflict a (h.perm.mem_iff.mpr ha) b (h.perm.mem_iff.mpr hb)

end RawOverlay

/-- A setting without the spelling of its name and the white space of its value. -/
def RawSetting.normal (setting : RawSetting) : RawSetting := ⟨setting.key, trim setting.value⟩

/-- A warning without them. -/
def ResolutionWarning.normal (self : ResolutionWarning) : ResolutionWarning :=
  { self with name := asciiKey (trim self.name), suppliedValue := trim self.suppliedValue }

theorem key_normal (setting : RawSetting) : setting.normal.key = setting.key := by
  show asciiKey (trim (asciiKey (trim setting.name))) = asciiKey (trim setting.name)
  rw [← asciiKey_trim, trim_trim, asciiKey_asciiKey]

theorem parse_trim {row : OptionRow} (hrow : row ∈ OPTIONS) {value : Str}
    (h : row.name = "stage_order" → stageOrder (trim value) = stageOrder value) :
    row.target.parse (trim value) = row.target.parse value := by
  have hname : ∀ row ∈ OPTIONS, row.target = .stageOrder → row.name = "stage_order" := by
    decide +kernel
  obtain ⟨name, target, role⟩ := row
  cases target with
  | stageOrder => exact h (hname _ hrow rfl)
  | boolean f => simp only [OptionTarget.parse, parseBoolean, trim_trim]
  | number n minimum maximum => simp only [OptionTarget.parse, parseNumber, trim_trim]
  | plFilter => simp only [OptionTarget.parse, plFilter, trim_trim]
  | compressorLayout => simp only [OptionTarget.parse, bandLayout, trim_trim]
  | limiterLayout => simp only [OptionTarget.parse, bandLayout, trim_trim]
  | oversample => simp only [OptionTarget.parse, oversampleFactor, trim_trim]

theorem applySetting_normal {role : ChainRole} {overlay : RawOverlay} {setting : RawSetting}
    (h : setting.key = "stage_order".toList → stageOrder (trim setting.value) = stageOrder setting.value) :
    (applySetting role overlay setting).mapReport ResolutionWarning.normal =
      (applySetting role overlay setting.normal).mapReport ResolutionWarning.normal := by
  have hkey := key_normal setting
  have hnormal (kind : ResolutionWarningKind) (fallback reason : Str) :
      (warning kind overlay setting fallback reason).normal =
        (warning kind overlay setting.normal fallback reason).normal := by
    simp only [warning, ResolutionWarning.normal, ResolutionWarning.mk.injEq, true_and, and_true]
    exact ⟨hkey.symm, (trim_trim _).symm⟩
  cases hrow : optionRow setting.key with
  | none =>
    rw [applySetting_unknown hrow, applySetting_unknown (hkey ▸ hrow)]
    exact congrArg Effect.report (hnormal ..)
  | some row =>
    obtain ⟨hmem, hname⟩ := optionRow_mem hrow
    cases hrole : row.supported role with
    | false =>
      rw [applySetting_unsupported hrow hrole, applySetting_unsupported (hkey ▸ hrow) hrole]
      exact congrArg Effect.report (hnormal ..)
    | true =>
      have hparse : row.target.parse setting.normal.value = row.target.parse setting.value :=
        parse_trim hmem fun heq => h (by rw [← hname, heq])
      rw [applySetting_supported hrow hrole, applySetting_supported (hkey ▸ hrow) hrole, hparse]
      cases row.target.parse setting.value with
      | ok value => rfl
      | error reason =>
        refine congrArg (fun d => Effect.assign _ (.error d)) (funext fun inherited => ?_)
        exact hnormal ..

namespace RawOverlay

variable {overlay other : RawOverlay}

/-- An overlay in another order has the same values and, up to their spelling, the same warnings. -/
theorem run_reordered (h : Reordered overlay other) (hconflict : overlay.NoConflict)
    (hpadding : overlay.Unpadded) (role : ChainRole) (s : (f : Field) → f.Value) :
    (Effect.run s (overlay.effects role)).1 = (Effect.run s (other.effects role)).1 ∧
      ((Effect.run s (overlay.effects role)).2.map ResolutionWarning.normal).Perm
        ((Effect.run s (other.effects role)).2.map ResolutionWarning.normal) := by
  have heffects : ((overlay.effects role).map (Effect.mapReport ResolutionWarning.normal)).Perm
      ((other.effects role).map (Effect.mapReport ResolutionWarning.normal)) := by
    let effect (setting : RawSetting) :=
      (applySetting role overlay setting.normal).mapReport ResolutionWarning.normal
    have hsame (setting : RawSetting) : applySetting role other setting =
        applySetting role overlay setting := by rw [h.same]; rfl
    have heffect {l : List RawSetting} (hl : ∀ setting ∈ l, setting ∈ overlay.settings) :
        (l.map (applySetting role overlay)).map (Effect.mapReport ResolutionWarning.normal) =
          l.map effect := by
      rw [List.map_map]
      exact List.map_congr_left fun setting hsetting =>
        applySetting_normal (hpadding setting (hl setting hsetting))
    rw [effects, effects, funext hsame, counted, counted,
      heffect fun setting => mem_of_mem_firsts,
      heffect fun setting hsetting => h.perm.mem_iff.mpr (mem_of_mem_firsts hsetting)]
    refine perm_map_firsts (fun a ha b hb hkey => ?_) h.perm
    have hnormal : a.normal = b.normal := by
      rw [RawSetting.normal, RawSetting.normal, hkey, hconflict a ha b hb hkey]
    exact congrArg (fun setting => (applySetting role overlay setting).mapReport
      ResolutionWarning.normal) hnormal
  have hapart : Effect.Apart
      ((overlay.effects role).map (Effect.mapReport ResolutionWarning.normal)) := by
    exact (apart_effects role overlay).mapReport _
  have hrun := Effect.run_perm s hapart heffects
  rwa [Effect.run_mapReport, Effect.run_mapReport] at hrun

/-- Where no name is given twice, the warnings are the same ones. -/
theorem run_reordered_distinct (h : Reordered overlay other) (hdistinct : overlay.DistinctNames)
    (role : ChainRole) (s : (f : Field) → f.Value) :
    (Effect.run s (overlay.effects role)).1 = (Effect.run s (other.effects role)).1 ∧
      (Effect.run s (overlay.effects role)).2.Perm (Effect.run s (other.effects role)).2 := by
  have hdistinct' : other.DistinctNames := (h.perm.map RawSetting.key).nodup_iff.mp hdistinct
  have hsame (setting : RawSetting) : applySetting role other setting =
      applySetting role overlay setting := by rw [h.same]; rfl
  refine Effect.run_perm s (apart_effects role overlay) ?_
  rw [effects, effects, counted, counted, firsts_of_nodup hdistinct, firsts_of_nodup hdistinct',
    funext hsame]
  exact h.perm.map _

end RawOverlay

/-! ## Both overlays -/

namespace ResolvedProfile

/-- What both overlays make of the shipped chain. -/
structure Resolved (role : ChainRole) (flat : RawOverlay) (scopedOverlay : Option RawOverlay)
    (chain : ProcessingChain) (warnings : List ResolutionWarning) : Prop where
  sameRole : chain.role = role
  /-- An option has its last valid value: scoped, flat, shipped. -/
  options : ∀ row ∈ OPTIONS, row.supported role = true →
    chain.value row.target.field =
      ((scopedOverlay.bind (·.assigned row)).or (flat.assigned row)).getD
        (ProcessingChain.shippedValue role row.target.field)
  /-- A field without an option of the role is the shipped one. -/
  others : ∀ f, (∀ row ∈ OPTIONS, row.supported role = true → row.target.field ≠ f) →
    chain.value f = ProcessingChain.shippedValue role f
  /-- A setting that counts has one warning, if it is not valid. -/
  warnings : warnings =
    flat.counted.filterMap (flat.warned role (ProcessingChain.shippedValue role)) ++
      scopedOverlay.elim [] fun overlay => overlay.counted.filterMap
        (overlay.warned role (afterFlat role flat (ProcessingChain.shippedValue role)))

/-- The profile, or the error of its validation. -/
def completed (chain : ProcessingChain) (warnings : List ResolutionWarning) :
    Except ProfileResolutionError ResolvedProfile :=
  (chain.validate.mapError .invalidResolvedProfile).map fun _ => ⟨chain, warnings⟩

variable {role : ChainRole} {flat flat' : RawOverlay} {scopedOverlay scopedOverlay' : Option RawOverlay}

theorem resolve_of_fits (hflat : Fits role .flat flat)
    (hscoped : ∀ overlay ∈ scopedOverlay, Fits role .scoped overlay) :
    let after := overlaid role flat scopedOverlay (ProcessingChain.shippedValue role)
    resolve role flat scopedOverlay = completed ⟨role, after.1⟩ after.2 :=
  resolveWithDefaults_eq (.shipped role) hflat hscoped

theorem resolved_overlaid (role : ChainRole) (flat : RawOverlay) (scopedOverlay : Option RawOverlay) :
    let after := overlaid role flat scopedOverlay (ProcessingChain.shippedValue role)
    Resolved role flat scopedOverlay ⟨role, after.1⟩ after.2 where
  sameRole := rfl
  options row hrow hrole := by
    cases scopedOverlay with
    | none => exact RawOverlay.run_effects hrow hrole _
    | some overlay =>
      refine (RawOverlay.run_effects hrow hrole _).trans ?_
      rw [afterFlat, RawOverlay.run_effects hrow hrole, Option.bind_some]
      cases overlay.assigned row <;> rfl
  others f hf := by
    cases scopedOverlay with
    | none => exact RawOverlay.run_effects_other hf _
    | some overlay =>
      exact (RawOverlay.run_effects_other hf _).trans (RawOverlay.run_effects_other hf _)
  warnings := by
    cases scopedOverlay with
    | none => exact (RawOverlay.run_warnings ..).trans (List.append_nil _).symm
    | some overlay => exact congrArg₂ _ (RawOverlay.run_warnings ..) (RawOverlay.run_warnings ..)

theorem Fits.reordered {layer : OverlayLayer} {overlay other : RawOverlay}
    (h : Fits role layer overlay) (hother : overlay.Reordered other) : Fits role layer other where
  role := by rw [hother.same]; exact h.role
  layer := by rw [hother.same]; exact h.layer
  noConflict := hother.noConflict h.noConflict

theorem fits_reordered (hscoped : ∀ overlay ∈ scopedOverlay, Fits role .scoped overlay)
    (hother : Option.Rel RawOverlay.Reordered scopedOverlay scopedOverlay') :
    ∀ overlay ∈ scopedOverlay', Fits role .scoped overlay := by
  cases hother with
  | none => exact hscoped
  | some hother =>
    intro overlay hoverlay
    obtain rfl := Option.some.inj (Option.mem_def.mp hoverlay)
    exact (hscoped _ rfl).reordered hother

/-- What holds of one overlay in another order holds of both. `g` is what is kept of a warning. -/
theorem overlaid_reordered (role : ChainRole) {A : Type} {g : ResolutionWarning → A} {P : RawOverlay → Prop}
    (hrun : ∀ overlay other, P overlay → overlay.Reordered other → ∀ s,
      (Effect.run s (overlay.effects role)).1 = (Effect.run s (other.effects role)).1 ∧
        ((Effect.run s (overlay.effects role)).2.map g).Perm
          ((Effect.run s (other.effects role)).2.map g))
    (hP : P flat) (hPscoped : ∀ overlay ∈ scopedOverlay, P overlay) (hflat : flat.Reordered flat')
    (hscoped : Option.Rel RawOverlay.Reordered scopedOverlay scopedOverlay')
    (s : (f : Field) → f.Value) :
    (overlaid role flat scopedOverlay s).1 = (overlaid role flat' scopedOverlay' s).1 ∧
      ((overlaid role flat scopedOverlay s).2.map g).Perm
        ((overlaid role flat' scopedOverlay' s).2.map g) := by
  obtain ⟨hvalue, hwarnings⟩ := hrun flat flat' hP hflat s
  cases hscoped with
  | none => exact ⟨hvalue, hwarnings⟩
  | some hother =>
    obtain ⟨hvalue', hwarnings'⟩ := hrun _ _ (hPscoped _ rfl) hother (afterFlat role flat s)
    have hinherited : afterFlat role flat s = afterFlat role flat' s := hvalue
    simp only [overlaid, List.map_append]
    rw [← hinherited]
    exact ⟨hvalue', hwarnings.append hwarnings'⟩

/-- `resolve` follows the precedence of the overlays and warns once of every setting that counts and is
not valid; the order of the settings makes no difference. -/
theorem resolve_precedence (role : ChainRole) (flat : RawOverlay) (scopedOverlay : Option RawOverlay)
    (hflat : Fits role .flat flat)
    (hscoped : ∀ overlay ∈ scopedOverlay, Fits role .scoped overlay) :
    ∃ chain warnings, Resolved role flat scopedOverlay chain warnings ∧
      resolve role flat scopedOverlay = completed chain warnings ∧
      ∀ flat' scopedOverlay', flat.Reordered flat' →
        Option.Rel RawOverlay.Reordered scopedOverlay scopedOverlay' →
        (flat.Unpadded → (∀ overlay ∈ scopedOverlay, overlay.Unpadded) →
          ∃ warnings', resolve role flat' scopedOverlay' = completed chain warnings' ∧
            (warnings.map ResolutionWarning.normal).Perm (warnings'.map ResolutionWarning.normal)) ∧
        (flat.DistinctNames → (∀ overlay ∈ scopedOverlay, overlay.DistinctNames) →
          ∃ warnings', resolve role flat' scopedOverlay' = completed chain warnings' ∧
            warnings.Perm warnings') := by
  refine ⟨_, _, resolved_overlaid role flat scopedOverlay, resolve_of_fits hflat hscoped,
    fun flat' scopedOverlay' hother hother' => ?_⟩
  have hresolve := resolve_of_fits (hflat.reordered hother) (fits_reordered hscoped hother')
  constructor
  · intro hpadding hpadding'
    obtain ⟨hvalue, hwarnings⟩ := overlaid_reordered role
      (P := fun overlay => overlay.NoConflict ∧ overlay.Unpadded)
      (fun overlay other hP hreordered => RawOverlay.run_reordered hreordered hP.1 hP.2 role)
      ⟨hflat.noConflict, hpadding⟩
      (fun overlay hoverlay => ⟨(hscoped overlay hoverlay).noConflict, hpadding' overlay hoverlay⟩)
      hother hother' (ProcessingChain.shippedValue role)
    exact ⟨_, hvalue ▸ hresolve, hwarnings⟩
  · intro hdistinct hdistinct'
    obtain ⟨hvalue, hwarnings⟩ := overlaid_reordered role (g := id)
      (fun overlay other hdistinct hreordered s => by
        rw [List.map_id, List.map_id]
        exact RawOverlay.run_reordered_distinct hreordered hdistinct role s)
      hdistinct hdistinct' hother hother' (ProcessingChain.shippedValue role)
    rw [List.map_id, List.map_id] at hwarnings
    exact ⟨_, hvalue ▸ hresolve, hwarnings⟩

/-- Overlays of the link, in both orders: the scoped one has another output gain, and an input gain that is
not valid. -/
theorem resolve_precedence_link :
    let gain (value : String) : RawSetting := ⟨"input_gain_db".toList, value.toList⟩
    let output (value : String) : RawSetting := ⟨"output_gain_db".toList, value.toList⟩
    let unknown : RawSetting := ⟨"gain".toList, "3".toList⟩
    let flat (settings : List RawSetting) : RawOverlay := ⟨.link, .flat, [], "link".toList, settings⟩
    let hub (settings : List RawSetting) : RawOverlay :=
      ⟨.link, .scoped, [], "link:hub".toList, settings⟩
    ∃ chain warnings warnings',
      resolve .link (flat [gain "3", output "1", unknown]) (some (hub [output "-2", gain "loud"])) =
        completed chain warnings ∧
      chain.value (.number .inputGainDb) = (3 : F64) ∧
      chain.value (.number .outputGainDb) = (-2 : F64) ∧
      warnings.map ResolutionWarning.kind = [.unknownOption, .invalidValue] ∧
      resolve .link (flat [unknown, output "1", gain "3"]) (some (hub [gain "loud", output "-2"])) =
        completed chain warnings' ∧ warnings.Perm warnings' := by
  intro gain output unknown flat hub
  obtain ⟨chain, warnings, hresolved, hresolve, hother⟩ := resolve_precedence .link
    (flat [gain "3", output "1", unknown]) (some (hub [output "-2", gain "loud"]))
    ⟨rfl, rfl, by decide +kernel⟩ (by rintro overlay ⟨⟩; exact ⟨rfl, rfl, by decide +kernel⟩)
  have hgain := hresolved.options (.number "input_gain_db" .inputGainDb (-30.0) 30.0)
    (by decide +kernel) rfl
  have houtput := hresolved.options (.number "output_gain_db" .outputGainDb (-30.0) 30.0)
    (by decide +kernel) rfl
  have hreordered : Option.Rel RawOverlay.Reordered (some (hub [output "-2", gain "loud"]))
      (some (hub [gain "loud", output "-2"])) := .some ⟨rfl, .swap ..⟩
  obtain ⟨warnings', hresolve', hperm⟩ :=
    (hother (flat [unknown, output "1", gain "3"]) _ ⟨rfl, by decide⟩ hreordered).2
      (by unfold RawOverlay.DistinctNames; decide +kernel)
      (by rintro overlay ⟨⟩; unfold RawOverlay.DistinctNames; decide +kernel)
  refine ⟨chain, warnings, warnings', hresolve, hgain.trans ?_, houtput.trans ?_, ?_, hresolve', hperm⟩
  · change @id F64 _ = _
    decide +kernel
  · change @id F64 _ = _
    decide +kernel
  · rw [hresolved.warnings]
    decide +kernel

/-- Case variants of an invalid setting have one warning for both, and white space makes the order of two
case variants count. -/
theorem resolve_not_every_setting :
    let variants : RawOverlay := ⟨.link, .flat, [], "link".toList,
      [⟨"enabled".toList, "maybe".toList⟩, ⟨"Enabled".toList, "maybe".toList⟩]⟩
    let padded : RawSetting := ⟨"stage_order".toList, "equalizer".toList ++ List.replicate 119 ' '⟩
    let plain : RawSetting := ⟨"Stage_Order".toList, "equalizer".toList⟩
    let stages (settings : List RawSetting) :=
      (resolve .link ⟨.link, .flat, [], "link".toList, settings⟩ none).toOption.map
        fun profile => profile.chain.stageOrder.stages
    (variants.NoConflict ∧ (∀ setting ∈ variants.settings, (parseBoolean setting.value).isOk = false) ∧
      variants.settings.length = 2 ∧
      (resolve .link variants none).toOption.map (fun profile => profile.warnings.length) = some 1) ∧
    trim padded.value = trim plain.value ∧ stages [plain, padded] = some [.equalizer] ∧
      stages [padded, plain] = some StageOrder.standard.stages := by
  decide +kernel

end ResolvedProfile

end Core
end UsbRadioPlus
