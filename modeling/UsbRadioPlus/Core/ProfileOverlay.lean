import UsbRadioPlus.Core.ProfileResolution
import UsbRadioPlus.Rust.Names
import UsbRadioPlus.Sys.Results

/-!
# Overlays as effects

The settings of an overlay that count are the first ones of every name (`counted`). `applyOverlay` gets to
its end exactly if the settings of one name agree, and then it has run the effects of these settings. They
are about different fields, because every row of `OPTIONS` has a name and a field of its own.
-/

namespace UsbRadioPlus
namespace Core

open Sys Rust Rust.Str

/-! ## The rows -/

theorem nodup_names : (OPTIONS.map OptionRow.name).Nodup :=
  Spelled.nodup (by repeat constructor) (by decide +kernel)

/-- A number for a scalar, another one for every scalar of a table. -/
def Number.code : Number → Nat
  | .compressorBand band n => 64 + 8 * band.ctorIdx + n.ctorIdx
  | .limiterBand band n => 96 + 8 * band.ctorIdx + n.ctorIdx
  | n => n.ctorIdx

/-- A number for each field. -/
def Field.code : Field → Nat
  | .flag f => 128 + f.ctorIdx
  | .number n => n.code
  | f => 256 + f.ctorIdx

theorem nodup_fields : (OPTIONS.map fun row => row.target.field).Nodup :=
  nodup_of_codes Field.code (by decide +kernel)

theorem optionRow_mem {name : Str} {row : OptionRow} (h : optionRow name = some row) :
    row ∈ OPTIONS ∧ row.name.toList = name :=
  ⟨List.mem_of_find?_eq_some h, of_decide_eq_true (List.find?_some h :)⟩

theorem optionRow_of_mem {row : OptionRow} (h : row ∈ OPTIONS) :
    optionRow row.name.toList = some row := by
  cases hfind : optionRow row.name.toList with
  | none => exact absurd (decide_eq_true rfl) (List.find?_eq_none.mp hfind row h)
  | some found =>
    obtain ⟨hmem, hname⟩ := optionRow_mem hfind
    rw [List.inj_on_of_nodup_map nodup_names hmem h (String.toList_injective hname)]

/-! ## The settings that count -/

namespace RawOverlay

/-- The first setting of every name. -/
def counted (self : RawOverlay) : List RawSetting := firsts RawSetting.key self.settings

/-- Case variants of a name have one value. -/
def NoConflict (self : RawOverlay) : Prop :=
  ∀ a ∈ self.settings, ∀ b ∈ self.settings, a.key = b.key → trim a.value = trim b.value

instance (self : RawOverlay) : Decidable self.NoConflict :=
  inferInstanceAs (Decidable (∀ a ∈ self.settings, ∀ b ∈ self.settings, _ → _))

/-- What the settings of an overlay do, one by one. -/
def effects (self : RawOverlay) (role : ChainRole) : List (Effect Field.Value ResolutionWarning) :=
  self.counted.map (applySetting role self)

end RawOverlay

section Setting

variable {role : ChainRole} {overlay : RawOverlay} {setting : RawSetting} {row : OptionRow}

theorem applySetting_unknown (h : optionRow setting.key = none) :
    applySetting role overlay setting = .report (unknownWarning overlay setting) := by
  simp only [applySetting, h]

theorem applySetting_unsupported (h : optionRow setting.key = some row)
    (hrole : row.supported role = false) :
    applySetting role overlay setting = .report (unsupportedWarning overlay setting) := by
  simp only [applySetting, h, hrole, Bool.false_eq_true, if_false]

theorem applySetting_supported (h : optionRow setting.key = some row)
    (hrole : row.supported role = true) :
    applySetting role overlay setting =
      .assign row.target.field ((row.target.parse setting.value).mapError fun reason inherited =>
        invalidWarning overlay setting (fallbackText row.target.field inherited) reason) := by
  simp only [applySetting, h, hrole, if_true]

end Setting

theorem field_applySetting {role : ChainRole} {overlay : RawOverlay} {setting : RawSetting} {f : Field}
    (h : (applySetting role overlay setting).field? = some f) :
    ∃ row ∈ OPTIONS, row.name.toList = setting.key ∧ row.target.field = f ∧
      row.supported role = true := by
  cases hrow : optionRow setting.key with
  | none =>
    rw [applySetting_unknown hrow] at h
    cases h
  | some row =>
    obtain ⟨hmem, hname⟩ := optionRow_mem hrow
    cases hrole : row.supported role with
    | false =>
      rw [applySetting_unsupported hrow hrole] at h
      cases h
    | true =>
      rw [applySetting_supported hrow hrole] at h
      exact ⟨row, hmem, hname, Option.some.inj h, hrole⟩

/-- A value comes from the grammar of the option. -/
theorem value_applySetting {role : ChainRole} {overlay : RawOverlay} {setting : RawSetting} {f : Field}
    {value : f.Value} (h : (applySetting role overlay setting).value? f = some value) :
    ∃ row, optionRow setting.key = some row ∧ row.supported role = true ∧
      ∃ parsed, row.target.parse setting.value = .ok parsed ∧
        (⟨row.target.field, parsed⟩ : (f : Field) × f.Value) = ⟨f, value⟩ := by
  cases hrow : optionRow setting.key with
  | none =>
    rw [applySetting_unknown hrow] at h
    cases h
  | some row =>
    cases hrole : row.supported role with
    | false =>
      rw [applySetting_unsupported hrow hrole] at h
      cases h
    | true =>
      rw [applySetting_supported hrow hrole] at h
      cases hparse : row.target.parse setting.value with
      | error reason =>
        rw [hparse] at h
        cases h
      | ok parsed =>
        rw [hparse] at h
        obtain rfl := Option.some.inj (Effect.field?_of_value? h)
        rw [Except.mapError, Effect.value?, dif_pos rfl] at h
        obtain rfl := Option.some.inj h
        exact ⟨row, rfl, hrole, parsed, hparse, rfl⟩

theorem apart_effects (role : ChainRole) (overlay : RawOverlay) :
    Effect.Apart (overlay.effects role) := by
  refine Effect.apart_map (nodup_map_firstsFrom [] overlay.settings) fun a _ b _ f ha hb => ?_
  obtain ⟨row, hmem, hname, hfield, -⟩ := field_applySetting ha
  obtain ⟨row', hmem', hname', hfield', -⟩ := field_applySetting hb
  obtain rfl := List.inj_on_of_nodup_map nodup_fields hmem hmem' (hfield.trans hfield'.symm)
  exact hname.symm.trans hname'

theorem applyOverlay_eq_ok_iff {role : ChainRole} {overlay : RawOverlay} {s : (f : Field) → f.Value}
    {ds : List ResolutionWarning} {r : Resolving} :
    applyOverlay role overlay (s, ds) = .ok r ↔ overlay.NoConflict ∧
      r = ((Effect.run s (overlay.effects role)).1, ds ++ (Effect.run s (overlay.effects role)).2) := by
  rw [applyOverlay, mapError_eq_ok_iff]
  exact Effect.walk_step_eq_ok_iff RawSetting.key RawSetting.value trim (applySetting role overlay)
    overlay.settings s ds r

/-! ## Resolution -/

namespace ResolvedProfile

/-- The values behind the flat overlay. -/
def afterFlat (role : ChainRole) (flat : RawOverlay) (s : (f : Field) → f.Value) :
    (f : Field) → f.Value := (Effect.run s (flat.effects role)).1

/-- The values and the warnings of both overlays. -/
def overlaid (role : ChainRole) (flat : RawOverlay) (scopedOverlay : Option RawOverlay)
    (s : (f : Field) → f.Value) : Resolving :=
  let flatWarnings := (Effect.run s (flat.effects role)).2
  let inherited := afterFlat role flat s
  match scopedOverlay with
  | none => (inherited, flatWarnings)
  | some overlay =>
    ((Effect.run inherited (overlay.effects role)).1,
      flatWarnings ++ (Effect.run inherited (overlay.effects role)).2)

/-- An overlay for the role and the place in which it is given, without conflicts. -/
structure Fits (role : ChainRole) (layer : OverlayLayer) (overlay : RawOverlay) : Prop where
  role : overlay.role = role
  layer : overlay.layer = layer
  noConflict : overlay.NoConflict

theorem requireOverlay_eq_ok_iff {overlay : RawOverlay} {role : ChainRole} {layer : OverlayLayer} :
    requireOverlay overlay role layer = .ok () ↔ overlay.role = role ∧ overlay.layer = layer := by
  rw [requireOverlay]
  by_cases hrole : overlay.role = role
  · by_cases hlayer : overlay.layer = layer
    · rw [if_neg (not_not.mpr hrole), if_neg (not_not.mpr hlayer)]
      exact iff_of_true rfl ⟨hrole, hlayer⟩
    · rw [if_neg (not_not.mpr hrole), if_pos hlayer]
      exact iff_of_false (fun h => nomatch h) fun h => hlayer h.2
  · rw [if_pos hrole]
    exact iff_of_false (fun h => nomatch h) fun h => hrole h.1

/-- `resolve_with_defaults`, with the overlays as effects. -/
theorem resolveWithDefaults_eq {role : ChainRole} {flat : RawOverlay}
    {scopedOverlay : Option RawOverlay} (chain : ProcessingChain) (hflat : Fits role .flat flat)
    (hscoped : ∀ overlay ∈ scopedOverlay, Fits role .scoped overlay) :
    let after := overlaid chain.role flat scopedOverlay chain.value
    resolveWithDefaults role flat scopedOverlay chain =
      ((ProcessingChain.validate ⟨chain.role, after.1⟩).mapError .invalidResolvedProfile).map
        fun _ => ⟨⟨chain.role, after.1⟩, after.2⟩ := by
  have hrequire := requireOverlay_eq_ok_iff.mpr ⟨hflat.role, hflat.layer⟩
  have happly : applyOverlay chain.role flat (chain.value, []) = .ok (_, _) :=
    applyOverlay_eq_ok_iff.mpr ⟨hflat.noConflict, rfl⟩
  have hscopedRequire : requireScoped role scopedOverlay = .ok () := by
    cases scopedOverlay with
    | none => rfl
    | some overlay =>
      have hfits := hscoped overlay rfl
      exact requireOverlay_eq_ok_iff.mpr ⟨hfits.role, hfits.layer⟩
  have hscopedApply : applyScoped chain.role scopedOverlay
      ((Effect.run chain.value (flat.effects chain.role)).1,
        [] ++ (Effect.run chain.value (flat.effects chain.role)).2) =
      .ok (overlaid chain.role flat scopedOverlay chain.value) := by
    cases scopedOverlay with
    | none => rfl
    | some overlay => exact applyOverlay_eq_ok_iff.mpr ⟨(hscoped overlay rfl).noConflict, rfl⟩
  simp only [resolveWithDefaults, hrequire, hscopedRequire, happly, hscopedApply, bind, Except.bind]
  cases ProcessingChain.validate ⟨chain.role,
      (overlaid chain.role flat scopedOverlay chain.value).1⟩ <;> rfl

theorem requireOverlay_ne_invalid (overlay : RawOverlay) (role : ChainRole) (layer : OverlayLayer)
    (e : ProcessingConfigError) :
    requireOverlay overlay role layer ≠ .error (.invalidResolvedProfile e) := by
  rw [requireOverlay]
  split
  · exact fun h => nomatch h
  · split <;> exact fun h => nomatch h

theorem applyOverlay_ne_invalid (role : ChainRole) (overlay : RawOverlay) (state : Resolving)
    (e : ProcessingConfigError) :
    applyOverlay role overlay state ≠ .error (.invalidResolvedProfile e) := by
  rw [applyOverlay]
  cases walk RawSetting.key RawSetting.value trim
      (fun state setting => Effect.step state (applySetting role overlay setting)) .empty
      overlay.settings state <;> exact fun h => nomatch h

/-- What `resolve` validates was resolved from overlays that fit. -/
theorem fits_of_invalid {role : ChainRole} {flat : RawOverlay} {scopedOverlay : Option RawOverlay}
    {chain : ProcessingChain} {e : ProcessingConfigError}
    (h : resolveWithDefaults role flat scopedOverlay chain = .error (.invalidResolvedProfile e)) :
    Fits role .flat flat ∧ ∀ overlay ∈ scopedOverlay, Fits role .scoped overlay := by
  rw [resolveWithDefaults, bind_eq_error_iff] at h
  obtain ⟨_, hflat, h⟩ := h.resolve_left (requireOverlay_ne_invalid _ _ _ _)
  obtain ⟨hrole, hlayer⟩ := requireOverlay_eq_ok_iff.mp hflat
  rw [bind_eq_error_iff] at h
  have hrequire : requireScoped role scopedOverlay ≠ .error (.invalidResolvedProfile e) := by
    cases scopedOverlay with
    | none => exact fun h => nomatch h
    | some overlay => exact requireOverlay_ne_invalid _ _ _ _
  obtain ⟨_, hscoped, h⟩ := h.resolve_left hrequire
  rw [bind_eq_error_iff] at h
  obtain ⟨state, happly, h⟩ := h.resolve_left (applyOverlay_ne_invalid _ _ _ _)
  obtain ⟨hconflict, -⟩ := applyOverlay_eq_ok_iff.mp happly
  refine ⟨⟨hrole, hlayer, hconflict⟩, fun overlay hoverlay => ?_⟩
  obtain rfl := Option.mem_def.mp hoverlay
  obtain ⟨hrole, hlayer⟩ := requireOverlay_eq_ok_iff.mp hscoped
  rw [bind_eq_error_iff] at h
  obtain ⟨_, happly, -⟩ := h.resolve_left (applyOverlay_ne_invalid _ _ _ _)
  exact ⟨hrole, hlayer, (applyOverlay_eq_ok_iff.mp happly).1⟩

end ResolvedProfile

end Core
end UsbRadioPlus
