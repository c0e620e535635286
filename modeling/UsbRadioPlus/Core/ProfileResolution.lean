import UsbRadioPlus.Core.ConfigDocument
import UsbRadioPlus.Core.ProcessingProfile
import UsbRadioPlus.Sys.Overlay

/-!
# Tolerant resolution of overlays (`rust/core/src/profile_resolution.rs`)

The branches of `apply_setting` are the rows of `OPTIONS`: the name of the option, the roles that have it,
the field that it sets and the grammar of its values (`OptionTarget`). A setting is an `Effect` on the fields of the chain,
and `apply_overlay` is the loop `walk` over the settings of an overlay, by their trimmed names without
case.
-/

namespace UsbRadioPlus
namespace Core

open Sys Rust Rust.Str

/-- Flat settings of the station, or those of one profile section. -/
inductive OverlayLayer where
  | flat | scoped
  deriving DecidableEq, Repr

/-- One assignment as it stands in a section. -/
structure RawSetting where
  name : Str
  value : Str
  deriving DecidableEq, Repr

/-- Unparsed assignments from one flat or scoped source-chain section. -/
structure RawOverlay where
  role : ChainRole
  layer : OverlayLayer
  source : Str
  sectionName : Str
  settings : List RawSetting
  deriving DecidableEq, Repr

/-- Classification of a nonfatal configuration-resolution diagnostic. -/
inductive ResolutionWarningKind where
  /-- A scoped section prefix was outside the configuration schema. -/
  | unknownSection
  /-- The section contained a parameter outside the processing vocabulary. -/
  | unknownOption
  /-- A known parameter does not belong to this source-chain schema. -/
  | unsupportedOption
  /-- A known parameter value could not be safely applied. -/
  | invalidValue
  deriving DecidableEq, Repr

/-- One warning whose setting fell back through normal inheritance. -/
structure ResolutionWarning where
  kind : ResolutionWarningKind
  source : Str
  sectionName : Str
  name : Str
  suppliedValue : Str
  fallback : Str
  reason : Str
  deriving DecidableEq, Repr

/-- Failure of `resolve`. -/
inductive ProfileResolutionError where
  | roleMismatch (expected actual : ChainRole) (sectionName : Str)
  | layerMismatch (expected actual : Str) (sectionName : Str)
  | conflictingAssignment (source sectionName name first second : Str)
  | invalidResolvedProfile (e : ProcessingConfigError)
  deriving DecidableEq, Repr

/-- A chain with what was found wrong on the way to it. -/
structure ResolvedProfile where
  chain : ProcessingChain
  warnings : List ResolutionWarning

/-! ## Values -/

/-- `parse_boolean`: only `yes` and `no`, in any case. -/
def parseBoolean (value : Str) : Except Str Bool :=
  if eqIgnoreAsciiCase (trim value) "yes".toList then .ok true
  else if eqIgnoreAsciiCase (trim value) "no".toList then .ok false
  else .error "requires yes or no".toList

/-- The reason that a number is refused for. -/
def numberReason (minimum maximum : F64) : Str :=
  "requires a finite number from ".toList ++ minimum.text ++ " through ".toList ++ maximum.text

/-- `parse_number`: a finite number within its bounds. -/
def parseNumber (minimum maximum : F64) (value : Str) : Except Str F64 :=
  match F64.parse (trim value) with
  | none => .error (numberReason minimum maximum)
  | some parsed =>
    if parsed.isFinite && minimum.le parsed && parsed.le maximum then .ok parsed
    else .error (numberReason minimum maximum)

/-- `oversample_factor` -/
def oversampleFactor (value : Str) : Except Str Nat :=
  if trim value = ['1'] then .ok 1
  else if trim value = ['2'] then .ok 2
  else if trim value = ['4'] then .ok 4
  else .error "requires 1, 2, or 4".toList

/-- `band_layout` -/
def bandLayout (value : Str) : Except Str BandLayout :=
  if trim value = ['1'] then .ok .fullBand
  else if trim value = ['3'] then .ok .threeBand
  else .error "requires 1 or 3".toList

/-- `pl_filter` -/
def plFilter (value : Str) : Except Str PlFilter :=
  if eqIgnoreAsciiCase (trim value) "disabled".toList then .ok .disabled
  else if eqIgnoreAsciiCase (trim value) "notch".toList then .ok .decodedToneNotch
  else if eqIgnoreAsciiCase (trim value) "highpass".toList then .ok .highPass
  else .error "requires disabled, notch, or highpass".toList

/-- An order of stages; the reason of a refusal is the text of its error. -/
def stageOrder (value : Str) : Except Str StageOrder :=
  (StageOrder.parse value).mapError StageOrderError.text

/-- `yes_no`: a switch as a warning shows it. -/
def yesNo (value : Bool) : Str := if value then "yes".toList else "no".toList

/-- `pl_filter_name`: a rejection mode as a warning shows it. -/
def plFilterName : PlFilter → Str
  | .disabled => "disabled".toList
  | .decodedToneNotch => "notch".toList
  | .highPass => "highpass".toList

/-- The text of a value that a setting leaves in place. -/
def fallbackText : (f : Field) → f.Value → Str
  | .flag _, value => yesNo value
  | .number _, value => F64.text value
  | .stageOrder, value => StageOrder.text value
  | .plFilter, value => plFilterName value
  | .compressorLayout, value | .limiterLayout, value => if value = .fullBand then ['1'] else ['3']
  | .oversample, value => Nat.toDigits 10 value

/-! ## Options -/

/-- The field that an option sets, with the grammar of its values. -/
inductive OptionTarget where
  | boolean (f : Flag)
  | number (n : Number) (minimum maximum : F64)
  | stageOrder | plFilter | compressorLayout | limiterLayout | oversample
  deriving DecidableEq, Repr

/-- The field that an option sets. -/
@[reducible] def OptionTarget.field : OptionTarget → Field
  | .boolean f => .flag f
  | .number n _ _ => .number n
  | .stageOrder => .stageOrder
  | .plFilter => .plFilter
  | .compressorLayout => .compressorLayout
  | .limiterLayout => .limiterLayout
  | .oversample => .oversample

/-- The value that a text has for the field of an option. -/
def OptionTarget.parse : (target : OptionTarget) → Str → Except Str target.field.Value
  | .boolean _, value => parseBoolean value
  | .number _ minimum maximum, value => parseNumber minimum maximum value
  | .stageOrder, value => Core.stageOrder value
  | .plFilter, value => Core.plFilter value
  | .compressorLayout, value | .limiterLayout, value => bandLayout value
  | .oversample, value => oversampleFactor value

/-- One branch of `apply_setting`. -/
structure OptionRow where
  name : String
  target : OptionTarget
  /-- The role of the guard: every other role has a warning. -/
  role : Option ChainRole
  deriving DecidableEq, Repr

namespace OptionRow

/-- The option belongs to chains of the role. -/
def supported (self : OptionRow) (role : ChainRole) : Bool := self.role.all (· = role)

/-- A row for a switch. -/
def boolean (name : String) (f : Flag) : OptionRow := ⟨name, .boolean f, none⟩

/-- A row for a number with its bounds. -/
def number (name : String) (n : Number) (minimum maximum : F64) : OptionRow :=
  ⟨name, .number n minimum maximum, none⟩

/-- The same branches for one role. -/
def only (role : ChainRole) (rows : List OptionRow) : List OptionRow :=
  rows.map fun row => { row with role }

/-- The options of the whole chain. -/
def chainOptions : List OptionRow :=
  [.boolean "enabled" .enabled, ⟨"stage_order", .stageOrder, none⟩,
    .number "input_gain_db" .inputGainDb (-30.0) 30.0,
    .number "output_gain_db" .outputGainDb (-30.0) 30.0]

/-- The options of the equalizer. -/
def equalizerOptions : List OptionRow :=
  [.boolean "equalizer_enabled" .equalizerEnabled,
    .number "equalizer_low_gain_db" .equalizerLowGainDb (-12.0) 12.0,
    .number "equalizer_low_frequency_hz" .equalizerLowFrequencyHz 20.0 1000.0,
    .number "equalizer_low_slope" .equalizerLowSlope 0.1 1.0,
    .number "equalizer_mid_gain_db" .equalizerMidGainDb (-12.0) 12.0,
    .number "equalizer_mid_frequency_hz" .equalizerMidFrequencyHz 100.0 4000.0,
    .number "equalizer_mid_width_octaves" .equalizerMidWidthOctaves 0.1 4.0,
    .number "equalizer_high_gain_db" .equalizerHighGainDb (-12.0) 12.0,
    .number "equalizer_high_frequency_hz" .equalizerHighFrequencyHz 1000.0 5000.0,
    .number "equalizer_high_slope" .equalizerHighSlope 0.1 1.0]

/-- The options of the de-esser. -/
def deesserOptions : List OptionRow :=
  [.boolean "deesser_enabled" .deesserEnabled,
    .number "deesser_frequency_hz" .deesserFrequencyHz 2000.0 8000.0,
    .number "deesser_width_octaves" .deesserWidthOctaves 0.1 4.0,
    .number "deesser_threshold_dbfs" .deesserThresholdDbfs (-60.0) (-1.0),
    .number "deesser_ratio" .deesserRatio 1.0 20.0,
    .number "deesser_max_reduction_db" .deesserMaxReductionDb 0.1 20.0,
    .number "deesser_attack_ms" .deesserAttackMs 0.1 100.0,
    .number "deesser_release_ms" .deesserReleaseMs 1.0 2000.0]

/-- The options of the gain rider. -/
def agcOptions : List OptionRow :=
  [.boolean "agc_enabled" .agcEnabled,
    .number "agc_target_lufs" .agcTargetLufs (-40.0) (-3.0),
    .number "agc_max_gain_db" .agcMaxGainDb 0.0 30.0,
    .number "agc_max_attenuation_db" .agcMaxAttenuationDb 0.0 60.0,
    .number "agc_loudness_window_ms" .agcLoudnessWindowMs 400.0 3000.0,
    .number "agc_gain_increase_db_per_second" .agcGainIncreaseDbPerSecond 0.1 100.0,
    .number "agc_gain_decrease_db_per_second" .agcGainDecreaseDbPerSecond 0.1 100.0,
    .number "agc_activity_threshold_dbfs" .agcActivityThresholdDbfs (-100.0) (-3.0),
    .number "agc_activity_hysteresis_db" .agcActivityHysteresisDb 0.0 12.0,
    .number "agc_hold_ms" .agcHoldMs 0.0 10000.0,
    .number "agc_deadband_db" .agcDeadbandDb 0.0 6.0]

/-- The options of the expander. -/
def expanderOptions : List OptionRow :=
  [.boolean "expander_enabled" .expanderEnabled,
    .number "expander_threshold_dbfs" .expanderThresholdDbfs (-100.0) (-10.0),
    .number "expander_ratio" .expanderRatio 1.0 10.0,
    .number "expander_max_attenuation_db" .expanderMaxAttenuationDb 0.0 40.0,
    .number "expander_attack_ms" .expanderAttackMs 1.0 1000.0,
    .number "expander_release_ms" .expanderReleaseMs 1.0 10000.0,
    .number "expander_sidechain_highpass_hz" .expanderSidechainHighpassHz 50.0 2000.0,
    .number "expander_sidechain_lowpass_hz" .expanderSidechainLowpassHz 50.0 3500.0]

/-- The full band has no option for its knee. -/
def compressorBandOptions : List OptionRow :=
  [.number "compressor_threshold_dbfs" (.compressorBand .full .thresholdDbfs) (-60.0) 0.0,
    .number "compressor_ratio" (.compressorBand .full .ratio) 1.0 20.0,
    .number "compressor_makeup_gain_db" (.compressorBand .full .makeupGainDb) (-30.0) 30.0,
    .number "compressor_attack_ms" (.compressorBand .full .attackMs) 1.0 1000.0,
    .number "compressor_release_ms" (.compressorBand .full .releaseMs) 1.0 9000.0,
    .number "compressor_low_threshold_dbfs" (.compressorBand .low .thresholdDbfs) (-60.0) 0.0,
    .number "compressor_low_ratio" (.compressorBand .low .ratio) 1.0 20.0,
    .number "compressor_low_makeup_gain_db" (.compressorBand .low .makeupGainDb) (-30.0) 30.0,
    .number "compressor_low_knee_db" (.compressorBand .low .kneeDb) 0.0 18.0,
    .number "compressor_low_attack_ms" (.compressorBand .low .attackMs) 1.0 1000.0,
    .number "compressor_low_release_ms" (.compressorBand .low .releaseMs) 1.0 9000.0,
    .number "compressor_mid_threshold_dbfs" (.compressorBand .mid .thresholdDbfs) (-60.0) 0.0,
    .number "compressor_mid_ratio" (.compressorBand .mid .ratio) 1.0 20.0,
    .number "compressor_mid_makeup_gain_db" (.compressorBand .mid .makeupGainDb) (-30.0) 30.0,
    .number "compressor_mid_knee_db" (.compressorBand .mid .kneeDb) 0.0 18.0,
    .number "compressor_mid_attack_ms" (.compressorBand .mid .attackMs) 1.0 1000.0,
    .number "compressor_mid_release_ms" (.compressorBand .mid .releaseMs) 1.0 9000.0,
    .number "compressor_high_threshold_dbfs" (.compressorBand .high .thresholdDbfs) (-60.0) 0.0,
    .number "compressor_high_ratio" (.compressorBand .high .ratio) 1.0 20.0,
    .number "compressor_high_makeup_gain_db" (.compressorBand .high .makeupGainDb) (-30.0) 30.0,
    .number "compressor_high_knee_db" (.compressorBand .high .kneeDb) 0.0 18.0,
    .number "compressor_high_attack_ms" (.compressorBand .high .attackMs) 1.0 1000.0,
    .number "compressor_high_release_ms" (.compressorBand .high .releaseMs) 1.0 9000.0]

/-- The options of the compressor and its bands. -/
def compressorOptions : List OptionRow :=
  [.boolean "compressor_enabled" .compressorEnabled,
    ⟨"compressor_bands", .compressorLayout, none⟩,
    .number "compressor_low_crossover_hz" .compressorLowCrossoverHz 100.0 2000.0,
    .number "compressor_high_crossover_hz" .compressorHighCrossoverHz 100.0 5000.0] ++
    compressorBandOptions ++
  [.number "compressor_sidechain_highpass_hz" .compressorSidechainHighpassHz 50.0 2000.0,
    .number "compressor_sidechain_lowpass_hz" .compressorSidechainLowpassHz 50.0 3500.0]

/-- The options of the limiter's bands; the full band and the three others have bounds of their own.
-/
def limiterBandOptions : List OptionRow :=
  [.number "limiter_threshold_dbfs" (.limiterBand .full .thresholdDbfs) (-40.0) (-1.0),
    .number "limiter_ratio" (.limiterBand .full .ratio) 1.0 20.0,
    .number "limiter_knee_db" (.limiterBand .full .kneeDb) 0.0 18.0,
    .number "limiter_attack_ms" (.limiterBand .full .attackMs) 0.1 1000.0,
    .number "limiter_release_ms" (.limiterBand .full .releaseMs) 1.0 9000.0,
    .number "limiter_low_threshold_dbfs" (.limiterBand .low .thresholdDbfs) (-40.0) (-1.0),
    .number "limiter_low_ratio" (.limiterBand .low .ratio) 1.0 20.0,
    .number "limiter_low_knee_db" (.limiterBand .low .kneeDb) 0.0 18.0,
    .number "limiter_low_attack_ms" (.limiterBand .low .attackMs) 0.1 1000.0,
    .number "limiter_low_release_ms" (.limiterBand .low .releaseMs) 1.0 9000.0,
    .number "limiter_mid_threshold_dbfs" (.limiterBand .mid .thresholdDbfs) (-40.0) (-1.0),
    .number "limiter_mid_ratio" (.limiterBand .mid .ratio) 1.0 20.0,
    .number "limiter_mid_knee_db" (.limiterBand .mid .kneeDb) 0.0 18.0,
    .number "limiter_mid_attack_ms" (.limiterBand .mid .attackMs) 0.1 1000.0,
    .number "limiter_mid_release_ms" (.limiterBand .mid .releaseMs) 1.0 9000.0,
    .number "limiter_high_threshold_dbfs" (.limiterBand .high .thresholdDbfs) (-30.0) (-1.0),
    .number "limiter_high_ratio" (.limiterBand .high .ratio) 1.0 20.0,
    .number "limiter_high_knee_db" (.limiterBand .high .kneeDb) 0.0 18.0,
    .number "limiter_high_attack_ms" (.limiterBand .high .attackMs) 0.1 100.0,
    .number "limiter_high_release_ms" (.limiterBand .high .releaseMs) 1.0 1000.0]

/-- The options of the limiter and its bands. -/
def limiterOptions : List OptionRow :=
  [.boolean "limiter_enabled" .limiterEnabled,
    ⟨"limiter_bands", .limiterLayout, none⟩,
    .number "limiter_low_crossover_hz" .limiterLowCrossoverHz 100.0 2000.0,
    .number "limiter_high_crossover_hz" .limiterHighCrossoverHz 100.0 5000.0] ++
    limiterBandOptions

/-- The options that only a local receiver has. -/
def receiveOptions : List OptionRow :=
  only .localReceive [.boolean "rnnoise_enabled" .rnnoiseEnabled,
    .boolean "receive_bandpass_enabled" .receiveBandpassEnabled,
    .number "receive_bandpass_highpass_hz" .receiveBandpassHighpassHz 20.0 2000.0,
    .number "receive_bandpass_lowpass_hz" .receiveBandpassLowpassHz 20.0 6000.0,
    ⟨"ctcss_filter_mode", .plFilter, none⟩,
    .number "ctcss_notch_width_hz" .receiveNotchWidthHz 10.0 10.0,
    .number "ctcss_highpass_hz" .receiveHighpassHz 50.0 500.0]

/-- The options of the look-ahead limiter. -/
def peakLimiterOptions : List OptionRow :=
  [.boolean "lookahead_limiter_enabled" .peakLimiterEnabled,
    ⟨"lookahead_limiter_oversample", .oversample, none⟩,
    .number "lookahead_limiter_ceiling_dbfs" .peakLimiterCeilingDbfs (-30.0) (-0.1),
    .number "lookahead_limiter_lookahead_ms" .peakLimiterLookaheadMs 0.1 20.0,
    .number "lookahead_limiter_attack_ms" .peakLimiterAttackMs 0.1 20.0,
    .number "lookahead_limiter_release_ms" .peakLimiterReleaseMs 1.0 5000.0]

/-- The options that only the voice and telemetry chain has. -/
def transmitTailOptions : List OptionRow :=
  only .voiceTelemetry [.boolean "post_limiter_bandpass_enabled" .transmitTailBandpassEnabled,
    .number "post_limiter_bandpass_highpass_hz" .transmitTailBandpassHighpassHz 0.0 300.0,
    .number "post_limiter_bandpass_lowpass_hz" .transmitTailBandpassLowpassHz 2500.0 20000.0]

end OptionRow

open OptionRow in
/-- The branches of `apply_setting`. -/
def OPTIONS : List OptionRow :=
  chainOptions ++ equalizerOptions ++ deesserOptions ++ agcOptions ++ expanderOptions ++
    compressorOptions ++ limiterOptions ++ receiveOptions ++ peakLimiterOptions ++
    transmitTailOptions

/-- The row of an option, by its exact name. -/
def optionRow (name : Str) : Option OptionRow := OPTIONS.find? fun row => row.name.toList = name

/-! ## Overlays -/

/-- `{:?}` -/
def ChainRole.debug : ChainRole → Str
  | .localReceive => "LocalReceive".toList
  | .link => "Link".toList
  | .voiceTelemetry => "VoiceTelemetry".toList

/-- A layer as an error shows it. -/
def layerName : OverlayLayer → Str
  | .flat => "flat".toList
  | .scoped => "scoped".toList

/-- A warning about one setting of an overlay. -/
def warning (kind : ResolutionWarningKind) (overlay : RawOverlay) (setting : RawSetting)
    (fallback reason : Str) : ResolutionWarning :=
  ⟨kind, overlay.source, overlay.sectionName, setting.name, setting.value, fallback, reason⟩

/-- A value that the option does not take. -/
def invalidWarning (overlay : RawOverlay) (setting : RawSetting) (fallback reason : Str) :
    ResolutionWarning := warning .invalidValue overlay setting fallback reason

/-- An option that the role does not have. -/
def unsupportedWarning (overlay : RawOverlay) (setting : RawSetting) : ResolutionWarning :=
  warning .unsupportedOption overlay setting "ignored".toList
    ("is not supported for ".toList ++ overlay.role.debug)

/-- A name that is no option. -/
def unknownWarning (overlay : RawOverlay) (setting : RawSetting) : ResolutionWarning :=
  warning .unknownOption overlay setting "ignored".toList "is unknown and was ignored".toList

/-- `setting.name.trim().to_ascii_lowercase()` -/
def RawSetting.key (setting : RawSetting) : Str := asciiKey (trim setting.name)

/-- `apply_setting` for the role of the chain. -/
def applySetting (role : ChainRole) (overlay : RawOverlay) (setting : RawSetting) :
    Effect Field.Value ResolutionWarning :=
  match optionRow setting.key with
  | none => .report (unknownWarning overlay setting)
  | some row =>
    if row.supported role then
      .assign row.target.field ((row.target.parse setting.value).mapError fun reason inherited =>
        invalidWarning overlay setting (fallbackText row.target.field inherited) reason)
    else .report (unsupportedWarning overlay setting)

/-- The chain and the warnings of a resolution that goes on. -/
abbrev Resolving := ((f : Field) → f.Value) × List ResolutionWarning

/-- `apply_overlay`: the settings in their order; an option that is set twice is an error. -/
def applyOverlay (role : ChainRole) (overlay : RawOverlay) (state : Resolving) :
    Except ProfileResolutionError Resolving :=
  (walk RawSetting.key RawSetting.value trim
    (fun state setting => Effect.step state (applySetting role overlay setting))
    .empty overlay.settings state).mapError fun (name, first, second) =>
      .conflictingAssignment overlay.source overlay.sectionName name first second

/-- The overlay is made for this role and layer. -/
def requireOverlay (overlay : RawOverlay) (role : ChainRole) (layer : OverlayLayer) :
    Except ProfileResolutionError Unit :=
  if overlay.role ≠ role then .error (.roleMismatch role overlay.role overlay.sectionName)
  else if overlay.layer ≠ layer then
    .error (.layerMismatch (layerName layer) (layerName overlay.layer) overlay.sectionName)
  else .ok ()

namespace ResolvedProfile

/-- `require_overlay` for the optional scoped overlay. -/
def requireScoped (role : ChainRole) (scopedOverlay : Option RawOverlay) :
    Except ProfileResolutionError Unit :=
  match scopedOverlay with
  | none => .ok ()
  | some overlay => requireOverlay overlay role .scoped

/-- `apply_overlay` for the optional scoped overlay. -/
def applyScoped (role : ChainRole) (scopedOverlay : Option RawOverlay) (state : Resolving) :
    Except ProfileResolutionError Resolving :=
  match scopedOverlay with
  | none => .ok state
  | some overlay => applyOverlay role overlay state

/-- `resolve_with_defaults`: the flat overlay over the defaults, and the scoped one over both. -/
def resolveWithDefaults (role : ChainRole) (flat : RawOverlay) (scopedOverlay : Option RawOverlay)
    (chain : ProcessingChain) : Except ProfileResolutionError ResolvedProfile := do
  requireOverlay flat role .flat
  requireScoped role scopedOverlay
  let state ← applyOverlay chain.role flat (chain.value, [])
  let (value, warnings) ← applyScoped chain.role scopedOverlay state
  let chain := { chain with value }
  chain.validate.mapError .invalidResolvedProfile
  pure { chain, warnings }

/-- Resolve shipped defaults, then a flat overlay, then an optional scoped overlay. -/
def resolve (role : ChainRole) (flat : RawOverlay) (scopedOverlay : Option RawOverlay) :
    Except ProfileResolutionError ResolvedProfile :=
  resolveWithDefaults role flat scopedOverlay (.shipped role)

end ResolvedProfile

end Core
end UsbRadioPlus
