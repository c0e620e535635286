import UsbRadioPlus.Core.StageOrder
import UsbRadioPlus.Rust.Float

/-!
# Settings of a processing chain (`rust/core/src/processing_profile.rs`)

The settings of a chain are indexed by the paths of their fields: `Flag` has the switches and `Number`
the scalars, `chain.equalizer.low_gain_db` as `chain.number .equalizerLowGainDb`. The four sets of band
controls of the compressor and of the limiter are indexed by the band.

`validate` is its list of checks in the order of the source.
-/

namespace UsbRadioPlus
namespace Core

open Rust

/-- Context in which a processing chain runs. -/
inductive ChainRole where
  | localReceive | link | voiceTelemetry
  deriving DecidableEq, Repr

/-- Local-receiver PL rejection mode. -/
inductive PlFilter where
  | disabled | decodedToneNotch | highPass
  deriving DecidableEq, Repr

/-- Full-band or three-band dynamics selection. -/
inductive BandLayout where
  | fullBand | threeBand
  deriving DecidableEq, Repr

/-- The bands of the compressor and of the limiter. -/
inductive Band where
  | full | low | mid | high
  deriving DecidableEq, Repr

/-- One compressor or limiter band's controls (`DynamicsBand`). -/
inductive BandNumber where
  | thresholdDbfs | ratio
  /-- Unused by the limiter. -/
  | makeupGainDb
  | kneeDb | attackMs | releaseMs
  deriving DecidableEq, Repr

/-- The switches of a chain. -/
inductive Flag where
  | enabled | rnnoiseEnabled | receiveBandpassEnabled | equalizerEnabled | deesserEnabled | agcEnabled
  | expanderEnabled | compressorEnabled | limiterEnabled | peakLimiterEnabled
  | transmitTailBandpassEnabled
  deriving DecidableEq, Repr

/-- The scalars of a chain. -/
inductive Number where
  | inputGainDb | outputGainDb
  | receiveBandpassHighpassHz | receiveBandpassLowpassHz | receiveNotchWidthHz | receiveHighpassHz
  | equalizerLowGainDb | equalizerLowFrequencyHz | equalizerLowSlope
  | equalizerMidGainDb | equalizerMidFrequencyHz | equalizerMidWidthOctaves
  | equalizerHighGainDb | equalizerHighFrequencyHz | equalizerHighSlope
  | deesserFrequencyHz | deesserWidthOctaves | deesserThresholdDbfs | deesserRatio
  | deesserMaxReductionDb | deesserAttackMs | deesserReleaseMs
  | agcTargetLufs | agcMaxGainDb | agcMaxAttenuationDb | agcLoudnessWindowMs
  | agcGainIncreaseDbPerSecond | agcGainDecreaseDbPerSecond | agcActivityThresholdDbfs
  | agcActivityHysteresisDb | agcHoldMs | agcDeadbandDb
  | expanderThresholdDbfs | expanderRatio | expanderMaxAttenuationDb | expanderAttackMs
  | expanderReleaseMs | expanderSidechainHighpassHz | expanderSidechainLowpassHz
  | compressorLowCrossoverHz | compressorHighCrossoverHz | compressorBand (band : Band) (n : BandNumber)
  | compressorSidechainHighpassHz | compressorSidechainLowpassHz
  | limiterLowCrossoverHz | limiterHighCrossoverHz | limiterBand (band : Band) (n : BandNumber)
  | peakLimiterCeilingDbfs | peakLimiterLookaheadMs | peakLimiterAttackMs | peakLimiterReleaseMs
  | transmitTailBandpassHighpassHz | transmitTailBandpassLowpassHz
  deriving DecidableEq, Repr

/-- The fields of a chain, all but the role. -/
inductive Field where
  | flag (f : Flag)
  | number (n : Number)
  | stageOrder | plFilter | compressorLayout | limiterLayout
  /-- Final-limiter oversampling factor. -/
  | oversample
  deriving DecidableEq, Repr

/-- The type of a field. -/
@[reducible] def Field.Value : Field → Type
  | .flag _ => Bool
  | .number _ => F64
  | .stageOrder => StageOrder
  | .plFilter => PlFilter
  | .compressorLayout | .limiterLayout => BandLayout
  | .oversample => Nat

/-- Complete settings for one source chain. -/
structure ProcessingChain where
  role : ChainRole
  value : (f : Field) → f.Value

namespace ProcessingChain

/-- A switch of the chain. -/
def flag (self : ProcessingChain) (f : Flag) : Bool := self.value (.flag f)

/-- A scalar of the chain. -/
def number (self : ProcessingChain) (n : Number) : F64 := self.value (.number n)

/-- The order of the stages. -/
def stageOrder (self : ProcessingChain) : StageOrder := self.value .stageOrder

/-- The rejection of the receiver. -/
def plFilter (self : ProcessingChain) : PlFilter := self.value .plFilter

/-- The factor of the final limiter. -/
def oversample (self : ProcessingChain) : Nat := self.value .oversample

/-! ## Shipped settings -/

/-- The switches of the defaults. -/
def defaultFlag : Flag → Bool
  | .enabled | .receiveBandpassEnabled | .equalizerEnabled => true
  | _ => false

/-- `Compressor::default`: the same for every band. -/
def defaultCompressorBand : BandNumber → F64
  | .thresholdDbfs => -6.0
  | .ratio => 2.0
  | .makeupGainDb => 0.0
  | .kneeDb => 9.0
  | .attackMs => 75.0
  | .releaseMs => 300.0

/-- `Limiter::default` -/
def defaultLimiterBand : Band → BandNumber → F64
  | _, .thresholdDbfs => -1.5
  | .full, .ratio | .high, .ratio => 20.0
  | .low, .ratio | .mid, .ratio => 10.0
  | _, .makeupGainDb => 0.0
  | .full, .kneeDb => 0.0
  | _, .kneeDb => 6.0
  | .full, .attackMs => 1.0
  | .low, .attackMs => 50.0
  | .mid, .attackMs => 10.0
  | .high, .attackMs => 0.5
  | .full, .releaseMs => 50.0
  | .low, .releaseMs => 250.0
  | .mid, .releaseMs => 100.0
  | .high, .releaseMs => 25.0

/-- The scalars of the defaults. -/
def defaultNumber : Number → F64
  | .inputGainDb => 0.0
  | .outputGainDb => -6.2
  | .receiveBandpassHighpassHz => 20.0
  | .receiveBandpassLowpassHz => 5000.0
  | .receiveNotchWidthHz => 10.0
  | .receiveHighpassHz => 300.0
  | .equalizerLowGainDb => 2.0
  | .equalizerLowFrequencyHz => 500.0
  | .equalizerLowSlope => 0.7
  | .equalizerMidGainDb => -0.5
  | .equalizerMidFrequencyHz => 1000.0
  | .equalizerMidWidthOctaves => 1.0
  | .equalizerHighGainDb => -1.0
  | .equalizerHighFrequencyHz => 2000.0
  | .equalizerHighSlope => 0.7
  | .deesserFrequencyHz => 4000.0
  | .deesserWidthOctaves => 1.0
  | .deesserThresholdDbfs => -18.0
  | .deesserRatio => 3.0
  | .deesserMaxReductionDb => 4.0
  | .deesserAttackMs => 2.0
  | .deesserReleaseMs => 60.0
  | .agcTargetLufs => -23.0
  | .agcMaxGainDb => 6.0
  | .agcMaxAttenuationDb => 6.0
  | .agcLoudnessWindowMs => 400.0
  | .agcGainIncreaseDbPerSecond => 2.0
  | .agcGainDecreaseDbPerSecond => 6.0
  | .agcActivityThresholdDbfs => -50.0
  | .agcActivityHysteresisDb => 3.0
  | .agcHoldMs => 500.0
  | .agcDeadbandDb => 1.0
  | .expanderThresholdDbfs => -55.0
  | .expanderRatio => 1.5
  | .expanderMaxAttenuationDb => 9.0
  | .expanderAttackMs => 10.0
  | .expanderReleaseMs => 250.0
  | .expanderSidechainHighpassHz => 800.0
  | .expanderSidechainLowpassHz => 1500.0
  | .compressorLowCrossoverHz => 500.0
  | .compressorHighCrossoverHz => 2000.0
  | .compressorBand _ n => defaultCompressorBand n
  | .compressorSidechainHighpassHz => 800.0
  | .compressorSidechainLowpassHz => 1500.0
  | .limiterLowCrossoverHz => 500.0
  | .limiterHighCrossoverHz => 2000.0
  | .limiterBand band n => defaultLimiterBand band n
  | .peakLimiterCeilingDbfs => -3.0
  | .peakLimiterLookaheadMs => 5.0
  | .peakLimiterAttackMs => 1.0
  | .peakLimiterReleaseMs => 100.0
  | .transmitTailBandpassHighpassHz => 0.0
  | .transmitTailBandpassLowpassHz => 8000.0

/-- The switches that a role ships with. -/
def shippedFlag : ChainRole → Flag → Bool
  | .link, .receiveBandpassEnabled | .voiceTelemetry, .receiveBandpassEnabled => false
  | _, f => defaultFlag f

/-- The scalars that a role ships with. -/
def shippedNumber : ChainRole → Number → F64
  | .voiceTelemetry, .inputGainDb => 6.0
  | .voiceTelemetry, .outputGainDb => 0.0
  | _, n => defaultNumber n

/-- The fields that a role ships with. -/
def shippedValue (role : ChainRole) : (f : Field) → f.Value
  | .flag f => shippedFlag role f
  | .number n => shippedNumber role n
  | .stageOrder => .standard
  | .plFilter => if role = .localReceive then .highPass else .disabled
  | .compressorLayout | .limiterLayout => .threeBand
  | .oversample => (4 : Nat)

/-- The shipped settings for one source role. -/
def shipped (role : ChainRole) : ProcessingChain := ⟨role, shippedValue role⟩

end ProcessingChain

/-! ## Validation -/

/-- What is wrong with the settings of a chain. -/
inductive ProcessingConfigError where
  | invalidOversample
  | range (field : String) (minimum maximum : F64)
  | ordering (upper lower : String)
  | stageNotAllowed (role : ChainRole)
  | stageOrder (e : StageOrderError)
  deriving DecidableEq, Repr

/-- One check of a scalar. -/
inductive Check where
  | finiteRange (field : String) (n : Number) (minimum maximum : F64)
  | requireGreater (upperName : String) (upper : Number) (lowerName : String) (lower : Number)
  | oversample
  deriving DecidableEq, Repr

/-- `finite_range` -/
def finiteRange (field : String) (value minimum maximum : F64) : Except ProcessingConfigError Unit :=
  if value.isFinite && minimum.le value && value.le maximum then .ok ()
  else .error (.range field minimum maximum)

/-- `require_greater` -/
def requireGreater (upperName : String) (upper : F64) (lowerName : String) (lower : F64) :
    Except ProcessingConfigError Unit :=
  if lower.lt upper then .ok () else .error (.ordering upperName lowerName)

/-- The outcome of a check. -/
def Check.run (chain : ProcessingChain) : Check → Except ProcessingConfigError Unit
  | .finiteRange field n minimum maximum => Core.finiteRange field (chain.number n) minimum maximum
  | .requireGreater upperName upper lowerName lower =>
    Core.requireGreater upperName (chain.number upper) lowerName (chain.number lower)
  | .oversample =>
    if chain.oversample = 1 ∨ chain.oversample = 2 ∨ chain.oversample = 4 then .ok ()
    else .error .invalidOversample

namespace Check

/-- The checks of the gains. -/
def validateGains : List Check :=
  [.finiteRange "input_gain_db" .inputGainDb (-30.0) 30.0,
    .finiteRange "output_gain_db" .outputGainDb (-30.0) 30.0]

/-- The checks of the receiver's filters. -/
def validateReceive : List Check :=
  [.finiteRange "receive_bandpass_highpass_hz" .receiveBandpassHighpassHz 20.0 2000.0,
    .finiteRange "receive_bandpass_lowpass_hz" .receiveBandpassLowpassHz 20.0 6000.0,
    .requireGreater "receive_bandpass_lowpass_hz" .receiveBandpassLowpassHz
      "receive_bandpass_highpass_hz" .receiveBandpassHighpassHz,
    .finiteRange "ctcss_notch_width_hz" .receiveNotchWidthHz 10.0 10.0,
    .finiteRange "ctcss_highpass_hz" .receiveHighpassHz 50.0 500.0]

/-- The checks of the equalizer. -/
def validateEqualizer : List Check :=
  [.finiteRange "equalizer_low_gain_db" .equalizerLowGainDb (-12.0) 12.0,
    .finiteRange "equalizer_low_frequency_hz" .equalizerLowFrequencyHz 20.0 1000.0,
    .finiteRange "equalizer_low_slope" .equalizerLowSlope 0.1 1.0,
    .finiteRange "equalizer_mid_gain_db" .equalizerMidGainDb (-12.0) 12.0,
    .finiteRange "equalizer_mid_frequency_hz" .equalizerMidFrequencyHz 100.0 4000.0,
    .finiteRange "equalizer_mid_width_octaves" .equalizerMidWidthOctaves 0.1 4.0,
    .finiteRange "equalizer_high_gain_db" .equalizerHighGainDb (-12.0) 12.0,
    .finiteRange "equalizer_high_frequency_hz" .equalizerHighFrequencyHz 1000.0 5000.0,
    .finiteRange "equalizer_high_slope" .equalizerHighSlope 0.1 1.0]

/-- The checks of the de-esser. -/
def validateDeesser : List Check :=
  [.finiteRange "deesser_frequency_hz" .deesserFrequencyHz 2000.0 8000.0,
    .finiteRange "deesser_width_octaves" .deesserWidthOctaves 0.1 4.0,
    .finiteRange "deesser_threshold_dbfs" .deesserThresholdDbfs (-60.0) (-1.0),
    .finiteRange "deesser_ratio" .deesserRatio 1.0 20.0,
    .finiteRange "deesser_max_reduction_db" .deesserMaxReductionDb 0.1 20.0,
    .finiteRange "deesser_attack_ms" .deesserAttackMs 0.1 100.0,
    .finiteRange "deesser_release_ms" .deesserReleaseMs 1.0 2000.0]

/-- The checks of the gain rider. -/
def validateAgc : List Check :=
  [.finiteRange "agc_target_lufs" .agcTargetLufs (-40.0) (-3.0),
    .finiteRange "agc_max_gain_db" .agcMaxGainDb 0.0 30.0,
    .finiteRange "agc_max_attenuation_db" .agcMaxAttenuationDb 0.0 60.0,
    .finiteRange "agc_loudness_window_ms" .agcLoudnessWindowMs 400.0 3000.0,
    .finiteRange "agc_gain_increase_db_per_second" .agcGainIncreaseDbPerSecond 0.1 100.0,
    .finiteRange "agc_gain_decrease_db_per_second" .agcGainDecreaseDbPerSecond 0.1 100.0,
    .finiteRange "agc_activity_threshold_dbfs" .agcActivityThresholdDbfs (-100.0) (-3.0),
    .finiteRange "agc_activity_hysteresis_db" .agcActivityHysteresisDb 0.0 12.0,
    .finiteRange "agc_hold_ms" .agcHoldMs 0.0 10000.0,
    .finiteRange "agc_deadband_db" .agcDeadbandDb 0.0 6.0]

/-- The checks of the expander. -/
def validateExpander : List Check :=
  [.finiteRange "expander_threshold_dbfs" .expanderThresholdDbfs (-100.0) (-10.0),
    .finiteRange "expander_ratio" .expanderRatio 1.0 10.0,
    .finiteRange "expander_max_attenuation_db" .expanderMaxAttenuationDb 0.0 40.0,
    .finiteRange "expander_attack_ms" .expanderAttackMs 1.0 1000.0,
    .finiteRange "expander_release_ms" .expanderReleaseMs 1.0 10000.0,
    .finiteRange "expander_sidechain_highpass_hz" .expanderSidechainHighpassHz 50.0 2000.0,
    .finiteRange "expander_sidechain_lowpass_hz" .expanderSidechainLowpassHz 50.0 3500.0,
    .requireGreater "expander_sidechain_lowpass_hz" .expanderSidechainLowpassHz
      "expander_sidechain_highpass_hz" .expanderSidechainHighpassHz]

/-- `validate_compressor_band`: an error names the band. -/
def validateCompressorBand (field : String) (band : Band) : List Check :=
  [.finiteRange field (.compressorBand band .thresholdDbfs) (-60.0) 0.0,
    .finiteRange field (.compressorBand band .ratio) 1.0 20.0,
    .finiteRange field (.compressorBand band .makeupGainDb) (-30.0) 30.0,
    .finiteRange field (.compressorBand band .kneeDb) 0.0 18.0,
    .finiteRange field (.compressorBand band .attackMs) 1.0 1000.0,
    .finiteRange field (.compressorBand band .releaseMs) 1.0 9000.0]

/-- The checks of the compressor and its bands. -/
def validateCompressor : List Check :=
  [.finiteRange "compressor_low_crossover_hz" .compressorLowCrossoverHz 100.0 2000.0,
    .finiteRange "compressor_high_crossover_hz" .compressorHighCrossoverHz 100.0 5000.0,
    .requireGreater "compressor_high_crossover_hz" .compressorHighCrossoverHz
      "compressor_low_crossover_hz" .compressorLowCrossoverHz] ++
    validateCompressorBand "compressor" .full ++
    validateCompressorBand "compressor_low" .low ++
    validateCompressorBand "compressor_mid" .mid ++
    validateCompressorBand "compressor_high" .high ++
  [.finiteRange "compressor_sidechain_highpass_hz" .compressorSidechainHighpassHz 50.0 2000.0,
    .finiteRange "compressor_sidechain_lowpass_hz" .compressorSidechainLowpassHz 50.0 3500.0,
    .requireGreater "compressor_sidechain_lowpass_hz" .compressorSidechainLowpassHz
      "compressor_sidechain_highpass_hz" .compressorSidechainHighpassHz]

/-- The checks of one band of the limiter, whose bounds depend on the band. -/
def validateLimiterBand (field : String) (band : Band)
    (minimumThreshold maximumAttackMs maximumReleaseMs : F64) : List Check :=
  [.finiteRange field (.limiterBand band .thresholdDbfs) minimumThreshold (-1.0),
    .finiteRange field (.limiterBand band .ratio) 1.0 20.0,
    .finiteRange field (.limiterBand band .kneeDb) 0.0 18.0,
    .finiteRange field (.limiterBand band .attackMs) 0.1 maximumAttackMs,
    .finiteRange field (.limiterBand band .releaseMs) 1.0 maximumReleaseMs]

/-- The checks of the limiter and its bands. -/
def validateLimiter : List Check :=
  [.finiteRange "limiter_low_crossover_hz" .limiterLowCrossoverHz 100.0 2000.0,
    .finiteRange "limiter_high_crossover_hz" .limiterHighCrossoverHz 100.0 5000.0,
    .requireGreater "limiter_high_crossover_hz" .limiterHighCrossoverHz
      "limiter_low_crossover_hz" .limiterLowCrossoverHz] ++
    validateLimiterBand "limiter" .full (-40.0) 1000.0 9000.0 ++
    validateLimiterBand "limiter_low" .low (-40.0) 1000.0 9000.0 ++
    validateLimiterBand "limiter_mid" .mid (-40.0) 1000.0 9000.0 ++
    validateLimiterBand "limiter_high" .high (-30.0) 100.0 1000.0

/-- The checks of the look-ahead limiter. -/
def validatePeakLimiter : List Check :=
  [.oversample,
    .finiteRange "lookahead_limiter_ceiling_dbfs" .peakLimiterCeilingDbfs (-30.0) (-0.1),
    .finiteRange "lookahead_limiter_lookahead_ms" .peakLimiterLookaheadMs 0.1 20.0,
    .finiteRange "lookahead_limiter_attack_ms" .peakLimiterAttackMs 0.1 20.0,
    .finiteRange "lookahead_limiter_release_ms" .peakLimiterReleaseMs 1.0 5000.0]

/-- The checks of the filter behind the limiter. -/
def validateTransmitTail : List Check :=
  [.finiteRange "post_limiter_bandpass_highpass_hz" .transmitTailBandpassHighpassHz 0.0 300.0,
    .finiteRange "post_limiter_bandpass_lowpass_hz" .transmitTailBandpassLowpassHz 2500.0 20000.0]

/-- The checks behind those of the stages. -/
def scalars : List Check :=
  validateGains ++ validateReceive ++ validateEqualizer ++ validateDeesser ++ validateAgc ++
    validateExpander ++ validateCompressor ++ validateLimiter ++ validatePeakLimiter ++
    validateTransmitTail

end Check

namespace ProcessingChain

/-- The stages that are switched on. -/
def enabledStages (self : ProcessingChain) : List ProcessingStage :=
  [(Flag.equalizerEnabled, .equalizer), (.expanderEnabled, .expander), (.agcEnabled, .agc),
    (.deesserEnabled, .deesser), (.compressorEnabled, .compressor),
    (.limiterEnabled, .limiter)].filterMap fun (f, stage) => if self.flag f then some stage else none

/-- The role has every fixed stage that is enabled. -/
def stagesAllowed (self : ProcessingChain) : Bool :=
  (self.role = .localReceive || !(self.flag .rnnoiseEnabled || self.flag .receiveBandpassEnabled ||
      self.plFilter ≠ .disabled)) &&
    (self.role = .voiceTelemetry || !self.flag .transmitTailBandpassEnabled)

/-- The role allows the stages that are switched on. -/
def requireStages (self : ProcessingChain) : Except ProcessingConfigError Unit :=
  if self.stagesAllowed then .ok () else .error (.stageNotAllowed self.role)

/-- Validate settings without constructing an FFmpeg graph. -/
def validate (self : ProcessingChain) : Except ProcessingConfigError Unit := do
  (self.stageOrder.requireEnabled self.enabledStages).mapError .stageOrder
  self.requireStages
  Check.scalars.forM (Check.run self)

end ProcessingChain

end Core
end UsbRadioPlus
