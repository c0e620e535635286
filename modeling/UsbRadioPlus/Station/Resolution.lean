import UsbRadioPlus.Core.ConfigSelection
import UsbRadioPlus.Station.Configuration

/-!
# Tolerant resolution of a station (`rust/core/src/station_config.rs`)

A section of the document is an overlay for its applier. `from_document` applies the flat section and the
section that the channel selects, kind after kind, and ends with the normalisation of the voice detector
and the validation.
-/

namespace UsbRadioPlus
namespace Station

open Sys Rust Rust.Str UsbRadioPlus.Core

/-- Failure to construct a deterministic typed station configuration. -/
inductive StationConfigError where
  | document (e : ConfigError)
  | conflictingAssignment (source sectionName name first second : Str)
  | ambiguousProfileSelection (channel selector : Str)
  | invalidResolvedConfiguration (e : StationValidationError)
  deriving DecidableEq, Repr

/-! ## Options -/

/-- The field that an option sets, with the grammar of its values. -/
structure ConfigTarget where
  field : ConfigField
  parse : Str → Except Str field.Value

namespace ConfigTarget

/-- An option for a switch. -/
def flag (f : ConfigFlag) : ConfigTarget := ⟨.flag f, parseBool⟩

/-- An option for an integer with its bounds. -/
def unsigned (n : ConfigInteger) (minimum maximum : Nat) : ConfigTarget :=
  ⟨.integer n, parseUnsigned minimum maximum⟩

/-- An option for a scalar with its bounds. -/
def number (n : ConfigNumber) (minimum maximum : F64) : ConfigTarget :=
  ⟨.number n, parseF64 minimum maximum⟩

/-- Any text. -/
def text (t : ConfigText) : ConfigTarget := ⟨.text t, .ok⟩

end ConfigTarget

/-- The functions that apply the settings of a section. -/
inductive SettingApplier where
  | general | radio | asterisk | hardware | receive | transmit | ctcss | dcs | duplex | diagnostics
  deriving DecidableEq, Repr

/-- `i32::MAX` -/
def I32_MAX : Nat := 2147483647

/-- `i16::MAX` -/
def I16_MAX : Nat := 32767

/-- `u32::MAX` -/
def U32_MAX : Nat := 4294967295

open ConfigTarget in
/-- `apply_asterisk` -/
def applyAsterisk : List (String × ConfigTarget) :=
  [("asterisk_jitter_buffer_enabled", .flag .jitterBufferEnabled),
    ("asterisk_jitter_buffer_max_size_ms", unsigned .jitterBufferMaxSizeMs 0 I32_MAX),
    ("asterisk_jitter_buffer_resync_threshold_ms", unsigned .jitterBufferResyncThresholdMs 0 I32_MAX),
    ("asterisk_jitter_buffer_implementation", ⟨.jitterBufferImplementation, parseJitterImplementation⟩),
    ("asterisk_jitter_buffer_logging_enabled", .flag .jitterBufferLoggingEnabled),
    ("asterisk_jitter_buffer_force_enabled", .flag .jitterBufferForceEnabled),
    ("asterisk_jitter_buffer_target_extra_ms", unsigned .jitterBufferTargetExtraMs 0 I32_MAX),
    ("asterisk_jitter_buffer_video_sync_enabled", .flag .jitterBufferVideoSyncEnabled)]

/-- Zero is no pin. -/
def parseClipLedGpio (value : Str) : Except Str (Option Nat) :=
  (parseUnsigned 0 8 value).map fun pin => if pin = 0 then none else some pin

/-- A path that is not empty. -/
def parseParallelPortDevice (value : Str) : Except Str Str :=
  if value = [] then .error "requires a nonempty device path".toList else .ok value

open ConfigTarget in
/-- `apply_hardware`, all but the pins. -/
def applyHardware : List (String × ConfigTarget) :=
  [("hardware_input_gain_db", .number .inputGainDb (-30.0) 30.0),
    ("hardware_output_a_gain_db", .number .outputAGainDb (-30.0) 30.0),
    ("hardware_output_b_gain_db", .number .outputBGainDb (-30.0) 30.0),
    ("hardware_input_extra_buffer_ms", unsigned .inputExtraBufferMs 0 500),
    ("hardware_output_extra_buffer_ms", unsigned .outputExtraBufferMs 0 500),
    ("hardware_output_a_assignment", ⟨.outputAAssignment, parseHardwareOutput⟩),
    ("hardware_output_b_assignment", ⟨.outputBAssignment, parseHardwareOutput⟩),
    ("hardware_ptt_inverted", .flag .pttInverted),
    ("hardware_deemphasis_corner_hz", ⟨.number .deemphasisCornerHz, parsePositiveBoundedF64 500.0⟩),
    ("hardware_preemphasis_corner_hz", ⟨.number .preemphasisCornerHz, parsePositiveBoundedF64 500.0⟩),
    ("hardware_device_identifier", .text .deviceIdentifier),
    ("hardware_serial", .text .serial),
    ("hardware_interface_type", ⟨.interfaceType, parseHardwareInterface⟩),
    ("hardware_eeprom_enabled", .flag .eepromEnabled),
    ("hardware_gpio_usb_port_path", .text .gpioUsbPortPath),
    ("hardware_voter_reporting", unsigned .voterReporting 0 I32_MAX),
    ("hardware_clip_led_gpio", ⟨.clipLedGpio, parseClipLedGpio⟩),
    ("hardware_parallel_port_device", ⟨.text .parallelPortDevice, parseParallelPortDevice⟩),
    ("hardware_parallel_port_base_address", unsigned .baseAddress 1 U32_MAX)]

open ConfigTarget in
/-- `apply_receive` -/
def applyReceive : List (String × ConfigTarget) :=
  [("vad_mode", ⟨.vadMode, fun value => parseVadMode (trim value)⟩),
    ("vad_hang_ms", unsigned .vadHangMs 0 32767),
    ("signaling_method", ⟨.receiveSignalingMethod, parseSignalingMethod⟩),
    ("audio_source", ⟨.audioSource, parseReceiveAudioSource⟩),
    ("cos_assignment", ⟨.cosAssignment, parseCarrierSource⟩),
    ("vox_hang_ms", unsigned .voxHangMs 0 I16_MAX),
    ("vox_threshold", unsigned .voxThreshold 0 I16_MAX),
    ("noise_squelch_hysteresis", unsigned .noiseSquelchHysteresis 0 I16_MAX),
    ("noise_filter_type", unsigned .noiseFilterType 0 1),
    ("squelch_delay_ms", unsigned .squelchDelayMs 0 511),
    ("on_delay_frames", unsigned .onDelayFrames 0 3000),
    ("squelch_level", unsigned .squelchLevel 0 999),
    ("frequency_hz", unsigned .receiveFrequencyHz 0 I32_MAX)]

open ConfigTarget in
/-- `apply_transmit` -/
def applyTransmit : List (String × ConfigTarget) :=
  [("signaling_method", ⟨.transmitSignalingMethod, parseSignalingMethod⟩),
    ("preemphasis_enabled", .flag .preemphasisEnabled),
    ("settle_ms", unsigned .settleMs 0 I32_MAX),
    ("rx_blanking_ms", unsigned .rxBlankingMs 0 I16_MAX),
    ("off_delay_frames", unsigned .offDelayFrames 0 3000),
    ("frequency_hz", unsigned .transmitFrequencyHz 0 I32_MAX)]

open ConfigTarget in
/-- `apply_ctcss` -/
def applyCtcss : List (String × ConfigTarget) :=
  [("receive_frequencies", ⟨.receiveFrequencies, parseToneList⟩),
    ("transmit_frequencies", ⟨.transmitFrequencies, parseToneList⟩),
    ("receive_source", ⟨.receiveSource, parseCtcssSource⟩),
    ("receive_decoder_gain_db", .number .receiveDecoderGainDb (-60.0) 60.0),
    ("receive_override_enabled", .flag .receiveOverrideEnabled),
    ("receive_relax", unsigned .receiveRelax 0 1),
    ("transmit_default_hz", ⟨.transmitDefault, parseDefaultTone⟩),
    ("transmit_peak_dbfs", .number .transmitPeakDbfs (-90.0) 0.0),
    ("turnoff_mode", ⟨.turnoffMode, parseCtcssTurnoffMode⟩),
    ("phase_shift_degrees",
      ⟨.number .phaseShiftDegrees, parsePositiveF64 "requires a positive finite number of degrees"⟩),
    ("tail_duration_ms", unsigned .tailDurationMs 40 I16_MAX),
    ("tail_frequency_hz",
      ⟨.number .tailFrequencyHz, parsePositiveF64 "requires a positive finite frequency"⟩)]

open ConfigTarget in
/-- `apply_dcs` -/
def applyDcs : List (String × ConfigTarget) :=
  [("receive_code", ⟨.receiveCode, parseDcsCode⟩),
    ("transmit_code", ⟨.transmitCode, parseDcsCode⟩),
    ("turnoff_code_enabled", .flag .turnoffCodeEnabled),
    ("turnoff_duration_ms", unsigned .turnoffDurationMs 150 200),
    ("peak_dbfs", .number .dcsPeakDbfs (-90.0) 0.0)]

open ConfigTarget in
/-- `apply_duplex` -/
def applyDuplex : List (String × ConfigTarget) :=
  [("duplex_radio_mode", ⟨.radioMode, parseRadioDuplexMode⟩),
    ("duplex_local_repeat_level", unsigned .localRepeatLevel 0 999)]

/-- `apply_diagnostics` -/
def applyDiagnostics : List (String × ConfigTarget) :=
  [("diagnostics_status_publication_interval_ms", .unsigned .statusPublicationIntervalMs 1 U32_MAX)]

/-- The rows of an applier. -/
def SettingApplier.rows : SettingApplier → List (String × ConfigTarget)
  | .general | .radio => [("channel_enabled", .flag .channelEnabled)]
  | .asterisk => applyAsterisk
  | .hardware => applyHardware
  | .receive => applyReceive
  | .transmit => applyTransmit
  | .ctcss => applyCtcss
  | .dcs => applyDcs
  | .duplex => applyDuplex
  | .diagnostics => applyDiagnostics

/-! ## Pins -/

/-- `gpio_mode_index`: the digits are parsed as a number, so that `01` and `+1` are pin 1 too. -/
def gpioModeIndex (name : Str) : Option (Fin 8) := do
  let rest ← stripPrefix "hardware_gpio_".toList name
  let digits ← stripSuffix "_mode".toList rest
  let pin ← fromStrRadix 10 WORD digits
  if h : 1 ≤ pin ∧ pin ≤ 8 then some ⟨pin - 1, pinIndex_lt h⟩ else none

/-- The names of the port's outputs, pin by pin. -/
def PARALLEL_OUTPUT_NAMES : List String :=
  ["hardware_parallel_pin_2_assignment", "hardware_parallel_pin_3_assignment",
    "hardware_parallel_pin_4_assignment", "hardware_parallel_pin_5_assignment",
    "hardware_parallel_pin_6_assignment", "hardware_parallel_pin_7_assignment",
    "hardware_parallel_pin_8_assignment", "hardware_parallel_pin_9_assignment"]

/-- `parallel_output_index` -/
def parallelOutputIndex (name : Str) : Option (Fin 8) :=
  (List.finRange 8).find? fun i => (PARALLEL_OUTPUT_NAMES.get i).toList = name

/-- The names of the port's inputs, pin by pin. -/
def PARALLEL_INPUT_NAMES : List String :=
  ["hardware_parallel_pin_10_assignment", "hardware_parallel_pin_12_assignment",
    "hardware_parallel_pin_13_assignment", "hardware_parallel_pin_15_assignment"]

/-- `parallel_input_index` -/
def parallelInputIndex (name : Str) : Option (Fin 4) :=
  (List.finRange 4).find? fun i => (PARALLEL_INPUT_NAMES.get i).toList = name

/-- The pins behind the rows of `apply_hardware`. -/
def pinTarget (name : Str) : Option ConfigTarget :=
  match gpioModeIndex name, parallelOutputIndex name, parallelInputIndex name with
  | some i, _, _ => some ⟨.gpioMode i, parseGpioMode⟩
  | none, some i, _ => some ⟨.parallelOutput i, fun value => (parseParallelOutput value).map some⟩
  | none, none, some i => some ⟨.parallelInput i, fun value => (parseParallelInput value).map some⟩
  | none, none, none => none

/-! ## Appliers -/

/-- The options that select a profile. -/
def ALL_PROFILE_SELECTORS : List String :=
  ["asterisk_profile", "hardware_profile", "receive_profile", "transmit_profile", "ctcss_profile",
    "dcs_profile", "duplex_profile", "diagnostics_profile", "local_profile", "link_profile",
    "voice_telemetry_profile"]

/-- The target of an option. -/
def SettingApplier.target (applier : SettingApplier) (name : Str) : Option ConfigTarget :=
  match applier.rows.find? fun row => row.1.toList = name with
  | some row => some row.2
  | none => if applier = .hardware then pinTarget name else none

/-- The option is consumed elsewhere. -/
def SettingApplier.consumes (applier : SettingApplier) (name : Str) : Bool :=
  applier = .radio && ALL_PROFILE_SELECTORS.any fun known => known.toList = name

/-- An assignment as `explicit_values` gives it. -/
abbrev Entry := Str × Str

/-- The name of an option as settings are compared by it. -/
def Entry.key (entry : Entry) : Str := asciiKey (trim entry.1)

/-- A value that the option does not take. -/
def invalidWarning (source sectionName : Str) (entry : Entry) (fallback reason : Str) :
    ResolutionWarning :=
  ⟨.invalidValue, source, sectionName, entry.1, entry.2, fallback, reason⟩

/-- A name that is no option. -/
def unknownWarning (source sectionName : Str) (entry : Entry) : ResolutionWarning :=
  ⟨.unknownOption, source, sectionName, entry.1, entry.2, "ignored".toList,
    "is unknown and was ignored".toList⟩

/-- One assignment of a section. -/
def SettingApplier.apply (applier : SettingApplier) (source sectionName : Str) (entry : Entry) :
    Effect ConfigField.Value ResolutionWarning :=
  match applier.target entry.key with
  | some target =>
    .assign target.field ((target.parse entry.2).mapError fun reason inherited =>
      invalidWarning source sectionName entry (configFallback target.field inherited) reason)
  | none =>
    if applier.consumes entry.key then .nothing
    else .report (unknownWarning source sectionName entry)

/-- The values and the warnings of a resolution that goes on. -/
abbrev Resolving := ConfigValues × List ResolutionWarning

/-- The options of earlier versions. -/
def SILENTLY_IGNORED_SETTINGS : List String := ["duplexmode", "duplex_local_repeat_mode"]

/-- The assignments that `apply_overlay` looks at. -/
def overlayEntries (values : BTreeMap Str Str) : List Entry :=
  values.entries.filter fun entry =>
    !SILENTLY_IGNORED_SETTINGS.any fun ignored => ignored.toList = Entry.key entry

/-- `apply_overlay`; the loop has `record_assignment`. -/
def applyOverlay (applier : SettingApplier) (source sectionName : Str) (values : BTreeMap Str Str)
    (state : Resolving) : Except StationConfigError Resolving :=
  (walk Entry.key Prod.snd trim
    (fun state entry => Effect.step state (applier.apply source sectionName entry))
    .empty (overlayEntries values) state).mapError fun (name, first, second) =>
      .conflictingAssignment source sectionName name first second

/-! ## The document -/

/-- The kinds of profiles, in the order in which they are applied. -/
def PROFILE_KINDS : List (Str × SettingApplier) :=
  [("asterisk".toList, .asterisk), ("hardware".toList, .hardware), ("receive".toList, .receive),
    ("transmit".toList, .transmit), ("ctcss".toList, .ctcss), ("dcs".toList, .dcs),
    ("duplex".toList, .duplex), ("diagnostics".toList, .diagnostics)]

/-- The warning of a profile that the channel selects and that is missing. -/
def missingWarning (document : ConfigDocument) (channel kind source fallback : Str) :
    ResolutionWarning :=
  ⟨.invalidValue, source, channel, ConfigDocument.selector kind,
    (document.selections channel kind).head?.getD channel, fallback, "missing profile".toList⟩

/-- `resolved_section`: the section of a kind, and its warning. -/
def resolvedSection (document : ConfigDocument) (channel kind source : Str) :
    Except ConfigError (Str × List ResolutionWarning) :=
  match document.selectedSection channel kind with
  | .ok sectionName => .ok (sectionName, [])
  | .error (.missingProfile _) =>
    let fallback := if document.hasSection (kind ++ ' ' :: channel) then kind ++ ' ' :: channel else kind
    .ok (fallback, [missingWarning document channel kind source fallback])
  | .error e => .error e

/-- The part of the values that the normalisation and the validation read. -/
def ConfigValues.station (values : ConfigValues) : StationConfig F64 where
  receive :=
    { signalingMethod := values .receiveSignalingMethod
      audioSource := values .audioSource
      cosAssignment := values .cosAssignment
      vadMode := values .vadMode }
  transmit :=
    { signalingMethod := values .transmitSignalingMethod
      preemphasisEnabled := values (.flag .preemphasisEnabled) }
  ctcss :=
    { receiveFrequencies := values .receiveFrequencies
      transmitFrequencies := values .transmitFrequencies
      receiveSource := values .receiveSource
      receiveOverrideEnabled := values (.flag .receiveOverrideEnabled)
      receiveRelax := values (.integer .receiveRelax)
      transmitDefault := values .transmitDefault
      transmitPeakDbfs := values (.number .transmitPeakDbfs)
      phaseShiftDegrees := values (.number .phaseShiftDegrees)
      tailDurationMs := values (.integer .tailDurationMs)
      tailFrequencyHz := values (.number .tailFrequencyHz) }
  dcs :=
    { receiveCode := values .receiveCode
      transmitCode := values .transmitCode
      turnoffCodeEnabled := values (.flag .turnoffCodeEnabled)
      turnoffDurationMs := values (.integer .turnoffDurationMs)
      peakDbfs := values (.number .dcsPeakDbfs) }
  hardware :=
    { outputAAssignment := values .outputAAssignment
      outputBAssignment := values .outputBAssignment }

/-- `normalize_vad` writes the carrier source and the mode. -/
def normalized (document : ConfigDocument) (source receiveSection : Str) (state : Resolving) :
    Resolving :=
  let after := state.1.station.normalizeVad document source receiveSection state.2
  (Function.update (Function.update state.1 .cosAssignment after.1.receive.cosAssignment) .vadMode
    after.1.receive.vadMode, after.2)

end Station
end UsbRadioPlus
