import UsbRadioPlus.Core.Signaling
import UsbRadioPlus.Rust.Float
import UsbRadioPlus.Station.RemoteValidity
import UsbRadioPlus.Sys.Overlay

/-!
# Options of a station (`rust/core/src/station_config.rs`)

The fields of a station are indexed (`ConfigField`), by their paths in the source. The branches of an
applier are its rows: the name of the option, the field that it sets and the grammar of its values
(`ConfigTarget`). The pins of the hardware are matched behind its rows.
-/

namespace UsbRadioPlus
namespace Station

open Sys Rust Rust.Str UsbRadioPlus.Core

/-! ## Values -/

/-- Jitter buffer implementation. -/
inductive JitterBufferImplementation where
  | fixed | adaptive
  deriving DecidableEq, Repr

/-- Supported CM119 interface wiring layouts. -/
inductive HardwareInterfaceType where
  | dudeUsb | sphUsb | nhrc | custom
  deriving DecidableEq, Repr

/-- Direction and initial level of one configurable CM119 GPIO. -/
inductive GpioMode where
  | input | outputLow | outputHigh
  deriving DecidableEq, Repr

/-- What an output of the port does. -/
inductive ParallelOutputAssignment where
  | low | high | pushToTalk
  deriving DecidableEq, Repr

/-- What an input of the port reports. -/
inductive ParallelInputAssignment where
  | input | carrier | ctcss
  deriving DecidableEq, Repr

/-- CTCSS action performed immediately before PTT release. -/
inductive CtcssTurnoffMode where
  | none | phaseShift | toneRemove | tailTone
  deriving DecidableEq, Repr

/-- Duplex mode of the radio. -/
inductive RadioDuplexMode where
  | half | full
  deriving DecidableEq, Repr

/-! ## Fields -/

/-- The switches of a station. -/
inductive ConfigFlag where
  | channelEnabled
  | jitterBufferEnabled | jitterBufferLoggingEnabled | jitterBufferForceEnabled
  | jitterBufferVideoSyncEnabled
  | pttInverted | eepromEnabled
  | preemphasisEnabled | receiveOverrideEnabled | turnoffCodeEnabled
  deriving DecidableEq, Repr

/-- The fields of unsigned integers. -/
inductive ConfigInteger where
  | jitterBufferMaxSizeMs | jitterBufferResyncThresholdMs | jitterBufferTargetExtraMs
  | inputExtraBufferMs | outputExtraBufferMs | voterReporting | baseAddress
  | vadHangMs | voxHangMs | voxThreshold | noiseSquelchHysteresis | noiseFilterType | squelchDelayMs
  | onDelayFrames | squelchLevel | receiveFrequencyHz
  | settleMs | rxBlankingMs | offDelayFrames | transmitFrequencyHz
  | receiveRelax | tailDurationMs | turnoffDurationMs | localRepeatLevel | statusPublicationIntervalMs
  deriving DecidableEq, Repr

/-- The scalars of a station. -/
inductive ConfigNumber where
  | inputGainDb | outputAGainDb | outputBGainDb | deemphasisCornerHz | preemphasisCornerHz
  | receiveDecoderGainDb | transmitPeakDbfs | phaseShiftDegrees | tailFrequencyHz | dcsPeakDbfs
  deriving DecidableEq, Repr

/-- The texts of a station. -/
inductive ConfigText where
  | deviceIdentifier | serial | gpioUsbPortPath | parallelPortDevice
  deriving DecidableEq, Repr

/-- The fields of a configuration, by the type of their value. -/
inductive ConfigField where
  | flag (f : ConfigFlag)
  | integer (n : ConfigInteger)
  | number (n : ConfigNumber)
  | text (t : ConfigText)
  | jitterBufferImplementation
  | outputAAssignment | outputBAssignment | interfaceType
  /-- Optional clipping-indicator GPIO number, from 1 through 8. -/
  | clipLedGpio
  | gpioMode (index : Fin 8)
  /-- Output pins 2 through 9. -/
  | parallelOutput (index : Fin 8)
  /-- Input pins 10, 12, 13 and 15. -/
  | parallelInput (index : Fin 4)
  | receiveSignalingMethod | audioSource | cosAssignment | vadMode
  | transmitSignalingMethod
  | receiveFrequencies | transmitFrequencies | receiveSource | transmitDefault | turnoffMode
  | receiveCode | transmitCode
  | radioMode
  deriving DecidableEq, Repr

/-- The type of a field. -/
@[reducible] def ConfigField.Value : ConfigField → Type
  | .flag _ => Bool
  | .integer _ => Nat
  | .number _ => F64
  | .text _ => Str
  | .jitterBufferImplementation => JitterBufferImplementation
  | .outputAAssignment | .outputBAssignment => HardwareOutputAssignment
  | .interfaceType => HardwareInterfaceType
  | .clipLedGpio => Option Nat
  | .gpioMode _ => GpioMode
  | .parallelOutput _ => Option ParallelOutputAssignment
  | .parallelInput _ => Option ParallelInputAssignment
  | .receiveSignalingMethod | .transmitSignalingMethod => SignalingMethod
  | .audioSource => ReceiveAudioSource
  | .cosAssignment => CarrierSource
  | .vadMode => VadMode
  | .receiveFrequencies | .transmitFrequencies => List CtcssTone
  | .receiveSource => CtcssSource
  | .transmitDefault => CtcssTone
  | .turnoffMode => CtcssTurnoffMode
  | .receiveCode | .transmitCode => DcsCode
  | .radioMode => RadioDuplexMode

/-- The values of a station configuration. -/
abbrev ConfigValues := (f : ConfigField) → f.Value

theorem pinIndex_lt {pin : Nat} (h : 1 ≤ pin ∧ pin ≤ 8) : pin - 1 < 8 := by omega

namespace ConfigValues

/-- The switches of `StationConfig::default`. -/
def defaultFlag : ConfigFlag → Bool
  | .channelEnabled | .eepromEnabled | .preemphasisEnabled | .turnoffCodeEnabled => true
  | _ => false

/-- The integers of `StationConfig::default`. -/
def defaultInteger : ConfigInteger → Nat
  | .jitterBufferMaxSizeMs => 200
  | .jitterBufferResyncThresholdMs => 1000
  | .jitterBufferTargetExtraMs => 40
  | .inputExtraBufferMs | .outputExtraBufferMs | .voterReporting => 0
  | .baseAddress => 0x378
  | .vadHangMs => 1000
  | .voxHangMs => 2000
  | .voxThreshold => 0
  | .noiseSquelchHysteresis => 3000
  | .noiseFilterType | .squelchDelayMs | .onDelayFrames => 0
  | .squelchLevel => 500
  | .receiveFrequencyHz => 0
  | .settleMs => 500
  | .rxBlankingMs | .offDelayFrames | .transmitFrequencyHz => 0
  | .receiveRelax => 1
  | .tailDurationMs | .turnoffDurationMs => 180
  | .localRepeatLevel => 0
  | .statusPublicationIntervalMs => 50

/-- The scalars of `StationConfig::default`. -/
def defaultNumber : ConfigNumber → F64
  | .inputGainDb | .outputAGainDb | .outputBGainDb => 0.0
  | .deemphasisCornerHz | .preemphasisCornerHz => 300.0
  | .receiveDecoderGainDb => 0.0
  | .transmitPeakDbfs | .dcsPeakDbfs => -24.0
  | .phaseShiftDegrees => 120.0
  | .tailFrequencyHz => 55.0

/-- The texts of `StationConfig::default`. -/
def defaultText : ConfigText → Str
  | .parallelPortDevice => "/dev/parport0".toList
  | _ => []

theorem supported_1000 : 1000 ∈ CTCSS_TENTHS_HZ := by decide

/-- A tone of 100 Hz. -/
def defaultTone : CtcssTone := ⟨1000, supported_1000⟩

theorem nineteen_lt : 19 < 512 := by decide

/-- `0o23` -/
def defaultCode : DcsCode := ⟨19, false, nineteen_lt⟩

/-- `StationConfig::default` -/
def default : ConfigValues
  | .flag f => defaultFlag f
  | .integer n => defaultInteger n
  | .number n => defaultNumber n
  | .text t => defaultText t
  | .jitterBufferImplementation => .fixed
  | .outputAAssignment => .voiceCtcss
  | .outputBAssignment => .off
  | .interfaceType => .dudeUsb
  | .clipLedGpio | .parallelOutput _ | .parallelInput _ => none
  | .gpioMode _ => .input
  | .receiveSignalingMethod | .transmitSignalingMethod => .carrier
  | .audioSource => .flat
  | .cosAssignment => .dsp
  | .vadMode => .off
  | .receiveFrequencies | .transmitFrequencies => [defaultTone]
  | .receiveSource => .dsp
  | .transmitDefault => defaultTone
  | .turnoffMode => .phaseShift
  | .receiveCode | .transmitCode => defaultCode
  | .radioMode => .half

end ConfigValues

/-! ## Grammars -/

/-- The value of `assign_bool`: only `yes` and `no`, in any case. -/
def parseBool (value : Str) : Except Str Bool :=
  if eqIgnoreAsciiCase (trim value) "yes".toList then .ok true
  else if eqIgnoreAsciiCase (trim value) "no".toList then .ok false
  else .error "requires yes or no".toList

/-- Digits with the prefixes of C. -/
def parseCMagnitude (text : Str) : Option Nat :=
  match text with
  | '0' :: 'x' :: digits | '0' :: 'X' :: digits =>
    if digits = [] then none else fromStrRadix 16 WORD digits
  | '0' :: c :: digits => fromStrRadix 8 WORD (c :: digits)
  | [] => none
  | _ => fromStrRadix 10 WORD text

/-- `parse_c_unsigned`: decimal, octal with a leading zero, or hexadecimal. -/
def parseCUnsigned (value : Str) : Option Nat :=
  let unsigned := match trim value with
    | '+' :: rest => rest
    | text => text
  match unsigned with
  | [] | '-' :: _ => none
  | _ => parseCMagnitude unsigned

/-- `parsed_u64` -/
def parseUnsigned (minimum maximum : Nat) (value : Str) : Except Str Nat :=
  match (parseCUnsigned value).filter fun n => minimum ≤ n && n ≤ maximum with
  | some n => .ok n
  | none => .error ("requires an integer from ".toList ++ Nat.toDigits 10 minimum ++
      " through ".toList ++ Nat.toDigits 10 maximum)

/-- A finite number with the property, or the reason. -/
def parseFinite (accepts : F64 → Bool) (reason value : Str) : Except Str F64 :=
  match (F64.parse (trim value)).filter fun n => n.isFinite && accepts n with
  | some n => .ok n
  | none => .error reason

/-- The value of `assign_f64`: a finite number within its bounds. -/
def parseF64 (minimum maximum : F64) : Str → Except Str F64 :=
  parseFinite (fun n => minimum.le n && n.le maximum)
    ("requires a finite number from ".toList ++ minimum.text ++ " through ".toList ++ maximum.text)

/-- The value of `assign_positive_f64`. -/
def parsePositiveF64 (reason : String) : Str → Except Str F64 :=
  parseFinite (F64.lt 0) reason.toList

/-- The value of `assign_positive_bounded_f64`. -/
def parsePositiveBoundedF64 (maximum : F64) : Str → Except Str F64 :=
  parseFinite (fun n => F64.lt 0 n && n.le maximum)
    ("requires a positive finite number through ".toList ++ maximum.text)

/-- The values with a word each. -/
def parseWord {V : Type} (words : List (String × V)) (reason : String) (value : Str) : Except Str V :=
  match words.find? fun entry => eqIgnoreAsciiCase (trim value) entry.1.toList with
  | some entry => .ok entry.2
  | none => .error reason.toList

/-- The values with a number each. -/
def parseIndex {V : Type} (values : List V) (reason : String) (value : Str) : Except Str V :=
  match (parseCUnsigned value).bind fun n => values[n]? with
  | some v => .ok v
  | none => .error reason.toList

/-- `parse_jitter_implementation` -/
def parseJitterImplementation : Str → Except Str JitterBufferImplementation :=
  parseWord [("fixed", .fixed), ("adaptive", .adaptive)] "requires fixed or adaptive"

/-- `parse_hardware_interface` -/
def parseHardwareInterface : Str → Except Str HardwareInterfaceType :=
  parseIndex [.dudeUsb, .sphUsb, .nhrc, .custom] "requires 0, 1, 2, or 3"

/-- `parse_hardware_output` -/
def parseHardwareOutput : Str → Except Str HardwareOutputAssignment :=
  parseWord [("off", .off), ("voice", .voice), ("ctcss", .ctcss), ("voice_ctcss", .voiceCtcss),
    ("auxvoice", .auxiliaryVoice)] "requires off, voice, ctcss, voice_ctcss, or auxvoice"

/-- `parse_gpio_mode` -/
def parseGpioMode : Str → Except Str GpioMode :=
  parseWord [("in", .input), ("out0", .outputLow), ("out1", .outputHigh)] "requires in, out0, or out1"

/-- `parse_parallel_output` -/
def parseParallelOutput : Str → Except Str ParallelOutputAssignment :=
  parseWord [("out0", .low), ("out1", .high), ("ptt", .pushToTalk)] "requires out0, out1, or ptt"

/-- `parse_parallel_input` -/
def parseParallelInput : Str → Except Str ParallelInputAssignment :=
  parseWord [("in", .input), ("cor", .carrier), ("ctcss", .ctcss)] "requires in, cor, or ctcss"

/-- `parse_signaling_method` -/
def parseSignalingMethod : Str → Except Str SignalingMethod :=
  parseWord [("carrier", .carrier), ("ctcss", .ctcss), ("dcs", .dcs)] "requires carrier, ctcss, or dcs"

/-- `parse_receive_audio_source` -/
def parseReceiveAudioSource : Str → Except Str ReceiveAudioSource :=
  parseWord [("no", .disabled), ("speaker", .speaker), ("flat", .flat)] "requires no, speaker, or flat"

/-- `parse_carrier_source` -/
def parseCarrierSource : Str → Except Str CarrierSource :=
  parseWord [("no", .disabled), ("dsp", .dsp), ("vox", .vox), ("external", .external),
    ("open", .open), ("usb", .usb), ("usbinvert", .usbInverted), ("pp", .parallel),
    ("ppinvert", .parallelInverted)]
    "requires no, dsp, vox, external, open, usb, usbinvert, pp, or ppinvert"

/-- `parse_ctcss_source` -/
def parseCtcssSource : Str → Except Str CtcssSource :=
  parseWord [("no", .disabled), ("usb", .usb), ("usbinvert", .usbInverted), ("dsp", .dsp),
    ("pp", .parallel), ("ppinvert", .parallelInverted)]
    "requires no, usb, usbinvert, dsp, pp, or ppinvert"

/-- `parse_ctcss_turnoff_mode` -/
def parseCtcssTurnoffMode : Str → Except Str CtcssTurnoffMode :=
  parseWord [("no", .none), ("ctcss_phase_shift", .phaseShift), ("ctcss_tone_remove", .toneRemove),
    ("ctcss_tail_tone", .tailTone)]
    "requires no, ctcss_phase_shift, ctcss_tone_remove, or ctcss_tail_tone"

/-- `parse_radio_duplex_mode` -/
def parseRadioDuplexMode : Str → Except Str RadioDuplexMode :=
  parseIndex [.half, .full] "requires 0 or 1"

/-- `CtcssTone::from_str`: the `f32` of a supported tone. -/
def parseTone (text : Str) : Option CtcssTone :=
  ((F64.parseAs F64.binary32 (trim text)).bind fun parsed => CTCSS_TENTHS_HZ.find? fun tenths =>
    parsed = F64.ofRatio F64.binary32 false tenths 10).bind CtcssTone.fromTenthsHz

/-- A single tone of the table. -/
def parseDefaultTone (value : Str) : Except Str CtcssTone :=
  match parseTone value with
  | some tone => .ok tone
  | none => .error "frequency is not a supported CTCSS tone".toList

/-- `parse_tone_list`: at least one tone, and every one of them supported. -/
def parseToneList (value : Str) : Except Str (List CtcssTone) :=
  let invalid :=
    .error "requires a nonempty comma-separated list of supported CTCSS tones".toList
  if (trim value).isEmpty then invalid
  else
    match (value.splitOn ',').mapM parseTone with
    | none => invalid
    | some tones =>
      if tones.length > CTCSS_TENTHS_HZ.length then
        .error ("supports at most ".toList ++ Nat.toDigits 10 CTCSS_TENTHS_HZ.length ++
          " CTCSS tone entries".toList)
      else .ok tones

/-- `DcsCode::from_str` -/
def parseDcsCode (value : Str) : Except Str DcsCode :=
  match Core.DcsCode.parse value with
  | some code => .ok ⟨code.value, code.polarity = .inverted, code.lt⟩
  | none =>
    .error "DCS code requires exactly three octal digits followed by N or I".toList

/-! ## Fallbacks -/

/-- A tone as the configuration spells it. -/
def toneText (tone : CtcssTone) : Str :=
  Nat.toDigits 10 (tone.tenthsHz / 10) ++ '.' :: Nat.toDigits 10 (tone.tenthsHz % 10)

/-- A code as the configuration spells it. -/
def codeText (code : DcsCode) : Str :=
  let digits := Nat.toDigits 8 code.value
  List.replicate (3 - digits.length) '0' ++ digits ++ [if code.inverted then 'I' else 'N']

/-- `Display` of the values of `parseWord`. -/
def wordText {V : Type} [DecidableEq V] (words : List (String × V)) (value : V) : Str :=
  match words.find? fun entry => entry.2 = value with
  | some entry => entry.1.toList
  | none => []

/-- The text of a value that an assignment leaves in place. -/
def configFallback : (f : ConfigField) → f.Value → Str
  | .flag _, value => if value then "yes".toList else "no".toList
  | .integer .baseAddress, value => "0x".toList ++ Nat.toDigits 16 value
  | .integer _, value => Nat.toDigits 10 value
  | .number _, value => F64.text value
  | .text _, value => value
  | .jitterBufferImplementation, value =>
    wordText [("fixed", JitterBufferImplementation.fixed), ("adaptive", .adaptive)] value
  | .outputAAssignment, value | .outputBAssignment, value =>
    wordText [("off", HardwareOutputAssignment.off), ("voice", .voice), ("ctcss", .ctcss),
      ("voice_ctcss", .voiceCtcss), ("auxvoice", .auxiliaryVoice)] value
  | .interfaceType, value =>
    wordText [("0", HardwareInterfaceType.dudeUsb), ("1", .sphUsb), ("2", .nhrc), ("3", .custom)] value
  | .clipLedGpio, value => Nat.toDigits 10 (value.getD 0)
  | .gpioMode _, value =>
    wordText [("in", GpioMode.input), ("out0", .outputLow), ("out1", .outputHigh)] value
  | .parallelOutput _, value =>
    value.elim "unconfigured".toList
      (wordText [("out0", ParallelOutputAssignment.low), ("out1", .high), ("ptt", .pushToTalk)])
  | .parallelInput _, value =>
    value.elim "unconfigured".toList
      (wordText [("in", ParallelInputAssignment.input), ("cor", .carrier), ("ctcss", .ctcss)])
  | .receiveSignalingMethod, value | .transmitSignalingMethod, value =>
    wordText [("carrier", SignalingMethod.carrier), ("ctcss", .ctcss), ("dcs", .dcs)] value
  | .audioSource, value =>
    wordText [("no", ReceiveAudioSource.disabled), ("speaker", .speaker), ("flat", .flat)] value
  | .cosAssignment, value =>
    wordText [("no", CarrierSource.disabled), ("dsp", .dsp), ("vox", .vox), ("external", .external),
      ("open", .open), ("usb", .usb), ("usbinvert", .usbInverted), ("pp", .parallel),
      ("ppinvert", .parallelInverted)] value
  | .vadMode, value => wordText [("off", VadMode.off), ("kerchunk", .kerchunk), ("on", .on)] value
  | .receiveFrequencies, value | .transmitFrequencies, value =>
    List.intercalate [','] (value.map toneText)
  | .receiveSource, value =>
    wordText [("no", CtcssSource.disabled), ("usb", .usb), ("usbinvert", .usbInverted), ("dsp", .dsp),
      ("pp", .parallel), ("ppinvert", .parallelInverted)] value
  | .transmitDefault, value => toneText value
  | .turnoffMode, value =>
    wordText [("no", CtcssTurnoffMode.none), ("ctcss_phase_shift", .phaseShift),
      ("ctcss_tone_remove", .toneRemove), ("ctcss_tail_tone", .tailTone)] value
  | .receiveCode, value | .transmitCode, value => codeText value
  | .radioMode, value => wordText [("0", RadioDuplexMode.half), ("1", .full)] value

end Station
end UsbRadioPlus
