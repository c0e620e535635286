import Mathlib.Data.List.Basic
import Mathlib.Logic.Function.Basic
import UsbRadioPlus.Rust.Word
import UsbRadioPlus.Station.Plan

/-!
# Remote signaling of a plan (`rust/station/src/remote_plan.rs`)

A remote operating state is translated into the signaling of a station: its configuration, its radio
session and its processing. The records have the fields that this translation and the rules about it
read (`core/src/station_config.rs`, `radio/src/lib.rs`, `runtime/src/processing.rs`).

Floating-point numbers are of a type `F`; `dbToLinear` is `db_to_linear`.
-/

namespace UsbRadioPlus
namespace Station

/-! ## Configuration -/

/-- The tones of the native engine, in tenths of a hertz. -/
def CTCSS_TENTHS_HZ : List Nat :=
  [670, 719, 744, 770, 797, 825, 854, 885, 915, 948, 974, 1000, 1035, 1072, 1109, 1148, 1188,
    1230, 1273, 1318, 1365, 1413, 1462, 1514, 1567, 1622, 1679, 1738, 1799, 1862, 1928, 2035, 2107,
    2181, 2257, 2336, 2418, 2503]

/-- `CTCSS_TONE_COUNT` -/
def CTCSS_TONE_COUNT : Nat := 38

/-- One exact tone supported by the native CTCSS engine. -/
structure CtcssTone where
  tenthsHz : Nat
  supported : tenthsHz ∈ CTCSS_TENTHS_HZ
  deriving DecidableEq

namespace CtcssTone

/-- `from_tenths_hz` -/
def fromTenthsHz (tenthsHz : Nat) : Option CtcssTone :=
  if h : tenthsHz ∈ CTCSS_TENTHS_HZ then some ⟨tenthsHz, h⟩ else none

/-- This tone's zero-based native decoder-table index. -/
def tableIndex (self : CtcssTone) : Fin CTCSS_TONE_COUNT :=
  ⟨CTCSS_TENTHS_HZ.idxOf self.tenthsHz, List.idxOf_lt_length_of_mem self.supported⟩

end CtcssTone

/-- Signaling of one direction. -/
inductive SignalingMethod where
  | carrier
  | ctcss
  | dcs
  deriving DecidableEq, Repr

/-- Source of received CTCSS qualification. -/
inductive CtcssSource where
  | disabled
  | usb
  | usbInverted
  | dsp
  | parallel
  | parallelInverted
  deriving DecidableEq, Repr

/-- Exact three-octal-digit DCS code and polarity selection. -/
structure DcsCode where
  value : Nat
  inverted : Bool
  bound : value < 512
  deriving DecidableEq

/-- Where the audio of the receiver comes from. -/
inductive ReceiveAudioSource where
  | disabled
  | speaker
  | flat
  deriving DecidableEq, Repr

/-- Voice activity detection. -/
inductive VadMode where
  | off
  | kerchunk
  | on
  deriving DecidableEq, Repr

/-- Signal routed to one CM119 playback channel. -/
inductive HardwareOutputAssignment where
  | off
  | voice
  | ctcss
  | voiceCtcss
  | auxiliaryVoice
  deriving DecidableEq, Repr

/-- `carries_signaling` -/
def HardwareOutputAssignment.carriesSignaling : HardwareOutputAssignment → Bool
  | .ctcss | .voiceCtcss => true
  | _ => false

/-- The settings of the receiver. -/
structure ReceiveSettings where
  signalingMethod : SignalingMethod
  audioSource : ReceiveAudioSource
  cosAssignment : CarrierSource
  vadMode : VadMode
  deriving DecidableEq, Repr

/-- The settings of the transmitter. -/
structure TransmitSettings where
  signalingMethod : SignalingMethod
  preemphasisEnabled : Bool
  deriving DecidableEq, Repr

/-- The settings of the tones. -/
structure CtcssSettings (F : Type) where
  receiveFrequencies : List CtcssTone
  transmitFrequencies : List CtcssTone
  receiveSource : CtcssSource
  receiveOverrideEnabled : Bool
  receiveRelax : Nat
  transmitDefault : CtcssTone
  transmitPeakDbfs : F
  phaseShiftDegrees : F
  tailDurationMs : Nat
  tailFrequencyHz : F

/-- The settings of the codes. -/
structure DcsSettings (F : Type) where
  receiveCode : DcsCode
  transmitCode : DcsCode
  turnoffCodeEnabled : Bool
  turnoffDurationMs : Nat
  peakDbfs : F

/-- What the two outputs carry. -/
structure HardwareSettings where
  outputAAssignment : HardwareOutputAssignment
  outputBAssignment : HardwareOutputAssignment
  deriving DecidableEq, Repr

/-- The station part of a channel configuration. -/
structure StationConfig (F : Type) where
  receive : ReceiveSettings
  transmit : TransmitSettings
  ctcss : CtcssSettings F
  dcs : DcsSettings F
  hardware : HardwareSettings

/-! ## The radio session -/

/-- Carrier source of the radio session. -/
inductive RadioCarrierSource where
  | disabled
  | dspNoise
  | vox
  | usb
  | usbInverted
  | parallel
  | parallelInverted
  | external
  | «open»
  deriving DecidableEq, Repr

/-- The carrier source of the radio for the one of the configuration. -/
def carrierSource : CarrierSource → RadioCarrierSource
  | .disabled => .disabled
  | .dsp => .dspNoise
  | .vox => .vox
  | .external => .external
  | .open => .open
  | .usb => .usb
  | .usbInverted => .usbInverted
  | .parallel => .parallel
  | .parallelInverted => .parallelInverted

/-- Native subaudible decoder selected for receive qualification. -/
inductive ReceiveSignaling where
  | disabled
  /-- The table entries that are decoded, and the decoder's tolerance. -/
  | ctcss (tones : BitVec 64) (relaxed : Bool)
  | dcs (code : Nat) (inverted : Bool)
  deriving DecidableEq, Repr

/-- Transmit CTCSS selection and tail policy. -/
structure CtcssTransmitConfig (F : Type) where
  defaultFrequencyTenthsHz : Nat
  mappedFrequenciesTenthsHz : Fin CTCSS_TONE_COUNT → Nat
  peak : F
  turnoffDurationMilliseconds : Nat
  turnoffPhaseShiftDegrees : F
  turnoffTailToneHz : F

/-- What the DCS encoder is set to. -/
structure DcsTransmitConfig (F : Type) where
  code : Nat
  inverted : Bool
  peak : F
  turnoffEnabled : Bool
  turnoffDurationMilliseconds : Nat

/-- Native subaudible signaling selected for transmit rendering. -/
inductive TransmitSignaling (F : Type) where
  | disabled
  | ctcss (config : CtcssTransmitConfig F)
  | dcs (config : DcsTransmitConfig F)

/-- What a session of the radio is prepared from. -/
structure SessionConfig (F : Type) where
  generationId : Nat
  maximumReceiveFrameCount : Nat
  receiveInputGain : F
  receiveSignaling : ReceiveSignaling
  carrierSource : RadioCarrierSource
  subaudibleSource : SubaudibleSource
  advancedTransport : Bool
  transmitSignaling : TransmitSignaling F

/-! ## Processing -/

/-- Rejection of the receiver's tone. -/
inductive PlFilter where
  | disabled
  | decodedToneNotch
  | highPass
  deriving DecidableEq, Repr

/-- `ExplicitNativeProcessingPlan`. -/
structure NativeProcessingPlan (F : Type) where
  /-- The filter of the local profile, where there is one. -/
  localPlFilter : Option PlFilter
  receiveInputGain : F
  receiveDeemphasis : Bool
  transmitPreemphasis : Bool
  /-- CTCSS table entries requiring decoded-tone rejection. -/
  receiveCtcssMask : BitVec 64
  transmitDcs : Bool

/-! ## Operating states -/

/-- Where the signal of a remote radio is encoded or decoded. -/
inductive RemoteSignalSource where
  | disabled
  | dsp
  | external
  | rig
  | automatic
  deriving DecidableEq, Repr

/-- The signal of one direction of a remote radio. -/
structure RemoteSignal where
  source : RemoteSignalSource
  enabled : Bool
  /-- Zero selects DCS. -/
  toneTenthsHz : Nat
  dcsCode : Nat
  inverted : Bool
  deriving DecidableEq, Repr

/-- The parts of an operating state that the signaling reads. -/
structure RemoteOperatingState where
  mode : Nat
  encode : RemoteSignal
  decode : RemoteSignal
  deriving DecidableEq, Repr

/-! ## Translation -/

variable {F : Type} (dbToLinear : F → F)

/-- The tone of a number of tenths of Hertz. -/
def tone (value : Nat) : Except RadioError CtcssTone :=
  match CtcssTone.fromTenthsHz value with
  | some tone => .ok tone
  | none => .error .invalidArgument

/-- Codes from 512 on have more than three octal digits. -/
def dcs (value : RemoteSignal) : Except RadioError DcsCode :=
  if h : value.dcsCode < 512 then .ok ⟨value.dcsCode, value.inverted, h⟩
  else .error .invalidArgument

/-- `CtcssToneMask::with`. -/
def receiveToneMask (tones : List CtcssTone) : BitVec 64 :=
  tones.foldl (fun mask tone => mask ||| (1#64 <<< tone.tableIndex.val)) 0

/-- The detector that the configuration asks for. -/
def receiveSignaling (station : StationConfig F) : ReceiveSignaling :=
  match station.receive.signalingMethod with
  | .carrier => .disabled
  | .ctcss =>
    if station.ctcss.receiveSource = .dsp then
      .ctcss (receiveToneMask station.ctcss.receiveFrequencies) (station.ctcss.receiveRelax != 0)
    else .disabled
  | .dcs => .dcs station.dcs.receiveCode.value station.dcs.receiveCode.inverted

/-- The map of the transmit tones; the last entry for a receive tone wins. -/
def mappedFrequencies (receive transmit : List CtcssTone) : Fin CTCSS_TONE_COUNT → Nat :=
  (receive.zip transmit).foldl
    (fun mapped pair => Function.update mapped pair.1.tableIndex pair.2.tenthsHz) fun _ => 0

/-- The encoder that the configuration asks for. -/
def transmitSignaling (station : StationConfig F) : TransmitSignaling F :=
  match station.transmit.signalingMethod with
  | .carrier => .disabled
  | .ctcss => .ctcss {
      defaultFrequencyTenthsHz := station.ctcss.transmitDefault.tenthsHz
      mappedFrequenciesTenthsHz :=
        mappedFrequencies station.ctcss.receiveFrequencies station.ctcss.transmitFrequencies
      peak := dbToLinear station.ctcss.transmitPeakDbfs
      turnoffDurationMilliseconds := station.ctcss.tailDurationMs
      turnoffPhaseShiftDegrees := station.ctcss.phaseShiftDegrees
      turnoffTailToneHz := station.ctcss.tailFrequencyHz }
  | .dcs => .dcs {
      code := station.dcs.transmitCode.value
      inverted := station.dcs.transmitCode.inverted
      peak := dbToLinear station.dcs.peakDbfs
      turnoffEnabled := station.dcs.turnoffCodeEnabled
      turnoffDurationMilliseconds := station.dcs.turnoffDurationMs }

/-- The CTCSS source of an external decoder. -/
def externalSource : SubaudibleSource → Except RadioError CtcssSource
  | .usb => .ok .usb
  | .usbInverted => .ok .usbInverted
  | .parallel => .ok .parallel
  | .parallelInverted => .ok .parallelInverted
  | _ => .error .invalidArgument

/-- The receive part of `with_remote_signaling`: the configuration and the qualification. -/
def applyDecode (station : StationConfig F) (decode : RemoteSignal)
    (externalDecode : SubaudibleSource) :
    Except RadioError (StationConfig F × SubaudibleSource) :=
  if !decode.enabled then .ok (station, .disabled)
  else do
    let station ← if decode.toneTenthsHz ≠ 0 then do
        let selected ← tone decode.toneTenthsHz
        pure { station with
          ctcss := { station.ctcss with receiveFrequencies := [selected] }
          receive := { station.receive with signalingMethod := .ctcss } }
      else do
        let code ← dcs decode
        pure { station with
          dcs := { station.dcs with receiveCode := code }
          receive := { station.receive with signalingMethod := .dcs } }
    match decode.source with
    | .dsp =>
      pure ({ station with ctcss := { station.ctcss with receiveSource := .dsp } }, .dsp)
    | .external => do
      let source ← externalSource externalDecode
      pure ({ station with ctcss := { station.ctcss with receiveSource := source } },
        externalDecode)
    | _ => .error .invalidArgument

/-- The transmit part of `with_remote_signaling`. -/
def applyEncode (station : StationConfig F) (encode : RemoteSignal) :
    Except RadioError (StationConfig F) :=
  if encode.enabled && encode.source == .dsp then
    if encode.toneTenthsHz ≠ 0 then do
      let selected ← tone encode.toneTenthsHz
      pure { station with
        ctcss := { station.ctcss with
          transmitDefault := selected
          transmitFrequencies := List.replicate station.ctcss.receiveFrequencies.length selected }
        transmit := { station.transmit with signalingMethod := .ctcss } }
    else do
      let code ← dcs encode
      pure { station with
        dcs := { station.dcs with transmitCode := code }
        transmit := { station.transmit with signalingMethod := .dcs } }
  else if encode.enabled && !(encode.source == .external || encode.source == .rig) then
    .error .invalidArgument
  else .ok station

/-- FM and its packet modes. -/
def isFm (mode : Nat) : Bool := mode == 1 || mode == 9 || mode == 10

/-- The signaling methods before a state is applied. -/
def withoutSignaling (station : StationConfig F) : StationConfig F :=
  { station with
    receive := { station.receive with signalingMethod := .carrier }
    transmit := { station.transmit with signalingMethod := .carrier } }

/-- The configuration, the session and the processing of a plan. -/
abbrev Settings (F : Type) := StationConfig F × SessionConfig F × NativeProcessingPlan F

/-- The carrier of the remote radio's state. -/
def carrierSettings (carrier : CarrierSource) : Settings F → Settings F
  | (configuration, radio, processing) =>
    ({ configuration with receive := { configuration.receive with cosAssignment := carrier } },
      { radio with carrierSource := carrierSource carrier },
      { processing with receiveInputGain := radio.receiveInputGain })

/-- The notch mask of a session. -/
def notchMask (signaling : ReceiveSignaling) (processing : NativeProcessingPlan F) : BitVec 64 :=
  match signaling with
  | .ctcss tones _ =>
    if processing.receiveCtcssMask ≠ 0 ∨ processing.localPlFilter = some .decodedToneNotch then
      tones
    else 0
  | _ => 0

/-- The signals of the remote radio's state. -/
def signalingSettings (state : RemoteOperatingState) (externalDecode : SubaudibleSource)
    (transport : ControllerTransport) : Settings F → Except RadioError (Settings F)
  | (configuration, radio, processing) => do
    let (configuration, qualification) ←
      applyDecode (withoutSignaling configuration) state.decode externalDecode
    let configuration ← applyEncode configuration state.encode
    if radio.generationId + 1 < WORD then
      let fm := isFm state.mode
      let receive := if qualification = .dsp then receiveSignaling configuration else .disabled
      let transmit := transmitSignaling dbToLinear configuration
      pure (configuration,
        { radio with
          generationId := radio.generationId + 1
          receiveSignaling := receive
          subaudibleSource := qualification
          transmitSignaling := transmit
          advancedTransport := fm && transport == .rptAdvanced },
        { processing with
          receiveInputGain := radio.receiveInputGain
          receiveDeemphasis := fm && configuration.receive.audioSource == .flat
          transmitPreemphasis := fm && configuration.transmit.preemphasisEnabled
          receiveCtcssMask := notchMask receive processing
          transmitDcs := match transmit with
            | .dcs _ => true
            | _ => false })
    else .error .invalidArgument

/-- Plans with these descriptions; the hardware and the remote policy are only compared. -/
abbrev signalingParts (H R : Type) [DecidableEq H] [DecidableEq R] : StationParts where
  ChannelConfiguration := StationConfig F
  HardwarePlan := H
  SessionConfig := SessionConfig F
  NativeProcessingPlan := NativeProcessingPlan F
  RemoteConfiguration := R
  RemoteOperatingState := RemoteOperatingState
  ProcessingRuntimeError := Unit
  ProcessingGeneration := Unit
  PreparedUpdate := Unit
  CtcssTable := Unit
  HardwarePreflight := Unit
  RemotePreparation := Unit
  maximumReceiveFrameCount := SessionConfig.maximumReceiveFrameCount
  subaudibleSource := SessionConfig.subaudibleSource
  cosAssignment configuration := configuration.receive.cosAssignment
  controllerCtcssTable _ := ()
  voterReporting _ := false
  carrierSettings := carrierSettings
  signalingSettings := signalingSettings dbToLinear

end Station
end UsbRadioPlus
