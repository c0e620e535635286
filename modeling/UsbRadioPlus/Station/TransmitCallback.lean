import UsbRadioPlus.Sys.Run
import Mathlib.Data.BitVec

/-!
# The transmit callback of a station (`station/src/runtime.rs`)

One DAC-paced callback reads the controls of the other threads, asks a direct controller for its
program, publishes the transmit intent, samples the remote policy and renders. What the other
threads, the controller and the radio answer is in `CallbackInputs`: every read of a shared word
has its own answer, so they may change during a callback.

The samples have an arbitrary type with a zero. Of the result of the radio only the two fields are
kept that the callback reads. An adopted update changes the radio and nothing else here.
-/

namespace UsbRadioPlus.Station

open Sys

/-- `CALLBACK_OK` -/
def callbackOk : Int := 0

/-- `CALLBACK_FAILED` -/
def callbackFailed : Int := -1

/-- What the controller asks of the transmitter. -/
structure ControllerRequests where
  transmit : Bool
  renderAdmitted : Bool
  ctcssInhibit : Bool
  calibratedTestTone : Bool
  subaudibleOverride : Bool
  /-- The forced tone in tenths of hertz. -/
  forcedCtcss : Option Nat
  deriving DecidableEq, Repr

/-- What the hardware tells the station of a remote radio. -/
structure RemoteHardwareSignals where
  carrier : Option Bool
  pttSelected : Bool
  physicalPtt : Option Bool
  deriving DecidableEq, Repr

/-- The policy of a remote radio. -/
structure RemoteRadioControl where
  enabled : Bool
  receivePermitted : Bool
  transmitPermitted : Bool
  nonFm : Bool
  localUnqualifiedOpen : Bool
  deriving DecidableEq, Repr

/-- What the radio renders with. -/
structure TransmitControls where
  externalPttRequest : Bool
  physicalPttApplied : Bool
  renderAdmitted : Bool
  ctcssInhibit : Bool
  calibratedTestTone : Bool
  forcedCtcssTenthsHz : Int
  deriving DecidableEq, Repr

/-- What a rendering returns. -/
structure TransmitResult where
  logicalPtt : Bool
  selectedCtcssTenthsHz : Int
  deriving DecidableEq, Repr

/-! ## The shared words that the callback publishes -/

/-- What the hardware is asked for. -/
structure HardwareOutputs where
  logicalPtt : Bool
  selectedCtcssTenthsHz : Option Nat
  deriving DecidableEq, Repr

/-- `pack_outputs`: the tone stands above bit 0. -/
def packOutputs (value : HardwareOutputs) : BitVec 32 :=
  (if value.logicalPtt then 1 else 0) |||
    (BitVec.ofNat 32 (value.selectedCtcssTenthsHz.getD 0)) <<< 1

/-- The logical PTT of `unpack_outputs`. -/
def unpackLogicalPtt (value : BitVec 32) : Bool := value.getLsbD 0

/-- The words that the transmit callback writes. `intents` is a history: the requested keys that
were published, oldest first. -/
structure HardwareAtomics where
  outputs : BitVec 32
  remoteTransmit : BitVec 64
  transmitCtcssReady : BitVec 32
  transmitCalls : Nat
  transmitFailures : Nat
  intents : List Bool
  deriving DecidableEq, Repr

namespace HardwareAtomics

variable (self : HardwareAtomics)

/-- The words before the first callback. -/
def initial : HardwareAtomics := ⟨0, 0, 0, 0, 0, []⟩

/-- The published logical PTT. -/
def logicalPtt : Bool := unpackLogicalPtt self.outputs

/-- `remote_activity().transmit_requested`. -/
def transmitRequested : Bool := self.remoteTransmit.getLsbD 0

/-- `remote_activity().transmit_epoch`. -/
def transmitEpoch : Nat := (self.remoteTransmit >>> 3).toNat

/-- `publish_transmit_intent`: the key in bit 0, its epoch from bit 3 on, in one word. -/
def publishTransmitIntent (requested ctcss linked : Bool) : HardwareAtomics :=
  let previous := self.remoteTransmit
  let next := if requested then
      (previous + (if previous &&& (1 : BitVec 64) = 0 then (8 : BitVec 64) else 0)) ||| 1
    else previous &&& ~~~(1 : BitVec 64)
  { self with
    remoteTransmit := (next &&& ~~~(6 : BitVec 64)) |||
      ((if ctcss then (1 : BitVec 64) else 0) <<< 1) |||
      ((if linked then (1 : BitVec 64) else 0) <<< 2)
    intents := self.intents ++ [requested] }

/-- `publish_transmit_result` -/
def publishTransmitResult (result : TransmitResult) : HardwareAtomics :=
  -- a tone of zero, or one that is no `u16`, is none
  let tone := if 0 < result.selectedCtcssTenthsHz ∧ result.selectedCtcssTenthsHz < 65536 then
      some result.selectedCtcssTenthsHz.toNat
    else none
  let packed := packOutputs ⟨result.logicalPtt, tone⟩
  if packed >>> 1 ≠ self.outputs >>> 1 then
    { self with outputs := packed, transmitCtcssReady := packed >>> 1 }
  else { self with outputs := packed }

/-- `publish_transmit_fault` -/
def publishTransmitFault : HardwareAtomics :=
  ({ self with outputs := 0, transmitCtcssReady := 0 } : HardwareAtomics).publishTransmitIntent
    false false false

/-- The statistics of a callback. -/
def noteTransmit (failed : Bool) : HardwareAtomics :=
  { self with
    transmitCalls := self.transmitCalls + 1
    transmitFailures := if failed then self.transmitFailures + 1 else self.transmitFailures }

end HardwareAtomics

/-! ## One callback -/

/-- An answer of the metadata endpoint: the result and `linked`; none if there is no endpoint. -/
abbrev MetadataAnswer := Option (Int × Nat)

/-- What a direct controller answers. -/
structure DirectAnswers (S : Type) where
  before : MetadataAnswer
  status : Int
  keyed : Nat
  ctcssEnabled : Nat
  mono : List S
  after : MetadataAnswer

/-- What a callback gets from elsewhere. -/
structure CallbackInputs (S : Type) where
  /-- The content of the output span; none for a null pointer. -/
  output : Option (List S)
  frameCount : Nat
  physicalPtt : Bool
  requests : ControllerRequests
  remoteSignals : RemoteHardwareSignals
  remoteTune : Bool
  direct : DirectAnswers S
  /-- The remote policy as it is read behind the direct controller. -/
  remoteMuting : RemoteRadioControl
  /-- The remote policy at the final sample. -/
  remote : RemoteRadioControl
  /-- The result of the radio, and the samples that it wrote. -/
  render : Except Unit TransmitResult × List S

/-- The context of the callback. -/
structure TransmitContext where
  native : Bool
  /-- A direct controller is attached. -/
  direct : Bool
  maximumFrames : Nat
  remoteBurstAdmitted : Bool
  deriving DecidableEq, Repr

variable {S : Type} [Zero S]

/-- A block of zeros for both channels. -/
def silence (frames : Nat) : List S := List.replicate (frames * 2) 0

/-- `exchange_remote_metadata`. -/
def exchangeRemoteMetadata : MetadataAnswer → Except Unit Bool
  | none => .ok false
  | some (result, linked) =>
    if result = callbackOk ∧ linked ≤ 1 then .ok (linked ≠ 0) else .error ()

namespace CallbackInputs

variable (i : CallbackInputs S)

/-- `transmit_controls`. -/
def transmitControls : TransmitControls where
  externalPttRequest := i.requests.transmit || i.remoteTune
  physicalPttApplied :=
    if i.remoteSignals.pttSelected then i.remoteSignals.physicalPtt = some true else i.physicalPtt
  renderAdmitted := i.requests.renderAdmitted || i.remoteTune
  ctcssInhibit := i.requests.ctcssInhibit
  calibratedTestTone := i.requests.calibratedTestTone || i.remoteTune
  forcedCtcssTenthsHz := i.requests.forcedCtcss.getD 0

/-- The span is one that the callback serves. -/
def served (context : TransmitContext) : Bool :=
  i.output.isSome && i.frameCount ≠ 0 && i.frameCount ≤ context.maximumFrames

/-- The direct controller fails. -/
def directFailed : Bool :=
  match exchangeRemoteMetadata i.direct.before, exchangeRemoteMetadata i.direct.after with
  | .ok _, .ok _ =>
    i.direct.status ≠ callbackOk || 1 < i.direct.keyed || 1 < i.direct.ctcssEnabled
  | _, _ => true

/-- The controls behind the direct controller. -/
def directControls : TransmitControls :=
  let controls := i.transmitControls
  if i.directFailed then
    { controls with
      externalPttRequest := false, calibratedTestTone := false, forcedCtcssTenthsHz := 0
      ctcssInhibit := true, renderAdmitted := true }
  else
    { controls with
      ctcssInhibit :=
        controls.ctcssInhibit || (i.direct.ctcssEnabled = 0 && !controls.externalPttRequest)
      externalPttRequest := controls.externalPttRequest || i.direct.keyed ≠ 0
      renderAdmitted := true }

/-- The controls that are published and sampled. -/
def controls (context : TransmitContext) : TransmitControls :=
  if context.direct then i.directControls else i.transmitControls

/-- The linked activity that is published. -/
def linkedActivity (context : TransmitContext) : Bool :=
  context.direct && !i.directFailed &&
    match exchangeRemoteMetadata i.direct.after with
    | .ok linked => linked
    | .error _ => false

/-- The program that is staged for the radio. -/
def staged (context : TransmitContext) : Option (List S) :=
  if context.direct then
    if i.directFailed || (i.remoteMuting.enabled && !i.remoteMuting.transmitPermitted) then
      some (List.replicate i.frameCount 0)
    else some i.direct.mono
  else none

/-- The remote policy forbids transmission at the final sample. -/
def forbidden : Bool := i.remote.enabled && !i.remote.transmitPermitted

end CallbackInputs

/-- The controls with which the radio renders. -/
def TransmitControls.forbid (controls : TransmitControls) : TransmitControls :=
  { controls with
    externalPttRequest := false, calibratedTestTone := false, forcedCtcssTenthsHz := 0
    ctcssInhibit := true, renderAdmitted := true }

/-- The state of the transmit side, with the answer of the last callback. -/
structure TransmitSide (S : Type) where
  context : TransmitContext
  hardware : HardwareAtomics
  returned : Int
  output : Option (List S)
  /-- The program and the controls of the last rendering. -/
  rendered : Option (Option (List S) × TransmitControls)

namespace TransmitSide

/-- `transmit_callback`. -/
def transmitCallback (s : TransmitSide S) (i : CallbackInputs S) : TransmitSide S :=
  let context := s.context
  if !i.served context then
    if context.native then
      { s with
        hardware := s.hardware.publishTransmitFault.noteTransmit true
        returned := callbackFailed, output := i.output.map fun _ => silence i.frameCount
        rendered := none }
    else
      { s with
        hardware := s.hardware.noteTransmit true, returned := callbackFailed, output := i.output
        rendered := none }
  else
    let directFailed := context.direct && i.directFailed
    let hardware := if directFailed then s.hardware.publishTransmitFault else s.hardware
    if directFailed && context.native then
      { s with
        hardware := hardware.noteTransmit true
        returned := callbackFailed, output := some (silence i.frameCount), rendered := none }
    else
      let controls := i.controls context
      let hardware := hardware.publishTransmitIntent controls.externalPttRequest
        (!controls.ctcssInhibit) (i.linkedActivity context)
      let context := if i.forbidden then { context with remoteBurstAdmitted := false }
        else if controls.externalPttRequest || !i.remote.enabled then
          { context with remoteBurstAdmitted := true }
        else context
      let controls := if i.forbidden then controls.forbid else controls
      let rendered := some (i.staged context, controls)
      match i.render with
      | (.ok result, samples) =>
        if directFailed then
          { context, hardware := hardware.noteTransmit true, returned := callbackFailed
            output := some (silence i.frameCount), rendered }
        else if !context.remoteBurstAdmitted then
          { context
            hardware := (hardware.publishTransmitResult ⟨false, 0⟩).noteTransmit false
            returned := callbackOk, output := some (silence i.frameCount), rendered }
        else
          { context, hardware := (hardware.publishTransmitResult result).noteTransmit false
            returned := callbackOk, output := some samples, rendered }
      | (.error _, _) =>
        let hardware := if context.native then hardware.publishTransmitFault else hardware
        { context, hardware := hardware.noteTransmit true, returned := callbackFailed
          output := some (silence i.frameCount), rendered }

end TransmitSide

/-- The runs of the transmit side: any callbacks, from a context that was just opened. -/
def transmitRuns : System (TransmitSide S) (CallbackInputs S) where
  init s := s.context.remoteBurstAdmitted = true ∧ s.hardware = .initial
  step s i := some (s.transmitCallback i)

end UsbRadioPlus.Station
