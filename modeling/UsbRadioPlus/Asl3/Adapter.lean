import UsbRadioPlus.Asl3.HandoffRefinement

/-!
# The media adapter of one channel (`rust/asl3/src/adapter.rs`)

`ReceivePublisher.publish` runs in the native callback: it latches the status events of a span in
the journal and builds a packet at every 20 ms boundary. `ControllerState.nextAction` hands the
controller one action at a time from the packets that come through the handoff. `Adapter` is the
two with the handoff between them, and what the controller has seen.

The conversion of samples and their assembly are a parameter (`AudioPath`): the delivery reads no
sample. Its results are arbitrary, failures included. The f32 samples are a type of their own.
-/

namespace UsbRadioPlus
namespace Asl3

open Sys

/-- `NATIVE_FRAME_SAMPLES` -/
def NATIVE_FRAME_SAMPLES : Nat := 960

/-- `STATUS_CAPACITY` -/
def STATUS_CAPACITY : Nat := 16

/-! ## Data -/

/-- A CTCSS frequency of the controller, from 50 to 300 Hz. -/
structure CtcssTone where
  tenthsHz : Nat
  inRange : 500 ≤ tenthsHz ∧ tenthsHz ≤ 3000
  deriving DecidableEq, Repr

/-- Asterisk-facing radio-controller PCM mode. -/
inductive AsteriskPcmMode where
  | appRpt
  | advanced
  deriving DecidableEq, Repr

/-- One complete fixed-duration controller PCM frame: its mode and `samples()`. -/
structure ControllerPcmFrame where
  mode : AsteriskPcmMode
  samples : List Int
  deriving DecidableEq, Repr

/-- Sample-associated receiver state returned by the native radio callback. -/
structure ReceiveQualification where
  carrierActive : Bool
  subaudibleActive : Bool
  receiverKeyed : Bool
  ctcssDecoded : Option (Fin 38)
  dcsValid : Bool
  deriving DecidableEq, Repr

/-- `ReceiveQualification::default`. -/
def ReceiveQualification.default : ReceiveQualification := ⟨false, false, false, none, false⟩

/-- A status message latched with native callback progress. -/
inductive ReceiveStatus where
  | transmitCtcssReady (tone : CtcssTone)
  | voterRssi (value : Nat)
  deriving DecidableEq, Repr

/-- Receiver state accompanying one native callback span. -/
structure ReceiveMetadata where
  qualification : ReceiveQualification
  controllerCtcss : Option CtcssTone
  /-- The two slots of the array. -/
  statuses : Option ReceiveStatus × Option ReceiveStatus
  deriving DecidableEq, Repr

/-- `metadata.statuses.into_iter().flatten()`. -/
def ReceiveMetadata.events (self : ReceiveMetadata) : List ReceiveStatus :=
  self.statuses.1.toList ++ self.statuses.2.toList

/-- Media operation rejected at the safe adapter boundary. -/
inductive AdapterError where
  | invalidNativeFrame
  | sampleRate
  | conversionStalled
  | invalidConversionResult
  | assemblyOverflow
  | invalidFrameSize
  deriving DecidableEq, Repr

/-! ## The journal -/

/-- The last statuses, under their sequence numbers. -/
structure StatusJournal where
  events : Nat → ReceiveStatus
  produced : Nat

namespace StatusJournal

/-- The journal without statuses. -/
def new : StatusJournal := ⟨fun _ => .voterRssi 0, 0⟩

/-- `push` -/
def push (self : StatusJournal) (status : ReceiveStatus) : StatusJournal where
  events := Function.update self.events (self.produced % STATUS_CAPACITY) status
  produced := (self.produced + 1) % WORD

/-- `oldest_sequence` -/
def oldestSequence (self : StatusJournal) : Nat := self.produced - STATUS_CAPACITY

/-- The status under a sequence number. -/
def get (self : StatusJournal) (sequence : Nat) : ReceiveStatus :=
  self.events (sequence % STATUS_CAPACITY)

end StatusJournal

/-- A frame with what was known of the receiver at its end. -/
structure ReceivePacket where
  frame : ControllerPcmFrame
  qualification : ReceiveQualification
  controllerCtcss : Option CtcssTone
  statuses : StatusJournal

/-! ## The publisher -/

/-- `convert_span` and `FrameAssembler::take_padded` on the state `A` of the converter and the
assembler. -/
structure AudioPath (F A : Type) where
  convertSpan : A → List F → Except AdapterError Unit × A
  takePadded : A → Except AdapterError (List Int) × A

/-- Sole native-callback owner for receiver conversion and publication. -/
structure ReceivePublisher (A : Type) where
  mode : AsteriskPcmMode
  audio : A
  nativeRemainder : Nat
  statuses : StatusJournal

namespace ReceivePublisher

variable {F A : Type} (path : AudioPath F A)

/-- The frame of `take_frame`, from the assembled samples. -/
def frame (mode : AsteriskPcmMode) (keyed : Bool) (samples : List Int) : ControllerPcmFrame :=
  ⟨mode, if keyed then samples else samples.map fun _ => 0⟩

/-- The loop of `publish`: the packets that it pushes, in order. Every round takes a sample, so the
length of the span is enough fuel. -/
def publishLoop (metadata : ReceiveMetadata) :
    Nat → ReceivePublisher A → List F → List ReceivePacket →
      Except AdapterError Unit × ReceivePublisher A × List ReceivePacket
  | 0, self, _, packets => (.ok (), self, packets)
  | fuel + 1, self, native, packets =>
    if native.isEmpty then (.ok (), self, packets)
    else
      let count := min (NATIVE_FRAME_SAMPLES - self.nativeRemainder) native.length
      match path.convertSpan self.audio (native.take count) with
      | (.error e, audio) => (.error e, { self with audio }, packets)
      | (.ok (), audio) =>
        if self.nativeRemainder + count = NATIVE_FRAME_SAMPLES then
          match path.takePadded audio with
          | (.error e, audio) => (.error e, { self with audio, nativeRemainder := 0 }, packets)
          | (.ok samples, audio) =>
            let packet : ReceivePacket := {
              frame := frame self.mode metadata.qualification.receiverKeyed samples
              qualification := metadata.qualification
              controllerCtcss := metadata.controllerCtcss
              statuses := self.statuses }
            publishLoop metadata fuel { self with audio, nativeRemainder := 0 }
              (native.drop count) (packets ++ [packet])
        else
          publishLoop metadata fuel
            { self with audio, nativeRemainder := self.nativeRemainder + count }
            (native.drop count) packets

/-- The span is neither empty nor beyond the prepared bound. -/
def accepts (native : List F) : Bool := !(native.isEmpty || native.length > NATIVE_FRAME_SAMPLES)

/-- Convert one arbitrary bounded native mono span: the packets that are pushed. -/
def publish (self : ReceivePublisher A) (native : List F) (metadata : ReceiveMetadata) :
    Except AdapterError Unit × ReceivePublisher A × List ReceivePacket :=
  if !accepts native then (.error .invalidNativeFrame, self, [])
  else
    publishLoop path metadata native.length
      { self with statuses := metadata.events.foldl .push self.statuses } native []

end ReceivePublisher

/-! ## The controller -/

/-- What is delivered of a packet next. -/
inductive DeliveryPhase where
  | receiverState
  | status
  | voice
  deriving DecidableEq, Repr

/-- A packet that is being delivered. -/
structure PendingDelivery where
  packet : ReceivePacket
  phase : DeliveryPhase

/-- One typed operation for the Rust Asterisk host. -/
inductive DeliveryAction where
  | receiverKey (ctcss : Option CtcssTone)
  | receiverUnkey
  | voice
  | transmitCtcssReady (tone : CtcssTone)
  | voterRssi (value : Nat)
  deriving DecidableEq, Repr

/-- The action of a status event. -/
def DeliveryAction.ofStatus : ReceiveStatus → DeliveryAction
  | .transmitCtcssReady tone => .transmitCtcssReady tone
  | .voterRssi value => .voterRssi value

/-- Cumulative bounded status-journal delivery diagnostics. -/
structure StatusObservation where
  nextSequence : Nat
  discarded : Nat
  deriving DecidableEq, Repr

/-- What the echo does. -/
inductive EchoState where
  | disabled
  | recording
  | playing
  deriving DecidableEq, Repr

/-- The echo of the simulated hardware. -/
structure LegacyEcho where
  state : EchoState
  samples : List Int
  length : Nat
  playback : Nat
  deriving DecidableEq, Repr

/-- `receive`: a frame of a keyed receiver is recorded; the end of the key starts the playback. -/
def LegacyEcho.receive (self : LegacyEcho) (frame : ControllerPcmFrame) (keyed : Bool) :
    LegacyEcho :=
  if self.state ≠ .recording then self
  else if keyed = true ∧ frame.mode = .appRpt then
    let copied := min frame.samples.length (self.samples.length - self.length)
    { self with
      samples := self.samples.take self.length ++ frame.samples.take copied ++
        self.samples.drop (self.length + copied)
      length := self.length + copied }
  else if self.length ≠ 0 then { self with state := .playing, playback := 0 }
  else self

/-- The DTMF decoder. -/
structure DtmfState where
  enabled : Bool
  activeSinceMs : Option Nat
  deriving DecidableEq, Repr

/-- Current state owned by the controller compatibility boundary. -/
structure ControlSnapshot where
  transmitKeyed : Bool
  forcedCtcss : Option CtcssTone
  receiveCtcssEnabled : Bool
  transmitCtcssEnabled : Bool
  deriving DecidableEq, Repr

/-- Serialized non-real-time owner for controller delivery. -/
structure ControllerState where
  mode : AsteriskPcmMode
  pending : Option PendingDelivery
  deliveredKeyed : Bool
  status : StatusObservation
  echo : LegacyEcho
  dtmf : DtmfState
  control : ControlSnapshot
  latestReceive : ReceiveQualification

/-- Controller-owned state retained while an active station generation is replaced. -/
structure ControllerReloadState where
  mode : AsteriskPcmMode
  deliveredKeyed : Bool
  echo : LegacyEcho
  dtmf : DtmfState
  control : ControlSnapshot
  latestReceive : ReceiveQualification

namespace ControllerState

/-- The controller half of `prepare`. -/
def prepare (mode : AsteriskPcmMode) (echo : LegacyEcho) : ControllerState where
  mode := mode
  pending := none
  deliveredKeyed := false
  status := ⟨0, 0⟩
  echo := echo
  dtmf := ⟨mode = .appRpt, none⟩
  control := ⟨false, none, true, true⟩
  latestReceive := .default

/-- An action that is returned, with the frame written to the voice workspace. -/
abbrev Returned := DeliveryAction × Option ControllerPcmFrame

/-- The loop of `next_action` in the phase `Voice`. -/
def deliverVoice (self : ControllerState) (packet : ReceivePacket) : Returned × ControllerState :=
  ((.voice, some packet.frame),
    { self with
      pending := none
      echo := self.echo.receive packet.frame packet.qualification.receiverKeyed })

/-- The journal events that the controller skips. -/
def resynchronize (status : StatusObservation) (oldest : Nat) : StatusObservation :=
  if status.nextSequence < oldest then
    ⟨oldest, status.discarded + (oldest - status.nextSequence)⟩
  else status

/-- The loop of `next_action` from the phase `Status` on. -/
def deliverStatus (self : ControllerState) (packet : ReceivePacket) : Returned × ControllerState :=
  let status := resynchronize self.status packet.statuses.oldestSequence
  if status.nextSequence < packet.statuses.produced then
    ((.ofStatus (packet.statuses.get status.nextSequence), none),
      { self with
        pending := some ⟨packet, .status⟩
        status := { status with nextSequence := status.nextSequence + 1 } })
  else deliverVoice { self with pending := some ⟨packet, .voice⟩, status } packet

/-- The loop of `next_action` from the phase `ReceiverState` on. -/
def deliverReceiverState (self : ControllerState) (packet : ReceivePacket) :
    Returned × ControllerState :=
  let keyed := packet.qualification.receiverKeyed
  let next := { self with
    pending := some ⟨packet, .status⟩
    latestReceive := packet.qualification }
  if self.deliveredKeyed ≠ keyed then
    ((if keyed then .receiverKey packet.controllerCtcss else .receiverUnkey, none),
      { next with deliveredKeyed := keyed })
  else deliverStatus next packet

/-- The loop of `next_action` with a pending packet; it always returns an action. -/
def deliver (self : ControllerState) (pending : PendingDelivery) : Returned × ControllerState :=
  match pending.phase with
  | .receiverState => self.deliverReceiverState pending.packet
  | .status => self.deliverStatus pending.packet
  | .voice => self.deliverVoice pending.packet

/-- Capture state that remains meaningful across a prepared hot reload; `available` is the
observation of the handoff. -/
def reloadState (self : ControllerState) (available : Nat) : Option ControllerReloadState :=
  if self.pending.isSome || available ≠ 0 then none
  else some ⟨self.mode, self.deliveredKeyed, self.echo, self.dtmf, self.control, self.latestReceive⟩

/-- Restore controller state after replacing one compatible station generation. -/
def restoreReloadState (self : ControllerState) (state : ControllerReloadState) :
    ControllerState :=
  if self.mode ≠ state.mode then self
  else { self with
    deliveredKeyed := state.deliveredKeyed
    echo := state.echo
    dtmf := state.dtmf
    control := state.control
    latestReceive := state.latestReceive }

end ControllerState

/-! ## The system -/

/-- A packet and the number of status events that were pushed before it was built. The number is
history: nothing reads it. -/
structure Stamped where
  packet : ReceivePacket
  eventCount : Nat

/-- A packet whose voice was delivered, and the actions returned from it. -/
structure Delivered where
  source : Stamped
  actions : List ControllerState.Returned

/-- One generation of the adapter, and its history. -/
structure Adapter (A : Type) where
  publisher : ReceivePublisher A
  /-- Packets of the present `publish` that are not pushed yet. -/
  toPush : List Stamped
  handoff : State Stamped
  controller : ControllerState
  /-- The status events pushed, oldest first. -/
  events : List ReceiveStatus
  /-- The packets delivered in this generation. -/
  done : List Delivered
  /-- The pending packet's number of events, and the actions returned from it. -/
  pendingCount : Nat
  current : List ControllerState.Returned
  /-- The packets delivered in earlier generations. -/
  past : List Delivered

/-- The steps of the callback, of the controller, and of the reload. -/
inductive AdapterAct (F A : Type) where
  /-- A call of `publish`, up to its calls of `push`. -/
  | publish (native : List F) (metadata : ReceiveMetadata)
  | callPush
  | stepPush
  /-- A call of `next_action`, up to its call of `pop`. -/
  | nextAction
  | stepPop
  /-- Any other method of the controller: they change these fields at most. -/
  | control (echo : LegacyEcho) (dtmf : DtmfState) (control : ControlSnapshot)
  /-- The station generation is replaced by a new one of the same mode. -/
  | reload (slotCount : Nat) (audio : A) (echo : LegacyEcho)

namespace Adapter

variable {F A : Type}

/-- A prepared adapter. -/
def prepare (mode : AsteriskPcmMode) (shared : Shared Stamped) (audio : A) (echo : LegacyEcho) :
    Adapter A where
  publisher := ⟨mode, audio, 0, .new⟩
  toPush := []
  handoff := .initial shared
  controller := .prepare mode echo
  events := []
  done := []
  pendingCount := 0
  current := []
  past := []

/-- The history with the actions that `deliver` returns from a pending packet. -/
def deliver (s : Adapter A) (pending : PendingDelivery) (eventCount : Nat) : Adapter A :=
  let (returned, controller) := s.controller.deliver pending
  match controller.pending with
  | some _ => { s with
    controller, pendingCount := eventCount, current := s.current ++ [returned] }
  | none => { s with
    controller, current := []
    done := s.done ++ [⟨⟨pending.packet, eventCount⟩, s.current ++ [returned]⟩] }

/-- A step of the publisher, of the handoff or of the controller. -/
def step (path : AudioPath F A) (s : Adapter A) : AdapterAct F A → Option (Adapter A)
  | .publish native metadata =>
    match s.toPush, s.handoff.push with
    | [], .idle =>
      let (_, publisher, packets) := s.publisher.publish path native metadata
      let events :=
        if ReceivePublisher.accepts native then s.events ++ metadata.events else s.events
      some { s with publisher, events, toPush := packets.map fun p => ⟨p, events.length⟩ }
    | _, _ => none
  | .callPush => match s.toPush with
    | [] => none
    | packet :: rest => (s.handoff.step (.callPush packet)).map fun handoff =>
      { s with handoff, toPush := rest }
  | .stepPush => (s.handoff.step .stepPush).map fun handoff => { s with handoff }
  | .nextAction => match s.controller.pending with
    | some pending => some (s.deliver pending s.pendingCount)
    | none => (s.handoff.step .callPop).map fun handoff => { s with handoff }
  | .stepPop => (s.handoff.step .stepPop).map fun handoff =>
    match s.handoff.returnedValue with
    | none => { s with handoff }
    | some packet =>
      { s with handoff }.deliver ⟨packet.packet, .receiverState⟩ packet.eventCount
  | .control echo dtmf control =>
    some { s with controller := { s.controller with echo, dtmf, control } }
  | .reload slotCount audio echo =>
    match s.handoff.pop, s.controller.reloadState s.handoff.shared.observe.available,
      Shared.split Stamped slotCount with
    | .idle, some state, .ok shared =>
      let fresh := prepare s.controller.mode shared audio echo
      some { fresh with
        controller := fresh.controller.restoreReloadState state
        past := s.past ++ s.done }
    | _, _, _ => none

end Adapter

/-- The runs of the adapter of one channel, for any conversion of samples. -/
def adapter {F A : Type} (path : AudioPath F A) : System (Adapter A) (AdapterAct F A) where
  init s := ∃ mode slotCount shared audio echo, Shared.split Stamped slotCount = .ok shared ∧
    s = .prepare mode shared audio echo
  step := Adapter.step path

end Asl3
end UsbRadioPlus
