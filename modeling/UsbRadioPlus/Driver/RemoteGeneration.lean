import UsbRadioPlus.Driver.ServiceCycle
import UsbRadioPlus.Station.Plan
import UsbRadioPlus.Sys.Run

/-!
# A remote generation on the hardware worker (`rust/driver/src/hardware_remote.rs`)

A radio that is tuned remotely has one provider of its PTT: the rig, the CM119 or the parallel port.
The engine that controls it runs on the hardware worker and calls back (`BackendCall`); the generation
services the engine, publishes what the station may do, unkeys where something failed, and retires.

The engine and the rig are foreign. Which calls the engine makes, with which result, and what the rig
answers are arguments here. A station that is tuned remotely has its remote control enabled for good
(`bind_remote`), so that flag is left out; so are the policy of the tuner and the receive activity that
the engine is told, which no function here reads.
-/

namespace UsbRadioPlus
namespace Driver

open Sys Station

/-- A status of a foreign call. -/
abbrev CallError := Int

/-- `failure`: the GPIO operation is in the statistics. -/
def gpioFailure : CallError := -1101

/-! ## State -/

/-- What transports the operating state of the radio. -/
inductive RemoteBackend where
  | hamlib
  | parallelChannel
  | parallelRtx
  deriving DecidableEq, Repr

/-- The setup that a generation is opened with. -/
structure RemoteSetup where
  backend : RemoteBackend
  /-- The provider that the configuration asks for. -/
  pttSource : Option RemotePttSource
  /-- The radio's audio is on its CM119. -/
  usbAudio : Bool
  pollIntervalMs : Nat
  physicalDuplex : Bool

/-- Effective signal ownership. -/
structure RemotePhysicalWiring where
  /-- The one provider permitted to drive PTT. -/
  ptt : RemotePttSource
  carrier : CarrierSource
  /-- The external carrier comes from the rig. -/
  rigCarrier : Bool
  deriving DecidableEq, Repr

/-- The transmit tone of an operating state. -/
structure RemoteEncode where
  source : Nat
  enabled : Bool
  deriving DecidableEq, Repr

/-- What the worker has of a remote radio. -/
structure RemoteGeneration where
  wiring : RemotePhysicalWiring
  /-- The rig is open. -/
  rig : Bool
  encode : RemoteEncode
  signalPoll : Option Nat
  encodeGate : Option Bool
  deriving DecidableEq, Repr

/-- What the station is permitted. -/
structure RemoteRadioControl where
  receivePermitted : Bool
  transmitPermitted : Bool
  nonFm : Bool
  localUnqualifiedOpen : Bool
  deriving DecidableEq, Repr

/-- `RemoteRadioControl::default`, enabled: nothing is permitted. -/
def RemoteRadioControl.withdrawn : RemoteRadioControl := ⟨false, false, false, false⟩

/-- What the hardware tells the station of the remote radio. -/
structure RemoteHardwareSignals where
  carrier : Option Bool
  pttSelected : Bool
  /-- Successfully serviced/observed PTT state, not logical transmit intent. -/
  physicalPtt : Option Bool
  deriving DecidableEq, Repr

/-- Where the worker is. -/
inductive RemotePhase where
  /-- In front of the opening of its devices. -/
  | created
  /-- In front of the proof that PTT is inactive. -/
  | starting
  | opening (retiring : Bool)
  /-- An admission failed: outputs are made safe before the rig is dropped. -/
  | cleaning (error : CallError) (rig writable retiring : Bool)
  | serving (retiring : Bool)
  /-- The devices are closed. -/
  | closed
  /-- The worker was stopped; with its devices or without. -/
  | stopping (devices managed : Bool)
  /-- Its outputs are closed for good; where a generation was there, until that succeeds. -/
  | closing (devices managed : Bool)
  | ended
  deriving DecidableEq, Repr

/-- The worker of a radio that is tuned remotely. -/
structure RemoteWorker where
  service : Service
  control : RemoteRadioControl
  signals : RemoteHardwareSignals
  tune : Bool
  generation : Option RemoteGeneration
  /-- The request queue accepts work, and is ready. -/
  accepting : Bool
  ready : Bool
  phase : RemotePhase
  /-- History: the engine's service succeeded in this cycle, and gave what is permitted. -/
  served : Bool

/-- A part of a cycle with a remote radio. -/
abbrev RemoteCycle := Fallible RemoteWorker CallError

namespace RemoteWorker

variable (self : RemoteWorker)

/-- An event joins the log of the service. -/
def record (event : ServiceEvent) : RemoteWorker := { self with service := self.service.record event }

/-- The policy of the remote radio is published. -/
def publishControl (control : RemoteRadioControl) : RemoteWorker := { self with control }

/-- The signals of the hardware are published. -/
def publishSignals (signals : RemoteHardwareSignals) : RemoteWorker :=
  { self with signals }.record (.physical signals.physicalPtt)

/-- `ptt_control.set`. -/
def setPttControl (selected : Option RemotePttSource) (key : Bool) : RemoteWorker :=
  { self with service := { self.service with control := .remote selected key } }.record
    (.requested key)

/-- The pin of the external encoder. -/
def setEncoder (active : Bool) : RemoteWorker :=
  { self with service := { self.service with outputs := self.service.outputs.setEncoder active } }

/-- The generation behind a step of its own. -/
def setGeneration (generation : RemoteGeneration) : RemoteWorker :=
  { self with generation := some generation }

/-- The generation is there from now on. -/
def «open» (generation : RemoteGeneration) : RemoteWorker :=
  (self.setGeneration generation).record (.selected generation.wiring.ptt)

end RemoteWorker

/-- What the rig answers where its PTT is set and read. -/
structure RigAnswers where
  setPtt : Except CallError Unit
  getPtt : Except CallError Int

namespace RemoteCycle

variable {α : Type}

/-- A computation of the GPIO service. -/
def gpio (m : Cycle α) : RemoteCycle α :=
  Fallible.within RemoteWorker.service (fun s service => { s with service })
    (fun _ => gpioFailure) m

/-- The rig, or `CallError(-6)`. -/
def needRig (generation : RemoteGeneration) : RemoteCycle Unit :=
  Fallible.whenever (!generation.rig) (Fallible.fail (-6))

end RemoteCycle

open RemoteCycle

/-! ## PTT -/

/-- The PTT that the rig reports is the one that was written. -/
def confirmPtt (actual : Int) (keyed : Bool) : Except CallError Unit :=
  if decide (actual ≠ 0) == keyed then .ok () else .error gpioFailure

/-- The rig's part of a PTT request. -/
def keyRig (keyed : Bool) (rig : RigAnswers) : RemoteCycle Unit := do
  Fallible.of rig.setPtt
  let actual ← Fallible.of rig.getPtt
  Fallible.of (confirmPtt actual keyed)
  Fallible.modify (·.record (.confirmed .rig keyed))

/-- The rig confirms a PTT level, where it is the provider. The absence of a rig ends the call. -/
def keyProvider (generation : RemoteGeneration) (keyed : Bool) (rig : RigAnswers) :
    RemoteCycle (Except CallError Unit) :=
  if generation.wiring.ptt = .rig then do
    needRig generation
    Fallible.attempt (keyRig keyed rig)
  else pure (.ok ())

/-- `PhysicalBackend::set_ptt`. -/
def setPtt (worker : ServiceWorker) (generation : RemoteGeneration) (keyed : Bool) (moment : Moment)
    (rig : RigAnswers) : RemoteCycle Unit := do
  Fallible.whenever (!keyed) (Fallible.modify (·.setEncoder false))
  Fallible.modify fun s =>
    s.publishSignals { s.signals with pttSelected := true, physicalPtt := none }
  Fallible.modify (·.setPttControl (some generation.wiring.ptt) keyed)
  let gpio ← Fallible.attempt (RemoteCycle.gpio (serviceRemotePtt worker moment))
  Fallible.whenever keyed (Fallible.of gpio)
  let rig ← keyProvider generation keyed rig
  Fallible.of gpio
  Fallible.of rig
  Fallible.modify fun s => s.publishSignals { s.signals with physicalPtt := some keyed }

/-- `PhysicalBackend::transmit_idle`. -/
def transmitIdle (generation : RemoteGeneration) (rig : RigAnswers) : RemoteCycle Bool := do
  if generation.wiring.ptt ≠ .rig then do
    let s ← Fallible.get
    pure (s.signals.physicalPtt = some false)
  else do
    needRig generation
    let active := rig.getPtt.map fun value => decide (value ≠ 0)
    Fallible.whenever active.isOk
      (Fallible.modify (·.record (.confirmed .rig (active.toOption.getD false))))
    Fallible.modify fun s => s.publishSignals { s.signals with physicalPtt := active.toOption }
    let active ← Fallible.of active
    pure !active

/-- `RemoteGeneration::unkey`: every nonselected bank is confirmed inactive as well as the selected
provider. -/
def unkey (worker : ServiceWorker) (generation : RemoteGeneration) (moment : Moment)
    (rig : RigAnswers) : RemoteCycle Unit := do
  Fallible.modify fun s => { (s.setEncoder false).publishControl .withdrawn with tune := false }
  Fallible.modify (·.setPttControl (some generation.wiring.ptt) false)
  Fallible.modify (·.publishSignals ⟨none, true, none⟩)
  let gpio ← Fallible.attempt (RemoteCycle.gpio (serviceRemotePtt worker moment))
  let rig ← keyProvider generation false rig
  Fallible.of gpio
  Fallible.of rig
  Fallible.modify (·.publishSignals ⟨none, true, some false⟩)

/-! ## The backend of the engine -/

/-- An operating state that the engine applies. -/
structure RemoteRequestState where
  channel : U8
  receiveHz : Nat
  /-- The effective transmit frequency, 0 if there is none. -/
  transmitHz : Nat
  encode : RemoteEncode
  /-- It has no control that a parallel transport cannot program. -/
  plain : Bool
  /-- It is one of the memories, or its frequencies fit the synthesizer. -/
  representable : Bool

/-- A call of the engine, with what it finds. -/
inductive BackendCall where
  | readState (answer : Except CallError RemoteEncode)
  | applyState (state : RemoteRequestState) (cancelled : Bool) (rig dsp : Except CallError Unit)
    (answers : DeviceAnswers)
  | setPtt (keyed : Bool) (moment : Moment) (rig : RigAnswers)
  | setTune (enabled : Bool)
  | transmitIdle (rig : RigAnswers)
  | getSetting (answer : Except CallError Int)
  | setSetting (answer : Except CallError Unit)

/-- The transports without a rig. -/
def applyParallel (setup : RemoteSetup) (state : RemoteRequestState) (answers : DeviceAnswers) :
    RemoteCycle Unit := do
  Fallible.whenever (!state.plain) (Fallible.fail (-6))
  Fallible.whenever (!state.representable) (Fallible.fail (-6))
  if setup.backend = .parallelChannel then
    gpio (Cycle.outcome fun outputs devices => outputs.selectChannel state.channel devices answers)
  else do
    gpio fun s =>
      let (outputs, result) :=
        s.outputs.configureRemoteRadio ⟨state.receiveHz, state.transmitHz, false⟩
      some (result, { s with outputs })
    gpio (serviceRemoteRadio false answers)

/-- The state goes to the rig, or to a parallel transport. -/
def applyTransport (setup : RemoteSetup) (generation : RemoteGeneration) (state : RemoteRequestState)
    (rig : Except CallError Unit) (answers : DeviceAnswers) : RemoteCycle Unit :=
  if generation.rig then do
    Fallible.of rig
    Fallible.modify (·.setGeneration { generation with encodeGate := none })
  else applyParallel setup state answers

/-- `PhysicalBackend::apply_state`. -/
def applyState (setup : RemoteSetup) (generation : RemoteGeneration) (state : RemoteRequestState)
    (cancelled : Bool) (rig dsp : Except CallError Unit) (answers : DeviceAnswers) :
    RemoteCycle Unit := do
  Fallible.modify (·.publishControl .withdrawn)
  Fallible.whenever cancelled (Fallible.fail (-10))
  applyTransport setup generation state rig answers
  Fallible.of dsp
  Fallible.modify fun s => { s with
    generation := s.generation.map fun generation => { generation with encode := state.encode } }

/-- One call of the engine. The generation is the worker's. -/
def BackendCall.run (worker : ServiceWorker) (setup : RemoteSetup) (generation : RemoteGeneration) :
    BackendCall → RemoteCycle Unit
  | .readState answer => do
    needRig generation
    let encode ← Fallible.of answer
    Fallible.modify (·.setGeneration { generation with encode })
  | .applyState state cancelled rig dsp answers =>
    Driver.applyState setup generation state cancelled rig dsp answers
  | .setPtt keyed moment rig => Driver.setPtt worker generation keyed moment rig
  | .setTune enabled => Fallible.modify fun s => { s with tune := enabled }
  | .transmitIdle rig => do
    let _ ← Driver.transmitIdle generation rig
  | .getSetting answer => do
    needRig generation
    let _ ← Fallible.of answer
  | .setSetting answer => do
    needRig generation
    Fallible.of answer

/-- A computation on the worker's generation. -/
def withGeneration {α : Type} (f : RemoteGeneration → RemoteCycle α) : RemoteCycle α := do
  let s ← Fallible.get
  match s.generation with
  | none => Fallible.panicked
  | some generation => f generation

/-- The calls that the engine makes in one service. It goes on behind a failure as it likes. -/
def runCalls (worker : ServiceWorker) (setup : RemoteSetup) : List BackendCall → RemoteCycle Unit
  | [] => pure ()
  | call :: calls => do
    let _ ← Fallible.attempt (withGeneration (call.run worker setup))
    runCalls worker setup calls

/-! ## Servicing -/

/-- What the generation reads of the engine's snapshot. -/
structure RemoteSnapshot where
  receivePermitted : Bool
  inhibited : Bool
  applied : Bool
  pending : Bool
  appliedMode : Nat
  appliedDecode : Bool
  failureCode : CallError

/-- One service of the engine: what it calls, what it reports, and what the rig answers. -/
structure RemoteService where
  confirm : Moment
  confirmRig : RigAnswers
  calls : List BackendCall
  result : Except CallError Unit
  now : Nat
  carrier : Except CallError Int
  idle : RigAnswers
  snapshot : Except CallError RemoteSnapshot
  ctcssRequested : Bool
  gate : Except CallError Unit

/-- Modes whose receive is qualified in DSP. -/
def fmMode (mode : Nat) : Bool := mode = 1 || mode = 9 || mode = 10

/-- The receiver is heard where it cannot hear the own transmitter. -/
def receiveAllowed (engine : Bool) (mode : Nat) (duplex : Bool) (physical : Option Bool) : Bool :=
  engine && (fmMode mode || duplex || physical == some false)

/-- The first cause of a failure is kept. -/
def firstCause (current recorded : CallError) : CallError :=
  if recorded = 0 then current else recorded

/-- The part of `service` that samples the rig, once in a poll interval. -/
def pollSignals (setup : RemoteSetup) (label : RemoteService) : RemoteCycle Unit :=
  withGeneration fun generation =>
    Fallible.whenever (generation.signalPoll.all fun last => setup.pollIntervalMs ≤ label.now - last) do
      Fallible.whenever generation.wiring.rigCarrier do
        needRig generation
        Fallible.modify fun s => s.publishSignals { s.signals with
          carrier := label.carrier.toOption.map fun value => decide (value ≠ 0) }
        let _ ← Fallible.of label.carrier
      Fallible.whenever (generation.wiring.ptt = .rig) do
        let _ ← transmitIdle generation label.idle
      Fallible.modify (·.setGeneration { generation with signalPoll := some label.now })

/-- The policy that a snapshot gives. -/
def remoteControl (setup : RemoteSetup) (wiring : RemotePhysicalWiring) (served : Bool)
    (snapshot : RemoteSnapshot) (physical : Option Bool) : RemoteRadioControl where
  receivePermitted := receiveAllowed (served && snapshot.receivePermitted) snapshot.appliedMode
    setup.physicalDuplex physical
  transmitPermitted := served && !snapshot.inhibited
  nonFm := snapshot.applied && !fmMode snapshot.appliedMode
  localUnqualifiedOpen := snapshot.applied && wiring.carrier = .open && !snapshot.appliedDecode

/-- The permissions of a snapshot are published. -/
def publishPolicy (setup : RemoteSetup) (label : RemoteService) (snapshot : RemoteSnapshot) :
    RemoteCycle Unit :=
  withGeneration fun generation => Fallible.modify fun s =>
    { s.publishControl (remoteControl setup generation.wiring label.result.isOk snapshot
        s.signals.physicalPtt) with served := label.result.isOk }

/-- The transmit tone follows the operating state, while transmission is permitted. -/
def gateEncode (label : RemoteService) : RemoteCycle Unit :=
  withGeneration fun generation => do
    let s ← Fallible.get
    let enabled := generation.encode.enabled && label.ctcssRequested && s.control.transmitPermitted
    Fallible.modify (·.setEncoder (generation.encode.source = 2 && enabled))
    Fallible.whenever (generation.encode.source = 3 && generation.encodeGate != some enabled) do
      needRig generation
      Fallible.of label.gate
      Fallible.modify (·.setGeneration { generation with encodeGate := some enabled })

/-- `RemoteGeneration::service`. Admission is published before blocking I/O and reopened only after
the engine verifies its result. -/
def serviceGeneration (worker : ServiceWorker) (setup : RemoteSetup) (label : RemoteService) :
    RemoteCycle Unit := do
  let s ← Fallible.get
  -- The engine's cached state cannot establish physical safety after an observation failure.
  Fallible.whenever s.signals.physicalPtt.isNone <| withGeneration fun generation =>
    setPtt worker generation false label.confirm label.confirmRig
  runCalls worker setup label.calls
  Fallible.whenever label.result.isOk (pollSignals setup label)
  let snapshot ← Fallible.of label.snapshot
  publishPolicy setup label snapshot
  match label.result with
  | .error error => do
    Fallible.modify (·.setEncoder false)
    Fallible.fail (firstCause error snapshot.failureCode)
  | .ok () => do
    gateEncode label
    Fallible.whenever (snapshot.applied && !snapshot.pending)
      (Fallible.modify fun s => { s with ready := true })

/-! ## Opening and retiring -/

/-- What the admission of a generation finds. -/
structure OpenAnswers where
  encoder : Except CallError (Option ExternalEncoder)
  bind : DeviceAnswers
  rig : Except CallError Unit
  /-- The rig's PTT can be written and read. -/
  rigPttWritable : Bool
  rigPttReadable : Bool
  /-- The checks of `select` behind the choice of the PTT provider: the carrier and whether the rig
  gives it. -/
  carrier : Except CallError (CarrierSource × Bool)
  coverage : Except CallError Unit
  owner : Except CallError RemoteEncode

/-- The providers that are there. -/
def pttAvailable (worker : ServiceWorker) (setup : RemoteSetup) (answers : OpenAnswers) :
    RemotePttSource → Bool
  | .rig => setup.backend = .hamlib && answers.rigPttWritable && answers.rigPttReadable
  | .usb => setup.usbAudio && worker.plan.cm119.isSome
  | .parallel => worker.plan.parallel.any (·.pttMask ≠ 0)

/-- The PTT provider of `RemotePhysicalWiring::select`. -/
def selectPtt (worker : ServiceWorker) (setup : RemoteSetup) (answers : OpenAnswers) :
    Option RemotePttSource :=
  match setup.pttSource with
  | some source => if pttAvailable worker setup answers source then some source else none
  | none => [.rig, .usb, .parallel].find? (pttAvailable worker setup answers)

/-- The admission behind the rig's opening. -/
def prepareGeneration (worker : ServiceWorker) (setup : RemoteSetup) (answers : OpenAnswers) :
    Except CallError RemoteGeneration :=
  match selectPtt worker setup answers, answers.carrier, answers.coverage, answers.owner with
  | none, _, _, _ => .error (-6)
  | some _, .error _, _, _ => .error (-6)
  | some _, .ok _, .error error, _ => .error error
  | some _, .ok _, .ok (), .error error => .error error
  | some ptt, .ok (carrier, rigCarrier), .ok (), .ok encode => .ok {
      wiring := ⟨ptt, carrier, rigCarrier⟩
      rig := setup.backend = .hamlib
      encode
      signalPoll := none
      encodeGate := none }

/-- `ServiceWorker::remote_failed`. -/
def remoteFailed : RemoteCycle Unit := Fallible.modify (·.publishControl .withdrawn)

/-- A change of the phase. -/
def setPhase (phase : RemotePhase) : RemoteCycle Unit := Fallible.modify fun s => { s with phase }

/-- `RemoteGeneration::open`, up to the rig. -/
def openRig (setup : RemoteSetup) (answers : OpenAnswers) : RemoteCycle Unit := do
  Fallible.modify (·.publishControl .withdrawn)
  Fallible.modify (·.setPttControl none false)
  let encoder ← Fallible.of answers.encoder
  gpio fun s => (s.outputs.bindEncoder encoder s.devices answers.bind).map fun outcome =>
    (outcome.result, s.withOutcome outcome)
  Fallible.whenever (setup.backend = .hamlib) (Fallible.of answers.rig)

/-- `RemoteGeneration::open`, called by the worker: without a generation it goes on serving. Behind a
failed preparation it first makes its outputs safe. -/
def openGeneration (worker : ServiceWorker) (setup : RemoteSetup) (retiring : Bool)
    (answers : OpenAnswers) : RemoteCycle Unit := do
  match ← Fallible.attempt (openRig setup answers) with
  | .error _ => do
    remoteFailed
    setPhase (.serving retiring)
  | .ok () => match prepareGeneration worker setup answers with
    | .error error => do
      Fallible.modify fun s => { s with accepting := false }
      setPhase (.cleaning error (setup.backend = .hamlib) answers.rigPttWritable retiring)
    | .ok generation => do
      Fallible.modify (·.publishControl .withdrawn)
      Fallible.modify (·.setPttControl (some generation.wiring.ptt) false)
      Fallible.modify (·.publishSignals ⟨none, true, none⟩)
      Fallible.modify (·.open generation)
      setPhase (.serving retiring)

/-- The rig is closed, with the error of its close. -/
def closeRig : RemoteCycle Unit := Fallible.modify (·.record .rigClosed)

/-- One attempt to make the outputs safe behind a failed admission. -/
def cleanAdmission (worker : ServiceWorker) (rig writable retiring : Bool) (moment : Moment)
    (answers : RigAnswers) : RemoteCycle Unit := do
  let gpio ← Fallible.attempt (RemoteCycle.gpio (serviceRemotePtt worker moment))
  let cat := if rig && writable then answers.setPtt else .ok ()
  Fallible.of gpio
  Fallible.of cat
  Fallible.whenever rig closeRig
  remoteFailed
  setPhase (.serving retiring)

/-- `RemoteGeneration::retire`. `engine` and `close` are the answers of the engine and of the rig. -/
def retireGeneration (worker : ServiceWorker) (setup : RemoteSetup) (moment : Moment)
    (rig : RigAnswers) (engine close : Except CallError Unit) : RemoteCycle Unit :=
  withGeneration fun generation => do
    Fallible.modify fun s => { s with accepting := false }
    Fallible.of engine
    -- Hamlib close consumes its handle even on error.
    if setup.backend = .hamlib && !generation.rig then pure ()
    else do
      unkey worker generation moment rig
      Fallible.whenever generation.rig do
        Fallible.modify (·.setGeneration { generation with rig := false })
        closeRig
        Fallible.of close

/-! ## The worker -/

/-- One iteration of the worker with its devices: the service of the engine, and the ordinary one. -/
structure RemoteMoment where
  service : RemoteService
  unkeys : Moment × RigAnswers
  commands : List (ServiceCommand × DeviceAnswers)
  cycle : Moment
  /-- Behind a failure of the ordinary service. -/
  recovers : Moment × RigAnswers

/-- A failure of the generation is a failure of the radio, not of the worker. -/
def unkeyOrFail (worker : ServiceWorker) (found : Moment × RigAnswers) : RemoteCycle Unit := do
  let s ← Fallible.get
  match s.generation with
  | none => pure ()
  | some generation => match ← Fallible.attempt (unkey worker generation found.1 found.2) with
    | .ok () => pure ()
    | .error _ => remoteFailed

/-- The service of the generation, where there is one. -/
def serviceOrUnkey (worker : ServiceWorker) (setup : RemoteSetup) (moment : RemoteMoment) :
    RemoteCycle Unit := do
  Fallible.modify fun s => { s with served := false }
  let s ← Fallible.get
  match s.generation with
  | none => pure ()
  | some _ => match ← Fallible.attempt (serviceGeneration worker setup moment.service) with
    | .ok () => pure ()
    | .error _ => do
      remoteFailed
      unkeyOrFail worker moment.unkeys

/-- An iteration of `ServiceWorker::run`. -/
def remoteCycle (worker : ServiceWorker) (setup : RemoteSetup) (moment : RemoteMoment) :
    RemoteCycle Unit := do
  serviceOrUnkey worker setup moment
  match ← Fallible.attempt (gpio (do
      serviceCommands worker moment.commands
      serviceOnce worker moment.cycle)) with
  | .ok () => pure ()
  | .error _ => do
    unkeyOrFail worker moment.recovers
    Fallible.whenever (!worker.native) do
      Fallible.modify fun s => { s with service := { s.service with
        inputs := HardwareInputs.none, outputs := s.service.outputs.retireSite } }
      setPhase (.serving true)

/-- An iteration of a worker that retires its devices: its outputs are made safe first. -/
def retireCycle (worker : ServiceWorker) (unkeys : Moment × RigAnswers) (close : DeviceAnswers) :
    RemoteCycle Unit := do
  Fallible.modify fun s => { s with served := false }
  let s ← Fallible.get
  match s.generation with
  | none => gpio (closeOutputs worker close)
  | some generation => match ← Fallible.attempt (unkey worker generation unkeys.1 unkeys.2) with
    | .ok () => gpio (closeOutputs worker close)
    | .error error => do
      remoteFailed
      Fallible.fail error
  setPhase .closed

/-! ## Runs -/

/-- What happens to the worker. -/
inductive RemoteAct where
  /-- `HardwareService::start` opens the devices; an ordinary worker services them once. -/
  | start (devices : ServiceDevices) (answers : DeviceAnswers) (moment : Moment)
  /-- PTT is proven inactive. -/
  | confirm (moment : Moment)
  | «open» (answers : OpenAnswers)
  | clean (moment : Moment) (rig : RigAnswers)
  | cycle (moment : RemoteMoment)
  | retireCycle (unkeys : Moment × RigAnswers) (close : DeviceAnswers)
  | reopen (devices : ServiceDevices) (answers : DeviceAnswers)
  /-- The devices could not be opened. -/
  | lost
  /-- A command of a site for its closed bank is refused. -/
  | rejectStale (bank : SiteBank)
  | stop
  | reopenToRetire (devices : ServiceDevices)
  | retire (moment : Moment) (rig : RigAnswers) (engine close : Except CallError Unit)
  | leave
  | close (answers : DeviceAnswers)

/-- The devices and the first service of `HardwareService::start`. -/
def startService (worker : ServiceWorker) (devices : ServiceDevices) (answers : DeviceAnswers)
    (moment : Moment) : RemoteCycle Unit := do
  match ← Fallible.attempt (do
      gpio (reopenSite worker devices answers)
      Fallible.whenever (!worker.native) (gpio (serviceOnce worker moment))) with
  | .ok () => setPhase .starting
  | .error _ => do
    Fallible.modify fun s => { s with accepting := false, service := { s.service with
      outputs := s.service.outputs.retireSite } }
    setPhase (.closing true true)

/-- `PTT` is inactive, or the devices are retired. -/
def confirmStart (worker : ServiceWorker) (moment : Moment) : RemoteCycle Unit := do
  let confirmed ← Fallible.attempt (gpio (serviceRemotePtt worker moment))
  setPhase (.opening !confirmed.isOk)

/-- The devices are opened again. -/
def reopenDevices (worker : ServiceWorker) (devices : ServiceDevices) (answers : DeviceAnswers) :
    RemoteCycle Unit := do
  Fallible.modify fun s => { s with served := false }
  match ← Fallible.attempt (gpio (reopenSite worker devices answers)) with
  | .ok () => setPhase (.serving false)
  | .error _ => do
    Fallible.modify fun s => { s with service := { s.service with
      outputs := s.service.outputs.retireSite } }
    setPhase (.serving true)

/-- An attempt to retire the generation. -/
def retireOrFail (worker : ServiceWorker) (setup : RemoteSetup) (moment : Moment) (rig : RigAnswers)
    (engine close : Except CallError Unit) : RemoteCycle Unit := do
  match ← Fallible.attempt (retireGeneration worker setup moment rig engine close) with
  | .ok () => Fallible.modify fun s => { s with generation := none }
  | .error _ => remoteFailed

/-- The last close of the outputs. -/
def closeLast (worker : ServiceWorker) (devices managed : Bool) (answers : DeviceAnswers) :
    RemoteCycle Unit := do
  let closed ← Fallible.attempt (Fallible.whenever devices (gpio (closeOutputs worker answers)))
  Fallible.whenever (closed.isOk || !managed) do
    Fallible.modify fun s => { s with service := { s.service with inputs := HardwareInputs.none } }
    setPhase .ended

namespace RemotePhase

/-- No generation was opened yet. -/
def unopened : RemotePhase → Bool
  | starting | opening _ | cleaning .. => true
  | _ => false

/-- The worker was stopped. -/
def stopped : RemotePhase → Bool
  | stopping .. | closing .. | ended => true
  | _ => false

end RemotePhase

namespace RemoteWorker

variable (self : RemoteWorker)

/-- The state behind a computation, whether it failed or not. -/
def exec (m : RemoteCycle Unit) : Option RemoteWorker := (m self).map Prod.snd

/-- A step of the worker. -/
def step (worker : ServiceWorker) (setup : RemoteSetup) (act : RemoteAct) : Option RemoteWorker :=
  match self.phase, act with
  | .created, .start devices answers moment => self.exec (startService worker devices answers moment)
  | .starting, .confirm moment => self.exec (confirmStart worker moment)
  | .opening retiring, .open answers => self.exec (openGeneration worker setup retiring answers)
  | .cleaning _ rig writable retiring, .clean moment answers =>
    self.exec (cleanAdmission worker rig writable retiring moment answers)
  | .serving false, .cycle moment => self.exec (remoteCycle worker setup moment)
  | .serving true, .retireCycle unkeys close => self.exec (retireCycle worker unkeys close)
  | .closed, .reopen devices answers => self.exec (reopenDevices worker devices answers)
  | .closed, .lost => some { self with
      served := false, service := { self.service with inputs := HardwareInputs.none } }
  | .closed, .rejectStale bank => self.exec (gpio (rejectSite bank .staleGeneration))
  | .serving _, .stop => some { self with phase := .stopping true self.generation.isSome }
  | .closed, .stop => some { self with phase := .stopping false self.generation.isSome }
  | .stopping false managed, .reopenToRetire devices =>
    if self.generation.isSome && devices.justOpened worker.plan then
      some { self with
        service := { self.service with devices, log := openings devices ++ self.service.log }
        phase := .stopping true managed }
    else none
  | .stopping true _, .retire moment rig engine close =>
    self.exec (retireOrFail worker setup moment rig engine close)
  | .stopping devices managed, .leave =>
    if self.generation.isNone then
      some { self with
        service := { self.service with outputs := self.service.outputs.retireSite }
        phase := .closing devices managed }
    else none
  | .closing devices managed, .close answers =>
    self.exec (closeLast worker devices managed answers)
  | _, _ => none

end RemoteWorker

/-- What holds behind a computation, whether it failed or not. -/
theorem RemoteWorker.of_exec {m : RemoteCycle Unit} {P Q : RemoteWorker → Prop} {s s' : RemoteWorker}
    (hm : Fallible.Triple P m (fun _ => Q) fun _ => Q) (hs : P s) (hrun : s.exec m = some s') : Q s' := by
  obtain ⟨⟨result, s''⟩, hexec, rfl⟩ := Option.map_eq_some_iff.mp hrun
  have hbehind := hm s hs
  rw [hexec] at hbehind
  cases result <;> exact hbehind

/-- The runs of the worker. The station was told that nothing is permitted. -/
def remoteWorkers (worker : ServiceWorker) (setup : RemoteSetup) : System RemoteWorker RemoteAct where
  init s := ∃ outputs devices next inputs signals, s = {
    service := { outputs, devices, next, control := .remote none false, inputs, log := [] }
    control := .withdrawn
    signals
    tune := false
    generation := none
    accepting := true
    ready := false
    phase := .created
    served := false }
  step s := s.step worker setup

end Driver
end UsbRadioPlus
