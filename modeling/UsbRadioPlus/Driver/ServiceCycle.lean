import UsbRadioPlus.Driver.OutputState
import UsbRadioPlus.Sys.Fallible

/-!
# The cycles of the hardware service (`rust/driver/src/hardware_host.rs`)

The worker publishes its outputs to the devices, lets them service their ports and samples their
inputs: in the ordinary cycle, in the native cycle, and where a remote owner has to confirm PTT. A
cycle is a computation on the worker's state (`Service`); what it did in front of a failure stays.

`log` is history, newest first: what was done with the devices. The sidetone, the EEPROM, the service
statistics and the input events are left out: no cycle reads them.
-/

namespace UsbRadioPlus
namespace Driver

open Sys

/-- One physical PTT provider for this stream generation. -/
inductive RemotePttSource where
  | rig
  | usb
  | parallel
  deriving DecidableEq, Repr

/-- Worker-local output routing. -/
inductive PhysicalPttControl where
  | ordinary
  | remote (selected : Option RemotePttSource) (key : Bool)
  deriving DecidableEq, Repr

/-- `key_for`: the key of the PTT source. -/
def PhysicalPttControl.keyFor (self : PhysicalPttControl) (source : RemotePttSource)
    (rendered : Bool) : Bool :=
  match self with
  | .ordinary => rendered
  | .remote selected key => selected == some source && key

/-- The PTT provider of a bank. -/
def SiteBank.pttSource : SiteBank → RemotePttSource
  | .cm119 => .usb
  | .parallel => .parallel

/-- Hardware values that the owner has sampled (`rust/station/src/runtime.rs`). -/
structure HardwareInputs where
  carrier : Bool
  parallelCarrier : Bool
  subaudible : Bool
  parallelSubaudible : Bool
  /-- The hardware owner has applied PTT. -/
  physicalPtt : Bool
  cm119GpioMask : U8
  parallelInputMask : U8
  deriving DecidableEq, Repr

/-- `HardwareInputs::default`. -/
def HardwareInputs.none : HardwareInputs := ⟨false, false, false, false, false, 0, 0⟩

/-- What was done with the devices. -/
inductive ServiceEvent where
  | opened (bank : SiteBank)
  /-- A publication succeeded, under the generation that owned the bank. -/
  | published (bank : SiteBank) (generation : Nat) (levels : U8) (ptt : Bool)
  | refused (bank : SiteBank) (ptt : Bool)
  /-- The native cycle of this generation found its outputs published. -/
  | kept (bank : SiteBank) (generation : Nat)
  /-- A service call succeeded. -/
  | serviced (bank : SiteBank)
  /-- The synthesizer was given a PTT level. -/
  | rtx (transmitting : Bool)
  /-- The station got new inputs. -/
  | sampled
  /-- A remote owner requested or withdrew the key. -/
  | requested (key : Bool)
  /-- The provider reported this level. -/
  | confirmed (source : RemotePttSource) (key : Bool)
  /-- The physical PTT was published, if it is known. -/
  | physical (ptt : Option Bool)
  | rigClosed
  /-- The provider of PTT was selected. -/
  | selected (source : RemotePttSource)
  deriving DecidableEq, Repr

/-- The state of the worker. -/
structure Service where
  outputs : OutputState
  devices : ServiceDevices
  next : Nat
  control : PhysicalPttControl
  /-- The inputs that the station sees. -/
  inputs : HardwareInputs
  log : List ServiceEvent

/-- What the worker was made with. -/
structure ServiceWorker where
  native : Bool
  plan : HardwarePlan

/-- What a cycle finds: the rendered PTT, the clip counter, the time, the devices' answers. -/
structure Moment where
  logicalPtt : Bool
  receiveClipEvents : Nat
  nowMs : Nat
  answers : DeviceAnswers

/-- A part of a cycle. -/
abbrev Cycle := Fallible Service ServiceFailure

namespace Service

variable (self : Service)

/-- The generation that owns a bank. -/
def generation (bank : SiteBank) : Nat := (self.outputs.site bank).snapshot.generation

/-- An event joins the log. -/
def record (event : ServiceEvent) : Service := { self with log := event :: self.log }

/-- The guarded bindings of a bank. -/
def setSite (bank : SiteBank) (state : SiteBankState) : Service :=
  { self with outputs := self.outputs.setSite bank state }

/-- The levels that were written to a bank. -/
def submitted (bank : SiteBank) (levels : U8) : Service :=
  self.setSite bank ((self.outputs.site bank).submitted (levels.setWidth 32))

/-- The levels that were read from a bank. -/
def observed (bank : SiteBank) (value : Option U32) (now : Nat) : Service :=
  self.setSite bank ((self.outputs.site bank).observe value now)

/-- The end of the work on a bank. -/
def serviced (bank : SiteBank) (success : Bool) : Service :=
  self.setSite bank ((self.outputs.site bank).serviced success)

/-- `publish_inputs` -/
def publishInputs (inputs : HardwareInputs) : Service := { self with inputs }.record .sampled

/-- A publication and its answer. -/
def published (bank : SiteBank) (levels : U8) (ptt : Bool) (answer : Except GpioError Unit) :
    Service :=
  { self with devices := self.devices.touch bank }.record <| match answer with
    | .ok () => .published bank (self.generation bank) levels ptt
    | .error _ => .refused bank ptt

/-- The outputs and the devices behind a call. -/
def withOutcome (outcome : Outcome) : Service :=
  { self with outputs := outcome.outputs, devices := outcome.devices }

end Service

namespace Cycle

variable {α : Type}

/-- An operation of the output state. -/
def outcome (op : OutputState → ServiceDevices → Outcome) : Cycle Unit := fun s =>
  let outcome := op s.outputs s.devices
  some (outcome.result, s.withOutcome outcome)

/-- A publication. -/
def publish (bank : SiteBank) (levels : U8) (ptt : Bool) (operation : HardwareOperation)
    (answer : Except GpioError Unit) : Cycle Unit := fun s =>
  some (failing operation answer, s.published bank levels ptt answer)

/-- A service call. -/
def service (bank : SiteBank) (operation : HardwareOperation) (answer : Except GpioError Unit) :
    Cycle Unit := do
  Fallible.of (failing operation answer)
  Fallible.modify (·.record (.serviced bank))

end Cycle

/-- `ServiceDevices::cm119_snapshot`. -/
def cm119Snapshot (answers : DeviceAnswers) : Cycle (Option (Cm119Inputs × Cm119Statistics)) := do
  let s ← Fallible.get
  match s.devices.cm119 with
  | none => pure none
  | some _ => do
    Cycle.service .cm119 .serviceCm119 answers.serviceCm119
    let inputs ← Fallible.of (failing .readCm119 answers.inputsCm119)
    let statistics ← Fallible.of (failing .readCm119Statistics answers.statisticsCm119)
    pure (some (inputs, statistics))

/-- The pins that the audio adapter reports, where it is online. -/
def observeCm119 (snapshot : Option (Cm119Inputs × Cm119Statistics)) (now : Nat) : Cycle Unit := do
  let online := snapshot.filter fun (input, _) => input.online
  Fallible.modify (·.observed .cm119
    (online.map fun (input, _) => input.gpioInputMask.setWidth 32) now)
  Fallible.modify (·.serviced .cm119 (snapshot.any fun (input, _) => input.online))

/-- `hardware_inputs`: each bank gives its own inputs. -/
def hardwareInputs (cm119 : Cm119Inputs) (plan : Option ParallelPlan)
    (parallel : Option ParallelInputs) (statistics : Cm119Statistics) : HardwareInputs :=
  let parallelOnline := parallel.filter (·.online)
  { carrier := cm119.online && cm119.corActive
    subaudible := cm119.online && cm119.ctcssActive
    parallelCarrier := parallelOnline.any fun inputs =>
      plan.any fun plan => inputs.statusMask &&& plan.carrierMask ≠ 0
    parallelSubaudible := parallelOnline.any fun inputs =>
      plan.any fun plan => inputs.statusMask &&& plan.ctcssMask ≠ 0
    physicalPtt := statistics.online && statistics.pttApplied
    cm119GpioMask := if cm119.online then cm119.gpioInputMask else 0
    parallelInputMask := parallelOnline.elim 0 (·.statusMask) }

/-- Missing CM119 observations represent absent signals, not successful device I/O. -/
def collectedInputs (worker : ServiceWorker)
    (snapshot : Option (Cm119Inputs × Cm119Statistics)) (parallel : Option ParallelInputs)
    (answers : DeviceAnswers) : Cycle HardwareInputs := do
  let (cm119, statistics) := snapshot.getD (⟨false, false, false, 0⟩, ⟨false, false⟩)
  let inputs := hardwareInputs cm119 worker.plan.parallel parallel statistics
  let s ← Fallible.get
  match s.devices.cm119, s.devices.parallel, worker.plan.parallel with
  | none, some _, some plan => do
    let statistics ← Fallible.of (failing .readParallelStatistics answers.statisticsAgain)
    pure { inputs with
      physicalPtt := plan.pttMask ≠ 0 && statistics.online &&
        (decide (statistics.appliedOutputMask &&& plan.pttMask ≠ 0) != s.devices.pttInverted) }
  | _, _, _ => pure inputs

/-- The synthesizer gets the PTT level where there is a remote radio. -/
def serviceRemoteRadio (logicalPtt : Bool) (answers : DeviceAnswers) : Cycle Unit := do
  let s ← Fallible.get
  Fallible.whenever s.outputs.remoteRadio.isSome (Fallible.modify (·.record (.rtx logicalPtt)))
  Cycle.outcome fun outputs devices => outputs.serviceRemoteRadio devices logicalPtt answers

/-- The calls of one parallel service: their result decides what the site observes. -/
def acquireParallel (outputMask : U8) (logicalPtt : Bool) (answers : DeviceAnswers) :
    Cycle ParallelInputs := do
  Cycle.publish .parallel outputMask logicalPtt .publishParallel answers.publishParallel
  Fallible.modify (·.submitted .parallel outputMask)
  Cycle.service .parallel .serviceParallel answers.serviceParallel
  Fallible.of (failing .readParallel answers.inputsParallel)

/-- `service_parallel_once` -/
def serviceParallelOnce (worker : ServiceWorker) (logicalPtt : Bool) (moment : Moment) :
    Cycle (Option ParallelInputs) := do
  serviceRemoteRadio logicalPtt moment.answers
  match worker.plan.parallel with
  | none => pure none
  | some plan => do
    let s ← Fallible.get
    match s.devices.parallel with
    -- "a configured parallel plan owns a device"
    | none => Fallible.panicked
    | some _ => do
      let outputMask := parallelOutput plan s.outputs.parallel logicalPtt s.devices.pttInverted
      let acquisition ← Fallible.attempt (acquireParallel outputMask logicalPtt moment.answers)
      let online := acquisition.toOption.filter (·.online)
      Fallible.modify (·.observed .parallel
        (online.map fun input => (input.statusMask.setWidth 32 : U32) <<< 8) moment.nowMs)
      Fallible.modify (·.serviced .parallel (acquisition.toOption.any (·.online)))
      let inputs ← Fallible.of acquisition
      let _ ← Fallible.of (failing .readParallelStatistics moment.answers.statisticsParallel)
      pure (some inputs)

/-- `outputs.native_outputs = …`. -/
def setNativeOutputs (outputs : Option Cm119Outputs) : Cycle Unit :=
  Fallible.modify fun s => { s with outputs := { s.outputs with nativeOutputs := outputs } }

/-- A publication of the native cycle. Behind a failure the inputs are there, without PTT. -/
def republishNative (requested : Cm119Outputs) (inputs : HardwareInputs) (answers : DeviceAnswers) :
    Cycle Unit := do
  match ← Fallible.attempt (Cycle.publish .cm119 requested.gpioOutputMask requested.pttAsserted
      .publishCm119 answers.publishCm119) with
  | .error failure => do
    setNativeOutputs none
    Fallible.modify (·.publishInputs { inputs with physicalPtt := false })
    Fallible.fail failure
  | .ok () => setNativeOutputs (some requested)

/-- The part of the native cycle that hands the outputs to the CM119. -/
def publishNative (ready : Bool) (inputs : HardwareInputs) (moment : Moment) : Cycle Unit := do
  let s ← Fallible.get
  match s.devices.cm119 with
  | none => pure ()
  | some _ => do
    let requested : Cm119Outputs := {
      pttAsserted := ready && s.control.keyFor .usb moment.logicalPtt
      gpioOutputMask := s.outputs.cm119 }
    if s.outputs.nativeOutputs = some requested then
      Fallible.modify fun s => (s.record (.kept .cm119 (s.generation .cm119))).submitted .cm119
        requested.gpioOutputMask
    else do
      republishNative requested inputs moment.answers
      Fallible.modify (·.submitted .cm119 requested.gpioOutputMask)

/-- The inputs of a native cycle. -/
def nativeInputs (ready : Bool) (worker : ServiceWorker)
    (snapshot : Option (Cm119Inputs × Cm119Statistics)) (parallel : Option ParallelInputs)
    (answers : DeviceAnswers) : Cycle HardwareInputs :=
  if ready then collectedInputs worker snapshot parallel answers else pure HardwareInputs.none

/-- `service_native_once` -/
def serviceNativeOnce (worker : ServiceWorker) (moment : Moment) : Cycle Unit := do
  -- Indicator failures never prevent native input sampling or fail-safe PTT handling.
  let _ ← Fallible.attempt <| Cycle.outcome fun outputs devices => outputs.serviceClipLed devices
    worker.plan.clipLedMask moment.receiveClipEvents moment.nowMs moment.answers
  let snapshots ← Fallible.attempt (cm119Snapshot moment.answers)
  let snapshot := snapshots.toOption.join
  observeCm119 snapshot moment.nowMs
  let ready := snapshots.toOption.any fun snapshot => snapshot.all fun (inputs, _) => inputs.online
  let s ← Fallible.get
  let parallel ← Fallible.attempt (serviceParallelOnce worker
    (ready && s.control.keyFor .parallel moment.logicalPtt) moment)
  let inputs ← nativeInputs ready worker snapshot parallel.toOption.join moment.answers
  publishNative ready inputs moment
  -- Physical PTT is serviced feedback, never newly queued demand.
  Fallible.modify (·.publishInputs inputs)
  let _ ← Fallible.of parallel
  let _ ← Fallible.of snapshots

/-- The ordinary cycle publishes to the CM119 that is there. -/
def publishOrdinary (moment : Moment) : Cycle Unit := do
  let s ← Fallible.get
  Fallible.whenever s.devices.cm119.isSome do
    Cycle.publish .cm119 s.outputs.cm119 (s.control.keyFor .usb moment.logicalPtt) .publishCm119
      moment.answers.publishCm119
    Fallible.modify (·.submitted .cm119 s.outputs.cm119)

/-- The ordinary part of `service_once`. -/
def serviceOrdinaryOnce (worker : ServiceWorker) (moment : Moment) : Cycle Unit := do
  Cycle.outcome fun outputs devices => outputs.serviceClipLed devices worker.plan.clipLedMask
    moment.receiveClipEvents moment.nowMs moment.answers
  publishOrdinary moment
  let snapshot ← cm119Snapshot moment.answers
  observeCm119 snapshot moment.nowMs
  let s ← Fallible.get
  let parallel ← serviceParallelOnce worker (s.control.keyFor .parallel moment.logicalPtt) moment
  let inputs ← collectedInputs worker snapshot parallel moment.answers
  Fallible.modify (·.publishInputs inputs)

/-- `service_once` -/
def serviceOnce (worker : ServiceWorker) (moment : Moment) : Cycle Unit :=
  if worker.native then serviceNativeOnce worker moment else serviceOrdinaryOnce worker moment

/-! ## Confirmation -/

/-- The CM119 part of `service_remote_ptt`. -/
def confirmCm119 (moment : Moment) : Cycle Unit := do
  let s ← Fallible.get
  match s.devices.cm119 with
  | none => pure ()
  | some _ => do
    let desired : Cm119Outputs := {
      pttAsserted := s.control.keyFor .usb false
      gpioOutputMask := s.outputs.cm119 }
    setNativeOutputs none
    Cycle.outcome fun outputs devices => outputs.cancelPulses .cm119 0 devices moment.answers
    Cycle.publish .cm119 desired.gpioOutputMask desired.pttAsserted .publishCm119
      moment.answers.publishCm119
    Fallible.modify (·.submitted .cm119 desired.gpioOutputMask)
    let snapshot ← cm119Snapshot moment.answers
    observeCm119 snapshot moment.nowMs
    match snapshot with
    -- "the CM119 owner was retained"
    | none => Fallible.panicked
    | some (input, statistics) => do
      Fallible.whenever
        (!input.online || !statistics.online || statistics.pttApplied != desired.pttAsserted)
        (Fallible.fail ⟨.confirmCm119Ptt, .usb⟩)
      Fallible.modify (·.record (.confirmed .usb desired.pttAsserted))
      setNativeOutputs (some desired)

/-- The parallel part of `service_remote_ptt`. -/
def confirmParallel (worker : ServiceWorker) (moment : Moment) : Cycle Unit := do
  match worker.plan.parallel with
  | none => pure ()
  | some plan => do
    let s ← Fallible.get
    let key := s.control.keyFor .parallel false
    match s.devices.parallel with
    | none =>
      -- A closed output is already off, but cannot acknowledge a key request.
      if key then Fallible.fail ⟨.confirmParallelPtt, .io⟩
      else Fallible.modify (·.record (.confirmed .parallel false))
    | some _ => do
      Cycle.outcome fun outputs devices =>
        outputs.cancelPulses .parallel plan.pttMask devices moment.answers
      let _ ← serviceParallelOnce worker key moment
      let statistics ← Fallible.of
        (failing .readParallelStatistics moment.answers.statisticsAgain)
      let s ← Fallible.get
      let expected := parallelOutput plan s.outputs.parallel key s.devices.pttInverted
      Fallible.whenever (!statistics.online ||
          statistics.appliedOutputMask &&& plan.pttMask != expected &&& plan.pttMask)
        (Fallible.fail ⟨.confirmParallelPtt, .io⟩)
      Fallible.modify (·.record (.confirmed .parallel key))

/-- Synchronous physical output proof used by remote key/unkey transactions. Publication alone is not
confirmation; both banks are attempted even when the first fails. -/
def serviceRemotePtt (worker : ServiceWorker) (moment : Moment) : Cycle Unit := do
  let cm119 ← Fallible.attempt (confirmCm119 moment)
  let parallel ← Fallible.attempt (confirmParallel worker moment)
  Fallible.of cm119
  Fallible.of parallel

/-! ## Closing -/

/-- `outputs.site[bank].reject(error)`. -/
def rejectSite (bank : SiteBank) (error : SiteError) : Cycle Unit :=
  Fallible.modify fun s => s.setSite bank ((s.outputs.site bank).reject error)

/-- The CM119 was closed with these levels. -/
def Service.closedAt (self : Service) (levels : U8) : Service :=
  { self with devices := { self.devices with
      cm119 := self.devices.cm119.map fun device => { device with closed := some levels } } }

/-- The CM119 part of `close_outputs`. -/
def closeCm119 (answers : DeviceAnswers) : Cycle Unit := do
  let s ← Fallible.get
  match s.devices.cm119 with
  | none => pure ()
  | some _ => do
    let levels := s.outputs.cm119
    let cancelled : U8 := (s.outputs.site .cm119).snapshot.outputMask.setWidth 8
    let result ← Fallible.attempt do
      Cycle.outcome fun outputs devices => outputs.cancelPulses .cm119 cancelled devices answers
      Cycle.publish .cm119 levels false .publishCm119 answers.publishCm119
      Fallible.modify (·.submitted .cm119 levels)
      Cycle.service .cm119 .serviceCm119 answers.serviceCm119
    Fallible.modify (·.serviced .cm119 result.isOk)
    Fallible.whenever result.isOk (Fallible.modify (·.closedAt levels))
    Fallible.whenever (!result.isOk) (rejectSite .cm119 .fault)
    Fallible.of result

/-- The final levels of the parallel port: only configured site safe levels stay, and the encoder is
inactive. -/
def closingLevels (outputs : OutputState) : U8 :=
  let persistent := (outputs.site .parallel).safeHigh
  match outputs.encoder.filter (·.bank = .parallel) with
  | none => persistent
  | some encoder =>
    (persistent &&& ~~~encoder.mask) ||| (if encoder.inverted then encoder.mask else 0)

/-- The parallel part of `close_outputs`. A success consumes the device. -/
def closeParallel (worker : ServiceWorker) (answers : DeviceAnswers) : Cycle Unit := do
  let s ← Fallible.get
  match s.devices.parallel, worker.plan.parallel with
  | none, _ => pure ()
  -- "an owned parallel device has a plan"
  | some _, none => Fallible.panicked
  | some _, some plan => do
    let value := parallelOutput plan (closingLevels s.outputs) false s.devices.pttInverted
    match ← Fallible.attempt
        (Cycle.publish .parallel value false .publishParallel answers.closeParallel) with
    | .ok () => do
      Fallible.modify (·.record (.serviced .parallel))
      Fallible.modify fun s => { s with devices := { s.devices with parallel := none } }
      Fallible.modify (·.submitted .parallel value)
      Fallible.modify (·.serviced .parallel true)
    | .error failure => do
      Fallible.modify (·.serviced .parallel false)
      rejectSite .parallel .fault
      Fallible.fail failure

/-- `ServiceDevices::close_outputs`. -/
def closeOutputs (worker : ServiceWorker) (answers : DeviceAnswers) : Cycle Unit := do
  Fallible.modify fun s => { s with outputs := s.outputs.setEncoder false }
  let cm119 ← Fallible.attempt (closeCm119 answers)
  let port ← Fallible.attempt (closeParallel worker answers)
  Fallible.of cm119
  Fallible.of port

/-! ## Opening -/

/-- The devices that were opened. -/
def openings (devices : ServiceDevices) : List ServiceEvent :=
  (if devices.cm119.isSome then [.opened .cm119] else []) ++
    if devices.parallel.isSome then [.opened .parallel] else []

/-- `open_at_outputs`, which has opened these devices, and `prepare_site`. -/
def reopenSite (worker : ServiceWorker) (devices : ServiceDevices) (answers : DeviceAnswers) :
    Cycle Unit := fun s =>
  if devices.justOpened worker.plan then
    (s.outputs.prepareSite s.next worker.plan devices answers).map fun (outcome, next) =>
      (outcome.result, { s with
        outputs := outcome.outputs, devices := outcome.devices, next
        log := openings devices ++ s.log })
  else none

/-! ## Commands -/

/-- The commands of the control side. -/
inductive ServiceCommand where
  | output (command : OutputCommand)
  | siteBind (bank : SiteBank) (binding : SiteDigitalBinding)
  | sitePublish (bank : SiteBank) (request : SiteDigitalRequest)
  | selectChannel (channel : U8)
  | configureRemoteRadio (settings : RemoteRadio)
  /-- The snapshot goes to the caller. -/
  | snapshot
  | restore (state : HardwareTransientState)

/-- One command of `service_commands`. -/
def serviceCommand (worker : ServiceWorker) (command : ServiceCommand) (answers : DeviceAnswers) :
    Cycle Unit :=
  match command with
  | .output command => fun s => (s.outputs.apply command s.devices answers).map fun outcome =>
      (outcome.result, s.withOutcome outcome)
  | .siteBind bank binding => fun s =>
      let (outcome, next) := s.outputs.siteBind s.next bank binding s.devices answers
      some (outcome.result, { s.withOutcome outcome with next })
  | .sitePublish bank request =>
    Fallible.modify fun s => { s with outputs := s.outputs.sitePublish bank request }
  | .selectChannel channel =>
    Cycle.outcome fun outputs devices => outputs.selectChannel channel devices answers
  | .configureRemoteRadio settings => fun s =>
      let (outputs, result) := s.outputs.configureRemoteRadio settings
      some (result, { s with outputs })
  | .snapshot => pure ()
  | .restore state =>
    Fallible.modify fun s => { s with outputs := s.outputs.restore state worker.plan }

/-- The commands that are queued, up to the first failure. -/
def serviceCommands (worker : ServiceWorker) :
    List (ServiceCommand × DeviceAnswers) → Cycle Unit
  | [] => pure ()
  | (command, answers) :: rest => do
    serviceCommand worker command answers
    serviceCommands worker rest

end Driver
end UsbRadioPlus
