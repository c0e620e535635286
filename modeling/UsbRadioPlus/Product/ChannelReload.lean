import Mathlib.Logic.Function.Basic
import UsbRadioPlus.Driver.StationLifetime
import UsbRadioPlus.Sys.Run

/-!
# The reload of a channel (`rust/product/src/lib.rs`)

A channel owns one station, or the media of one that was never started. A reload prepares another
generation, activates it and keeps the previous one until it is committed or rolled back. Each call is
a computation on the channel; what the providers, the threads and the worker of a preparation answer
is its argument.

The stations are a heap: a station moves by its number, and is dropped where it leaves the heap. Left
out: log messages, the attachment of callbacks by a controller, and what a station and its plan are
made of (`ProductParts`).
-/

namespace UsbRadioPlus
namespace Product

open Sys Station Driver Asl3

/-- What the product hands on. -/
structure ProductParts extends StationParts where
  JitterConfig : Type
  [configurationEq : DecidableEq ChannelConfiguration]
  jitterConfig : ChannelConfiguration → JitterConfig
  /-- Which of the three gains differ. -/
  changedGains : ChannelConfiguration → ChannelConfiguration → Bool × Bool × Bool
  eepromEnabled : ChannelConfiguration → Bool
  /-- `hardware_local_repeat_level` and `configured_remote_radio` are equal. -/
  sameHardwareSettings : ControllerTransport → ChannelConfiguration → ControllerTransport →
    ChannelConfiguration → Bool

attribute [instance] ProductParts.configurationEq

variable {P : ProductParts}

/-- `Status`, of the calls that are modelled. -/
inductive Status where
  | activation (cause : Int)
  | reloadPending
  | invalidConfiguration
  | channelBusy
  | setupFailed
  | notReady
  | asteriskFailure
  | internalFailure
  deriving DecidableEq, Repr

/-! ## The channel -/

/-- Another generation that has been prepared. -/
structure PreparedChannelReplacement (P : ProductParts) where
  remote : Option P.RemotePreparation
  media : StationMedia P.toStationParts
  preflight : P.HardwarePreflight
  jitter : P.JitterConfig

/-- The worker that prepares a live update. -/
structure ReloadWorker (P : ProductParts) where
  snapshot : StationUpdatePreparation P.toStationParts
  candidate : StationPlan P.toStationParts

/-- What a reload has prepared. -/
inductive PreparedChannelReload (P : ProductParts) where
  | unchanged
  | preparing (worker : ReloadWorker P) (jitter : P.JitterConfig) (mixers : Bool × Bool × Bool)
      (cancelled : Bool)
  | live (update : StationUpdate P.toStationParts) (jitter : P.JitterConfig)
      (mixers : Bool × Bool × Bool)
  | replacement (prepared : PreparedChannelReplacement P)

/-- What a rollback goes back to. -/
inductive PreviousChannelGeneration (P : ProductParts) where
  | unchanged
  | live
  | restoring
  | prepared (media : StationMedia P.toStationParts) (preflight : P.HardwarePreflight)
      (remote : Option P.RemotePreparation)
  | hardware (hardware : Nat) (transient : Option HardwareTransientState)

/-- An activated reload whose end is open. -/
structure AdoptedChannelReload (P : ProductParts) where
  previous : PreviousChannelGeneration P
  jitter : P.JitterConfig

/-- What the control side of a channel keeps. -/
structure ChannelControl (P : ProductParts) where
  remote : Option P.RemotePreparation
  media : Option (StationMedia P.toStationParts)
  preflight : Option P.HardwarePreflight
  hardware : Option Nat
  jitter : P.JitterConfig
  reload : Option (PreparedChannelReload P)
  running : Bool
  direct : Bool

/-- A device was opened: by which station, and which stations held one then. -/
structure Opening where
  station : Nat
  held : Nat → Bool

/-- A channel with its stations, each under the number of its box. -/
structure Channel (P : ProductParts) where
  control : ChannelControl P
  rollback : Option (AdoptedChannelReload P)
  stations : Nat → Option (HardwareStation P.toStationParts)
  next : Nat
  /-- History, newest first. -/
  openings : List Opening

/-- The configuration of a driver, of the reservation of the channel. -/
structure DriverConfiguration (P : ProductParts) where
  channel : Option P.ChannelConfiguration
  remote : Option P.RemoteConfiguration

/-- `pending_reload` and `configuration`. -/
structure DriverInner (P : ProductParts) where
  pendingReload : Option (DriverConfiguration P)
  configuration : DriverConfiguration P

/-- A call of the control side. -/
abbrev Controlled (P : ProductParts) (α : Type) := Fallible (Channel P) Status α

namespace Channel

/-- The devices that are open. -/
def held (self : Channel P) (id : Nat) : Bool := (self.stations id).any HardwareStation.holds

/-- The station under a number. -/
def setStation (self : Channel P) (id : Nat) (station : Option (HardwareStation P.toStationParts)) :
    Channel P :=
  { self with stations := Function.update self.stations id station }

/-- A station behind a computation: it may have opened devices. -/
def worked (self : Channel P) (id : Nat) (before after : HardwareStation P.toStationParts) :
    Channel P :=
  { self.setStation id (some after) with
    openings := if before.openings = after.openings then self.openings
      else ⟨id, self.held⟩ :: self.openings }

/-- The channel that `channel_reserve` makes. -/
def reserve (remote : Option P.RemotePreparation) (media : StationMedia P.toStationParts)
    (preflight : P.HardwarePreflight) (jitter : P.JitterConfig) : Channel P where
  control := ⟨remote, some media, some preflight, none, jitter, none, false, false⟩
  rollback := none
  stations := fun _ => none
  next := 0
  openings := []

end Channel

/-! ## Parts of the calls -/

section
variable {α : Type}

/-- A change of what the control side keeps. -/
def setControl (f : ChannelControl P → ChannelControl P) : Controlled P Unit :=
  Fallible.modify fun s => { s with control := f s.control }

/-- The prepared reload. -/
def setReload (reload : Option (PreparedChannelReload P)) : Controlled P Unit :=
  setControl fun control => { control with reload }

/-- Whether the channel runs. -/
def setRunning (running : Bool) : Controlled P Unit :=
  setControl fun control => { control with running }

/-- The number of the station. -/
def setHardware (hardware : Option Nat) : Controlled P Unit :=
  setControl fun control => { control with hardware }

/-- The way back of an activated reload. -/
def setRollback (rollback : Option (AdoptedChannelReload P)) : Controlled P Unit :=
  Fallible.modify fun s => { s with rollback }

/-- Work on a station. A station that is not there any more would be used behind its drop. -/
def onStation (id : Nat) (failure : StationError P.toStationParts → Status)
    (m : HardwareStation.Working P.toStationParts α) : Controlled P α := fun s =>
  match s.stations id with
  | none => none
  | some station => (m station).map fun (r, after) => (match r with
    | .ok a => .ok a
    | .error e => .error (failure e), s.worked id station after)

/-- `setup_error`. -/
def setupError (_ : StationError P.toStationParts) : Status := .setupFailed

/-- `update_status`. -/
def updateStatus : StationError P.toStationParts → Status
  | .update .pending => .reloadPending
  | _ => .setupFailed

/-- What a dropped station answers; all its devices are closed then. -/
def dropStation (id : Nat) : Controlled P Unit := Fallible.modify fun s => s.setStation id none

/-- The controller of the channel: of its station, or of its media. -/
def controller (s : Channel P) : Option ControllerState :=
  match s.control.hardware with
  | some id => (s.stations id).map HardwareStation.controller
  | none => s.control.media.map StationMedia.controller

/-- The packets that wait for the controller. Only a station has a receive callback. -/
def waiting (s : Channel P) : Nat :=
  (s.control.hardware.bind s.stations).elim 0 HardwareStation.available

/-- The controller behind a drain that has ended, or failed in a delivery. -/
structure DrainAnswer where
  controller : ControllerState
  available : Nat
  delivered : Bool
  /-- `next_action` has no more packets. -/
  drained : delivered = true → controller.pending = none ∧ available = 0

/-- The packets of the receive callback. -/
def drainReceive (answer : DrainAnswer) : Controlled P Unit := do
  let s ← Fallible.get
  match s.control.hardware with
  | some id =>
    onStation id setupError (Fallible.modify fun station =>
      { station with controller := answer.controller, available := answer.available })
    if answer.delivered then pure () else Fallible.fail .asteriskFailure
  | none => match s.control.media with
    | some media => do
      setControl fun control =>
        { control with media := some { media with controller := answer.controller } }
      if answer.delivered then pure () else Fallible.fail .asteriskFailure
    | none => Fallible.fail .notReady

/-- `RetainedControllerState::capture`: "receive handoff was drained before reload-state capture". -/
def capture : Controlled P ControllerReloadState := do
  let s ← Fallible.get
  match controller s with
  | none => Fallible.fail .notReady
  | some controller => match controller.reloadState (waiting s) with
    | none => Fallible.panicked
    | some retained => pure retained

/-- The answers of a station with a remote radio, whose pump may change its update. -/
structure ReadyAnswers (P : ProductParts) where
  storage : UpdateStorage P.toStationParts
  plan : StationPlan P.toStationParts
  /-- `remote_ready`. -/
  ready : Except Int Bool

/-- `service_remote`. -/
def serviceRemote (answers : ReadyAnswers P) : HardwareStation.Working P.toStationParts Unit :=
  Fallible.modify fun station =>
    if station.remoteDsp then { station with storage := answers.storage, plan := answers.plan }
    else station

/-- `channel_activation_ready` -/
def channelActivationReady (answers : ReadyAnswers P) : Controlled P Unit := do
  let s ← Fallible.get
  if s.control.running then match s.control.hardware with
    | none => Fallible.fail .notReady
    | some id => do
      onStation id setupError (serviceRemote answers)
      let s ← Fallible.get
      -- Without a remote setup the station is ready at once.
      match (s.stations id).any (·.service.remote), answers.ready with
      | false, _ | true, .ok true => pure ()
      | true, .ok false => Fallible.fail .reloadPending
      | true, .error cause => Fallible.fail (.activation cause)
  else pure ()

/-- What the restoration of a station is answered. -/
structure RestoreAnswers where
  reopened : Bool
  service : LaunchAnswers
  audio : AudioAnswers
  cleanup : StopAnswers

/-- `restore_previous`: whether it runs again, and `none` where it stays stopped by a failure. -/
def restorePrevious (id : Nat) (transient : Option HardwareTransientState)
    (answers : RestoreAnswers) : Controlled P (Option Bool) := do
  let restored ← Fallible.attempt (onStation id setupError do
    HardwareStation.reopen answers.reopened
    match transient with
    | none => pure false
    | some state => do
      HardwareStation.stageTransientState state
      HardwareStation.start answers.service answers.audio answers.cleanup
      pure true)
  match restored with
  | .ok running => pure (some running)
  | .error _ => pure none

/-- `restore_previous(..).unwrap_or(false)`. -/
def restoreRunning (id : Nat) (transient : Option HardwareTransientState)
    (answers : RestoreAnswers) : Controlled P Unit := do
  let restored ← restorePrevious id transient answers
  setRunning (restored.getD false)

/-- `open_preflighted` and `bind_remote`. A station whose remote setup is refused is dropped. -/
def openStation (media : StationMedia P.toStationParts) (preflight : P.HardwarePreflight)
    (remote : Option P.RemotePreparation) (opened : Bool) : Controlled P Nat := do
  if opened then
    let s ← Fallible.get
    let id := s.next
    Fallible.modify fun s => { s.setStation id (some (.openPreflighted id media preflight)) with
      next := id + 1
      openings := ⟨id, s.held⟩ :: s.openings }
    match remote with
    | none => pure id
    | some remote => do
      match ← Fallible.attempt (onStation id setupError (HardwareStation.bindRemote remote)) with
      | .ok () => pure id
      | .error e => do
        dropStation id
        Fallible.fail e
  else Fallible.fail .setupFailed

/-- `retain_restoration`. -/
def retainRestoration : Controlled P Unit := do
  setReload none
  let s ← Fallible.get
  setRollback (some ⟨.restoring, s.control.jitter⟩)

end

/-! ## Start and stop -/

/-- The answers to the calls of a start. -/
structure StartAnswers (P : ProductParts) where
  opened : Bool
  service : LaunchAnswers
  audio : AudioAnswers
  cleanup : StopAnswers
  ready : ReadyAnswers P

/-- The start of the station of the channel. -/
def startHardware (id : Nat) (answers : StartAnswers P) : Controlled P Unit := do
  let result ← Fallible.attempt
    (onStation id setupError (HardwareStation.start answers.service answers.audio answers.cleanup))
  Fallible.whenever result.isOk (setRunning true)
  Fallible.of result
  channelActivationReady answers.ready

/-- `channel_start`: the station that is there starts, or one is opened from the prepared media. -/
def channelStart (answers : StartAnswers P) : Controlled P Unit := do
  let s ← Fallible.get
  match s.control.hardware with
  | some id => startHardware id answers
  | none => match s.control.media with
    | none => Fallible.fail .notReady
    | some media => do
      setControl fun control => { control with media := none }
      match s.control.preflight with
      | none => Fallible.fail .notReady
      | some preflight => do
        setControl fun control => { control with preflight := none }
        -- `open_preflighted` in front of the remote preparation, which is taken where it succeeds.
        Fallible.whenever answers.opened (setControl fun control => { control with remote := none })
        let id ← openStation media preflight s.control.remote answers.opened
        setHardware (some id)
        startHardware id answers

/-- What the devices and the worker answer to a stop. -/
structure StopStationAnswers where
  stopped : Bool
  finished : Bool
  service : StopAnswers

/-- `channel_stop` -/
def channelStop (answers : StopStationAnswers) : Controlled P Unit := do
  let s ← Fallible.get
  match s.control.hardware with
  | none => setRunning false
  | some id => do
    onStation id setupError (HardwareStation.stop answers.stopped answers.service)
    setRunning false

/-- `HardwareStation::poll_stop` of the station of the channel. -/
def pollStop (answers : StopStationAnswers) : Controlled P Bool := do
  let s ← Fallible.get
  match s.control.hardware with
  | none => pure true
  | some id => do
    onStation id setupError
      (HardwareStation.pollStop answers.stopped answers.finished answers.service)

/-- `channel_quiesce`: a stop that is still under way is asked for again. -/
def channelQuiesce (answers : StopStationAnswers) : Controlled P Unit := do
  let done ← pollStop answers
  setRunning false
  if done then pure () else Fallible.fail .reloadPending

/-- `service_remote` of the station of the channel. -/
def serviceStation (answers : ReadyAnswers P) : Controlled P Unit := do
  let s ← Fallible.get
  match s.control.hardware with
  | some id => onStation id setupError (serviceRemote answers)
  | none => pure ()

/-- `channel_service`; `delivered` is what the input events and the program ring answer. -/
def channelService (answers : ReadyAnswers P) (delivered : Except Status Unit)
    (drain : DrainAnswer) : Controlled P Unit := do
  serviceStation answers
  Fallible.of delivered
  drainReceive drain

/-! ## Prepare -/

/-- What a preparation is answered; the factory's plans and media are answers, too. -/
structure PrepareAnswers (P : ProductParts) where
  /-- The worker has finished: with a panic, or these preparations. -/
  finished : Bool
  joined : Option (Prepared P.toStationParts)
  livePlan : Option (StationPlan P.toStationParts)
  processing : Except P.ProcessingRuntimeError P.ProcessingGeneration
  spawned : Bool
  plan : Option (StationPlan P.toStationParts)
  remote : Option (Option P.RemotePreparation)
  preflight : Option P.HardwarePreflight
  media : Option (StationMedia P.toStationParts)
  /-- The direct callbacks of a controller are accepted. -/
  attached : Bool

/-- A result that the caller logs. -/
def setupResult {α : Type} (result : Option α) : Controlled P α :=
  match result with
  | some a => pure a
  | none => Fallible.fail .setupFailed

/-- `with_remote_configuration`. -/
def withRemoteConfiguration (plan : StationPlan P.toStationParts)
    (remote : Option P.RemoteConfiguration) : StationPlan P.toStationParts :=
  { plan with remote }

/-- `supports_live_update`. -/
def supportsLiveUpdate (current plan : StationPlan P.toStationParts) : Bool :=
  current.transport = plan.transport ∧ current.remote = plan.remote ∧
    current.hardware = plan.hardware ∧
    P.eepromEnabled current.configuration = P.eepromEnabled plan.configuration ∧
    P.sameHardwareSettings current.transport current.configuration plan.transport
      plan.configuration = true

/-- The part for a running station: whether a worker prepares a live update now. -/
def prepareLive (previous configuration : P.ChannelConfiguration)
    (remote : Option P.RemoteConfiguration) (answers : PrepareAnswers P) : Controlled P Bool := do
  let s ← Fallible.get
  match s.control.hardware with
  | none => Fallible.panicked
  | some id => do
    let candidate ← setupResult answers.livePlan
    let candidate := withRemoteConfiguration candidate remote
    match s.stations id with
    | none => Fallible.panicked
    | some station =>
      if supportsLiveUpdate station.plan candidate then
        let snapshot ← onStation id setupError (HardwareStation.updateSnapshot answers.processing)
        if answers.spawned then
          setReload (some (.preparing ⟨snapshot, candidate⟩ (P.jitterConfig configuration)
            (P.changedGains previous configuration) false))
          pure true
        else Fallible.fail .setupFailed
      else pure false

/-- The direct callbacks of a controller move to the new media. -/
def attachDirect (media : StationMedia P.toStationParts) (attached : Bool) :
    Controlled P (StationMedia P.toStationParts) := do
  let s ← Fallible.get
  if s.control.direct then
    if attached then pure { media with direct := true } else Fallible.fail .setupFailed
  else pure media

/-- The plan, the remote and the devices of a new generation, in this order. -/
def prepareReplacement (configuration : P.ChannelConfiguration)
    (remote : Option P.RemoteConfiguration) (answers : PrepareAnswers P) : Controlled P Unit := do
  let _ ← setupResult answers.plan
  let preparation ← setupResult answers.remote
  let preflight ← setupResult answers.preflight
  let media ← setupResult answers.media
  let media ← attachDirect { media with plan := withRemoteConfiguration media.plan remote }
    answers.attached
  setReload (some (.replacement ⟨preparation, media, preflight, P.jitterConfig configuration⟩))

/-- The part of `channel_reload_prepare` behind the check for an earlier preparation. -/
def prepareGeneration (driver : DriverInner P) (answers : PrepareAnswers P) :
    Controlled P Unit := do
  let s ← Fallible.get
  if s.rollback.isSome then Fallible.fail .channelBusy
  else match driver.pendingReload with
    | none => Fallible.fail .notReady
    | some pending => match pending.channel with
      | none => Fallible.fail .invalidConfiguration
      | some configuration =>
        if driver.configuration.channel = some configuration ∧
            driver.configuration.remote = pending.remote then
          setReload (some .unchanged)
        else match driver.configuration.channel with
          | none => Fallible.fail .notReady
          | some previous => do
            if s.control.running then
              if ← prepareLive previous configuration pending.remote answers then
                Fallible.fail .reloadPending
              else prepareReplacement configuration pending.remote answers
            else prepareReplacement configuration pending.remote answers

/-- `channel_reload_prepare` -/
def channelReloadPrepare (driver : DriverInner P) (answers : PrepareAnswers P) :
    Controlled P Unit := do
  let s ← Fallible.get
  match s.control.reload with
  | some (.preparing worker jitter mixers cancelled) =>
    if answers.finished then
      setReload none
      if cancelled then prepareGeneration driver answers
      else match answers.joined with
        | none => Fallible.fail .internalFailure
        | some prepared => match worker.snapshot.prepare worker.candidate prepared with
          | .error _ => Fallible.fail .setupFailed
          | .ok update => setReload (some (.live update jitter mixers))
    else Fallible.fail .reloadPending
  | some _ => Fallible.fail .channelBusy
  | none => prepareGeneration driver answers

/-! ## Activate -/

/-- What an activation is answered. -/
structure ActivateAnswers (P : ProductParts) where
  update : UpdateAnswers P.toStationParts
  drain : DrainAnswer
  transient : Except (StationError P.toStationParts) HardwareTransientState
  stopped : Bool
  stoppedAgain : Bool
  service : StopAnswers
  /-- What the receive callback hands over between the first drain and the end of its stream. -/
  received : Nat
  drainAgain : DrainAnswer
  opened : Bool
  start : StartAnswers P
  restore : RestoreAnswers
  ready : ReadyAnswers P

/-- The activation of a live update. -/
def activateLive (update : StationUpdate P.toStationParts) (jitter : P.JitterConfig)
    (answers : ActivateAnswers P) : Controlled P Unit := do
  let s ← Fallible.get
  setControl fun control => { control with jitter, reload := none }
  setRollback (some ⟨.live, s.control.jitter⟩)
  match s.control.hardware with
  | none => Fallible.fail .notReady
  | some id => do
    onStation id setupError (HardwareStation.beginUpdate update answers.update)
    onStation id updateStatus (HardwareStation.acceptUpdate answers.update)

/-- The exchange of media that were never started. -/
def activatePrepared (prepared : PreparedChannelReplacement P) : Controlled P Unit := do
  let retained ← capture
  let s ← Fallible.get
  match s.control.media with
  | none => Fallible.fail .notReady
  | some media => do
    setControl fun control => { control with media := none }
    match s.control.preflight with
    | none => Fallible.fail .notReady
    | some preflight => do
      setControl fun control => { control with
        media := some { prepared.media with
          controller := prepared.media.controller.restoreReloadState retained }
        preflight := some prepared.preflight
        remote := prepared.remote
        jitter := prepared.jitter }
      setRollback (some ⟨.prepared media preflight s.control.remote, s.control.jitter⟩)

/-- The previous station takes its devices again, and the activation fails. -/
def restoreAndFail (id : Nat) (transient : Option HardwareTransientState) (status : Status)
    (answers : ActivateAnswers P) : Controlled P Unit := do
  restoreRunning id transient answers.restore
  setHardware (some id)
  retainRestoration
  Fallible.fail status

/-- The start of the replacement. -/
def startReplacement (id : Nat) (transient : Option HardwareTransientState)
    (retained : ControllerReloadState) (answers : ActivateAnswers P) : Controlled P Unit := do
  onStation id setupError (Fallible.modify fun station => { station with
    controller := station.controller.restoreReloadState retained
    service := { station.service with
      pendingTransient := transient.orElse fun _ => station.service.pendingTransient } })
  let s ← Fallible.get
  if s.control.running then
    onStation id setupError
      (HardwareStation.start answers.start.service answers.start.audio answers.start.cleanup)
  else pure ()

/-- The exchange of a suspended station. -/
def exchangeHardware (id : Nat) (prepared : PreparedChannelReplacement P)
    (transient : Option HardwareTransientState) (answers : ActivateAnswers P) :
    Controlled P Unit := do
  let retained ← capture
  setHardware none
  match ← Fallible.attempt
      (openStation prepared.media prepared.preflight prepared.remote answers.opened) with
  | .error _ => restoreAndFail id transient .setupFailed answers
  | .ok replacement =>
    match ← Fallible.attempt (startReplacement replacement transient retained answers) with
    | .error _ => do
      dropStation replacement
      restoreAndFail id transient .setupFailed answers
    | .ok () => do
      let s ← Fallible.get
      setControl fun control =>
        { control with hardware := some replacement, jitter := prepared.jitter }
      setRollback (some ⟨.hardware id transient, s.control.jitter⟩)
      channelActivationReady answers.ready

/-- What a running station retains of its outputs. -/
def captureTransient (id : Nat) (answers : ActivateAnswers P) :
    Controlled P (Option HardwareTransientState) := do
  let s ← Fallible.get
  if s.control.running then
    let state ← onStation id setupError (HardwareStation.transientState answers.transient)
    pure (some state)
  else pure none

/-- The receive callback runs until its stream is stopped. -/
def suspendStation (answers : ActivateAnswers P) :
    HardwareStation.Working P.toStationParts Unit := do
  Fallible.modify fun station =>
    if station.stream = some true then { station with available := answers.received } else station
  HardwareStation.suspend answers.stopped answers.stoppedAgain answers.service

/-- The replacement of a station. -/
def activateHardware (id : Nat) (prepared : PreparedChannelReplacement P)
    (answers : ActivateAnswers P) : Controlled P Unit := do
  let transient ← captureTransient id answers
  match ← Fallible.attempt (onStation id setupError (suspendStation answers)) with
  | .error _ => restoreAndFail id transient .setupFailed answers
  | .ok () => match ← Fallible.attempt (drainReceive answers.drainAgain) with
    | .error status => restoreAndFail id transient status answers
    | .ok () => exchangeHardware id prepared transient answers

/-- `channel_reload_activate` -/
def channelReloadActivate (answers : ActivateAnswers P) : Controlled P Unit := do
  let s ← Fallible.get
  match s.rollback, s.control.reload with
  | some ⟨.hardware _ _, _⟩, _ => channelActivationReady answers.ready
  | some ⟨.live, _⟩, _ => match s.control.hardware with
    | none => Fallible.fail .notReady
    | some id => onStation id updateStatus (HardwareStation.acceptUpdate answers.update)
  | _, none => Fallible.fail .notReady
  | _, some .unchanged => do
    setReload none
    setRollback (some ⟨.unchanged, s.control.jitter⟩)
  | _, some (.preparing ..) => Fallible.fail .reloadPending
  | _, some (.live update jitter _) => activateLive update jitter answers
  | _, some (.replacement prepared) => do
    drainReceive answers.drain
    setReload none
    match s.control.hardware with
    | none => activatePrepared prepared
    | some id => activateHardware id prepared answers

/-! ## Finish -/

/-- What the end of a reload is answered. -/
structure FinishAnswers (P : ProductParts) where
  update : UpdateAnswers P.toStationParts
  /-- The worker of a preparation has finished. -/
  finished : Bool
  stop : StopStationAnswers
  restore : RestoreAnswers
  ready : ReadyAnswers P

/-- `finish_restoring`. -/
def finishRestoring (answers : FinishAnswers P) : Controlled P Unit := do
  match ← Fallible.attempt (channelActivationReady answers.ready) with
  | .error .reloadPending => Fallible.fail .reloadPending
  | .ok () => setRollback none
  | .error status => do
    let s ← Fallible.get
    match s.control.hardware with
    | none => Fallible.fail .notReady
    | some _ => do
      if ← pollStop answers.stop then
        setRunning false
        setRollback none
        Fallible.fail status
      else Fallible.fail .reloadPending

/-- The end of a live update. -/
def finishLive (commit : Bool) (adopted : AdoptedChannelReload P) (answers : FinishAnswers P) :
    Controlled P Unit := do
  let s ← Fallible.get
  match s.control.hardware with
  | none => Fallible.fail .notReady
  | some id => do
    onStation id updateStatus (HardwareStation.finishUpdate commit answers.update)
    setRollback none
    if commit then pure ()
    else setControl fun control => { control with jitter := adopted.jitter }

/-- `drop(control.hardware.take())`. -/
def dropHardware : Controlled P Unit := do
  let s ← Fallible.get
  match s.control.hardware with
  | none => pure ()
  | some id => do
    dropStation id
    setHardware none

/-- The previous station comes back. -/
def rollbackHardware (id : Nat) (transient : Option HardwareTransientState)
    (adopted : AdoptedChannelReload P) (answers : FinishAnswers P) : Controlled P Unit := do
  match ← Fallible.attempt (pollStop answers.stop) with
  | .ok true => do
    setRunning false
    dropHardware
    setRollback none
    match ← restorePrevious id transient answers.restore with
    | none => do
      setHardware (some id)
      Fallible.fail .setupFailed
    | some running => do
      setRunning running
      setHardware (some id)
      setRollback (some ⟨.restoring, adopted.jitter⟩)
      finishRestoring answers
  -- Both generations stay where they are.
  | .ok false => Fallible.fail .reloadPending
  | .error _ => Fallible.fail .setupFailed

/-- The end without a commit, of what was adopted. -/
def rollbackAdopted (adopted : AdoptedChannelReload P) (answers : FinishAnswers P) :
    Controlled P Unit := do
  setControl fun control => { control with jitter := adopted.jitter }
  match adopted.previous with
  | .unchanged | .live => setRollback none
  | .restoring => finishRestoring answers
  | .prepared media preflight remote => do
    setRollback none
    setControl fun control =>
      { control with media := some media, preflight := some preflight, remote }
  | .hardware id transient => rollbackHardware id transient adopted answers

/-- A commit drops what was kept for a rollback. -/
def retireAdopted (adopted : AdoptedChannelReload P) : Controlled P Unit := do
  setRollback none
  match adopted.previous with
  | .hardware id _ => dropStation id
  | _ => pure ()

/-- `channel_reload_finish` behind the part for live updates. -/
def finishReplacement (commit : Bool) (answers : FinishAnswers P) : Controlled P Unit := do
  let s ← Fallible.get
  if commit then match s.rollback with
    | none => pure ()
    | some adopted => retireAdopted adopted
  else if s.control.reload.isSome then setReload none
  else match s.rollback with
    | none => pure ()
    | some adopted => rollbackAdopted adopted answers

/-- `channel_reload_finish`: a commit or a rollback of what was activated. -/
def channelReloadFinish (commit : Bool) (answers : FinishAnswers P) : Controlled P Unit := do
  let s ← Fallible.get
  match s.rollback, s.control.reload with
  | some ⟨.live, jitter⟩, _ => finishLive commit ⟨.live, jitter⟩ answers
  | _, some (.preparing worker jitter mixers cancelled) => do
    setReload (some (.preparing worker jitter mixers (cancelled || !commit)))
    if answers.finished then finishReplacement commit answers
    else Fallible.fail .reloadPending
  | _, _ => finishReplacement commit answers

/-! ## The system -/

/-- The calls of the host. The taskprocessor of the channel serializes them. -/
inductive Call (P : ProductParts) where
  | start (answers : StartAnswers P)
  | stop (answers : StopStationAnswers)
  | quiesce (answers : StopStationAnswers)
  | service (answers : ReadyAnswers P) (delivered : Except Status Unit) (drain : DrainAnswer)
  | reloadPrepare (driver : DriverInner P) (answers : PrepareAnswers P)
  | reloadActivate (answers : ActivateAnswers P)
  | reloadFinish (commit : Bool) (answers : FinishAnswers P)

/-- The effect of a call. -/
def Call.run : Call P → Controlled P Unit
  | start answers => channelStart answers
  | stop answers => channelStop answers
  | quiesce answers => channelQuiesce answers
  | service answers delivered drain => channelService answers delivered drain
  | reloadPrepare driver answers => channelReloadPrepare driver answers
  | reloadActivate answers => channelReloadActivate answers
  | reloadFinish commit answers => channelReloadFinish commit answers

/-- A call of the control side, or a receive callback. -/
inductive Act (P : ProductParts) where
  | call (call : Call P)
  /-- The receive callback has handed packets over, while its stream runs. -/
  | receive (available : Nat)

namespace Channel

/-- The packets that the station of the channel has received. -/
def receive (self : Channel P) (available : Nat) : Option (Channel P) := do
  let id ← self.control.hardware
  let station ← self.stations id
  if station.stream = some true then some (self.setStation id (some { station with available }))
  else none

/-- A step of the channel. -/
def step (self : Channel P) : Act P → Option (Channel P)
  | .call call => (call.run self).map Prod.snd
  | .receive available => self.receive available

end Channel

/-- The runs of a channel. -/
def channelRuns (P : ProductParts) : System (Channel P) (Act P) where
  init s := ∃ remote media preflight jitter, s = .reserve remote media preflight jitter
  step := Channel.step

end Product
end UsbRadioPlus
