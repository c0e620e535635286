import UsbRadioPlus.Asl3.Adapter
import UsbRadioPlus.Driver.OutputState
import UsbRadioPlus.Station.Update
import UsbRadioPlus.Sys.Ends

/-!
# The lifetime of a station's devices (`rust/driver/src/hardware_host.rs`)

A station holds two devices: the audio device while its runtime has a stream (`rust/station/src/
runtime.rs`), and the GPIO handles while its service has a worker, or handles whose retirement has
failed. Each operation is a computation on the station; the answers of the audio and GPIO providers
and of the worker's thread are its arguments.

Of the live update this is the part that decides: `Station.Update` is the model of its single accesses,
of which the results of the two callbacks are arguments here. Left out: the mixers' levels, the input
events, and what the threads do in between.
-/

namespace UsbRadioPlus
namespace Driver

open Sys Station Asl3

variable {P : StationParts}

/-- `HardwareStationError`. -/
inductive StationError (P : StationParts) where
  | audio
  | hardware
  | workerPanicked
  | controlQueueFull
  | notRunning
  | mixer
  | update (error : StationUpdateError P)

/-! ## The service -/

/-- How the thread of a worker has ended. -/
inductive ServiceExit where
  | retired
  /-- The devices come back for another attempt. -/
  | failed
  | panicked
  deriving DecidableEq, Repr

/-- `HardwareService`, as the owner of its devices. -/
structure ServiceOwner where
  /-- The worker, with the devices. -/
  worker : Bool
  /-- Devices that were not retired. -/
  retiring : Bool
  pendingTransient : Option HardwareTransientState
  /-- A remote setup is bound. -/
  remote : Bool
  /-- History: how often devices were opened. -/
  opened : Nat

/-- What the devices and the thread answer to a stop. -/
structure StopAnswers where
  exit : ServiceExit
  /-- Outputs could be closed. -/
  closed : Bool

/-- What they answer to a start. -/
structure LaunchAnswers where
  /-- To the stop of devices that were not retired. -/
  retire : StopAnswers
  /-- `open_at_outputs`. -/
  opened : Bool
  /-- `prepare_site` and, for Asterisk, the first cycle. -/
  setup : Bool
  /-- To the stop behind a setup that has failed. -/
  cleanup : StopAnswers

namespace ServiceOwner

/-- `HardwareService::new`. -/
def new : ServiceOwner := ⟨false, false, none, false, 0⟩

/-- The worker has devices, or it has yet to give them back. -/
def holds (self : ServiceOwner) : Bool := self.worker || self.retiring

/-- A part of a call of the service. -/
abbrev Serving (P : StationParts) (α : Type) := Fallible ServiceOwner (StationError P) α

/-- The attempt to retire devices. -/
def retire (closed : Bool) : Serving P Unit := do
  let s ← Fallible.get
  if s.retiring then
    if closed then Fallible.modify fun s => { s with retiring := false }
    else Fallible.fail .hardware
  else pure ()

/-- The end of the worker's thread. -/
def join (exit : ServiceExit) : Serving P Unit := do
  Fallible.modify fun s => { s with worker := false }
  match exit with
  | .panicked => Fallible.fail .workerPanicked
  | .failed => do
    Fallible.modify fun s => { s with retiring := true }
    Fallible.fail .hardware
  | .retired => Fallible.modify fun s => { s with retiring := false }

/-- `stop`: the worker is joined and its devices are closed. -/
def stop (answers : StopAnswers) : Serving P Unit := do
  let s ← Fallible.get
  Fallible.whenever s.worker (join answers.exit)
  retire answers.closed

/-- A worker that has not finished is left for the next poll. -/
def pollStop (finished : Bool) (answers : StopAnswers) : Serving P Bool := do
  let s ← Fallible.get
  if s.worker && !finished then pure false
  else do
    stop answers
    pure true

/-- The part of `start` behind the check for a worker. -/
def openWorker (answers : LaunchAnswers) : Serving P Unit := do
  if answers.opened then
    Fallible.modify fun s => { s with opened := s.opened + 1 }
    if answers.setup then
      Fallible.modify fun s => { s with worker := true, pendingTransient := none }
    else do
      Fallible.modify fun s => { s with retiring := true }
      stop answers.cleanup
      Fallible.fail .hardware
  else Fallible.fail .hardware

/-- `start`: what is left of the last worker is retired first. -/
def start (answers : LaunchAnswers) : Serving P Unit := do
  let s ← Fallible.get
  Fallible.whenever s.retiring (stop answers.retire)
  let s ← Fallible.get
  if s.worker then pure () else openWorker answers

/-- `bind_remote`: only in front of the worker. -/
def bindRemote : Serving P Unit := do
  let s ← Fallible.get
  if s.worker then Fallible.fail .controlQueueFull
  else Fallible.modify fun s => { s with remote := true }

end ServiceOwner

/-! ## The station -/

/-- What the media of a generation bring along. -/
structure StationMedia (P : StationParts) where
  plan : StationPlan P
  controller : ControllerState
  /-- Direct callbacks of a controller are attached. -/
  direct : Bool

/-- What a station was opened with, and the remote preparation that was bound to it. -/
structure StationFittings (P : StationParts) where
  media : StationMedia P
  preflight : P.HardwarePreflight
  remote : Option P.RemotePreparation

/-- `HardwareStation`: the runtime, the controller host, the service and the mixers. -/
structure HardwareStation (P : StationParts) where
  /-- The address of the mailbox of live updates. -/
  address : Nat
  plan : StationPlan P
  controller : ControllerState
  /-- The packets that wait for the controller. -/
  available : Nat
  direct : Bool
  /-- The stream of the runtime, where it has one: whether its callbacks run. -/
  stream : Option Bool
  running : Bool
  service : ServiceOwner
  /-- The station pumps the updates of a remote radio. -/
  remoteDsp : Bool
  storage : UpdateStorage P
  /-- `update_mixers`. -/
  updateMixers : Bool
  /-- History: how often a stream was opened. -/
  streams : Nat
  /-- History. -/
  fittings : StationFittings P

/-- What the audio device answers to a start. -/
structure AudioAnswers where
  opened : Bool
  started : Bool

/-- The results of the callbacks at the accesses of one call, and the answers of the mixers. -/
structure UpdateAnswers (P : StationParts) where
  forward : Except RadioError Unit
  reverse : Except RadioError Unit
  result : Except (StationUpdateError P) Unit
  reversed : Except (StationUpdateError P) Unit
  /-- The mixers are there. -/
  mixersOpen : Bool
  /-- Their levels could be set. -/
  mixersSet : Bool

namespace HardwareStation

/-- The audio device or the GPIO handles are open. -/
def holds (self : HardwareStation P) : Bool := self.stream.isSome || self.service.holds

/-- The devices that were opened so far. -/
def openings (self : HardwareStation P) : Nat := self.streams + self.service.opened

/-- A part of a call of the station. -/
abbrev Working (P : StationParts) (α : Type) := Fallible (HardwareStation P) (StationError P) α

/-- Work on the service of a station. -/
def onService {α : Type} (m : ServiceOwner.Serving P α) : Working P α :=
  Fallible.within (fun s : HardwareStation P => s.service) (fun s service => { s with service }) id m

/-- `open_preflighted`, which opens the stream: the station behind a success. -/
def openPreflighted (address : Nat) (media : StationMedia P) (preflight : P.HardwarePreflight) :
    HardwareStation P where
  address := address
  plan := media.plan
  controller := media.controller
  available := 0
  direct := media.direct
  stream := some false
  running := false
  service := .new
  remoteDsp := false
  storage := ⟨none, none, 0⟩
  updateMixers := false
  streams := 1
  fittings := ⟨media, preflight, none⟩

/-- `bind_remote` -/
def bindRemote (remote : P.RemotePreparation) : Working P Unit := do
  onService ServiceOwner.bindRemote
  Fallible.modify fun s => { s with
    remoteDsp := true, fittings := { s.fittings with remote := some remote } }

/-- `StationRuntime::reopen`. -/
def reopen (opened : Bool) : Working P Unit := do
  let s ← Fallible.get
  if s.stream.isSome then pure ()
  else if opened then
    Fallible.modify fun s => { s with stream := some false, streams := s.streams + 1 }
  else Fallible.fail .audio

/-- `StationRuntime::start`. -/
def startAudio (answers : AudioAnswers) : Working P Unit := do
  reopen answers.opened
  if answers.started then Fallible.modify fun s => { s with stream := some true, running := true }
  else Fallible.fail .audio

/-- `StationRuntime::stop`. -/
def stopAudio (stopped : Bool) : Working P Unit := do
  let s ← Fallible.get
  if s.stream.isSome && !stopped then Fallible.fail .audio
  else Fallible.modify fun s => { s with stream := s.stream.map fun _ => false, running := false }

/-- `HardwareStation::start`; the cleanup is that of a start of the audio that has failed. -/
def start (answers : LaunchAnswers) (audio : AudioAnswers) (cleanup : StopAnswers) :
    Working P Unit := do
  let s ← Fallible.get
  if s.service.worker then pure ()
  else do
    onService (ServiceOwner.start answers)
    match ← Fallible.attempt (startAudio audio) with
    | .ok () => pure ()
    | .error e => do
      let _ ← Fallible.attempt (onService (ServiceOwner.stop cleanup))
      Fallible.fail e

/-- `HardwareStation::stop`; `stopped` is the answer of the stream. -/
def stop (stopped : Bool) (answers : StopAnswers) : Working P Unit := do
  let audio ← Fallible.attempt (stopAudio stopped)
  let hardware ← Fallible.attempt (onService (ServiceOwner.stop answers))
  Fallible.of audio
  Fallible.of hardware

/-- `poll_stop` -/
def pollStop (stopped finished : Bool) (answers : StopAnswers) : Working P Bool := do
  stopAudio stopped
  onService (ServiceOwner.pollStop finished answers)

/-- `suspend`, which stops the stream twice. -/
def suspend (stopped again : Bool) (answers : StopAnswers) : Working P Unit := do
  stop stopped answers
  stopAudio again
  Fallible.modify fun s => { s with stream := none }

/-- `stage_transient_state`. -/
def stageTransientState (state : HardwareTransientState) : Working P Unit :=
  Fallible.modify fun s => { s with service := { s.service with pendingTransient := some state } }

/-- `transient_state`: the answer of the worker. -/
def transientState (answer : Except (StationError P) HardwareTransientState) :
    Working P HardwareTransientState := do
  let s ← Fallible.get
  if s.service.worker then Fallible.of answer else Fallible.fail .notRunning

/-! ## Live updates -/

/-- `snapshot_update`. -/
def updateSnapshot (processing : Except P.ProcessingRuntimeError P.ProcessingGeneration) :
    Working P (StationUpdatePreparation P) := do
  let s ← Fallible.get
  if s.storage.transaction.isSome then Fallible.fail (.update .busy)
  else match processing with
    | .error e => Fallible.fail (.update (.preparation (.processing e)))
    | .ok processing => pure ⟨s.plan, processing, s.address, s.storage.revision, s.storage.revision⟩

/-- `StationRuntime::begin_update`. -/
def beginTransaction (update : StationUpdate P) (answers : UpdateAnswers P) : Working P Unit := do
  let s ← Fallible.get
  if update.source ≠ s.address then Fallible.fail (.update .incompatible)
  else match answers.forward, answers.reverse with
    | .error e, _ => Fallible.fail (.update (.radio e))
    | _, .error e => Fallible.fail (.update (.radio e))
    | .ok (), .ok () =>
      if s.storage.transaction.isSome ∨ s.storage.revision ≠ update.revision then
        Fallible.fail (.update .busy)
      else Fallible.modify fun s =>
        { s with storage := { s.storage with transaction := some ⟨update, false⟩ } }

/-- The part of the mixers. Levels that were retained stay so behind a failure. -/
def beginMixerUpdate (mixersOpen mixersSet : Bool) : Working P Unit := do
  let s ← Fallible.get
  if s.updateMixers then Fallible.fail (.update .busy)
  else if mixersOpen then
    Fallible.modify fun s => { s with updateMixers := true }
    if mixersSet then pure () else Fallible.fail .mixer
  else Fallible.fail .mixer

/-- `begin_update` -/
def beginUpdate (update : StationUpdate P) (answers : UpdateAnswers P) : Working P Unit := do
  beginTransaction update answers
  beginMixerUpdate answers.mixersOpen answers.mixersSet

/-- The engine's answer to an update. -/
def acceptUpdate (answers : UpdateAnswers P) : Working P Unit := do
  Fallible.of (match answers.result with
    | .ok () => .ok ()
    | .error e => .error (.update e))
  let s ← Fallible.get
  match s.storage.transaction with
  | none => Fallible.fail (.update .busy)
  | some transaction =>
    if transaction.reversing then Fallible.fail (.update .busy)
    else Fallible.modify fun s => { s with plan := transaction.candidate.plan }

/-- The end of a transaction: the plan and the owner that stay. -/
def retireTransaction (plan : StationPlan P) (owner : UpdateOwner P) : Working P Unit :=
  Fallible.modify fun s =>
    { s with plan, storage := ⟨some owner, none, (s.storage.revision + 1) % WORD⟩ }

/-- The last part of a rollback, behind the publication of the reverse generation. -/
def concludeReverse (transaction : Transaction P) (result : Except (StationUpdateError P) Unit) :
    Working P Unit :=
  match result with
  | .error e => Fallible.fail (.update e)
  | .ok () => retireTransaction transaction.candidate.previous transaction.candidate.reverse

/-- `StationRuntime::finish_update`. -/
def finishTransaction (commit : Bool) (answers : UpdateAnswers P) : Working P Unit := do
  let s ← Fallible.get
  match s.storage.transaction with
  | none => pure ()
  | some transaction =>
    if commit then match answers.result with
      | .error e => Fallible.fail (.update e)
      | .ok () =>
        if transaction.reversing then Fallible.fail (.update .busy)
        else retireTransaction transaction.candidate.plan transaction.candidate.forward
    else match answers.result with
      | .error .pending => Fallible.fail (.update .pending)
      | result =>
        if transaction.reversing then concludeReverse transaction result
        else do
          Fallible.modify fun s => { s with
            storage := { s.storage with transaction := some { transaction with reversing := true } } }
          concludeReverse transaction answers.reversed

/-- `finish_mixer_update` -/
def finishMixerUpdate (commit mixersSet : Bool) : Working P Unit := do
  let s ← Fallible.get
  if s.updateMixers then
    if commit || mixersSet then Fallible.modify fun s => { s with updateMixers := false }
    else Fallible.fail .mixer
  else pure ()

/-- `finish_update` -/
def finishUpdate (commit : Bool) (answers : UpdateAnswers P) : Working P Unit := do
  finishTransaction commit answers
  finishMixerUpdate commit answers.mixersSet

/-! ## What the operations keep -/

/-- Whatever happens to its devices, a station stays the generation that it is. -/
structure Alike (s s' : HardwareStation P) : Prop where
  address : s'.address = s.address
  fittings : s'.fittings = s.fittings
  plan : s'.plan = s.plan
  storage : s'.storage = s.storage
  controller : s'.controller = s.controller
  available : s'.available = s.available
  remoteDsp : s'.remoteDsp = s.remoteDsp
  remote : s'.service.remote = s.service.remote

theorem Alike.refl (s : HardwareStation P) : Alike s s := ⟨rfl, rfl, rfl, rfl, rfl, rfl, rfl, rfl⟩

theorem Alike.trans {s s' s'' : HardwareStation P} (h : Alike s s') (h' : Alike s' s'') :
    Alike s s'' :=
  ⟨h'.address.trans h.address, h'.fittings.trans h.fittings, h'.plan.trans h.plan,
    h'.storage.trans h.storage, h'.controller.trans h.controller, h'.available.trans h.available,
    h'.remoteDsp.trans h.remoteDsp, h'.remote.trans h.remote⟩

end HardwareStation

open Fallible

namespace ServiceOwner

variable {s : ServiceOwner}

/-- A stop that succeeds leaves no devices. -/
theorem ends_stop (answers : StopAnswers) :
    Ends (stop answers : Serving P Unit) s fun r s' =>
      s'.remote = s.remote ∧ (r = .ok () → s'.holds = false) := by
  obtain ⟨exit, closed⟩ := answers
  obtain ⟨worker, retiring, transient, remote, opened⟩ := s
  cases worker <;> cases exit <;> cases retiring <;> cases closed <;>
    exact ⟨_, _, rfl, rfl, by simp [holds]⟩

theorem ends_pollStop (finished : Bool) (answers : StopAnswers) :
    Ends (pollStop finished answers : Serving P Bool) s fun r s' =>
      s'.remote = s.remote ∧ (r = .ok true → s'.holds = false) := by
  unfold pollStop
  rw [ends_get_bind]
  split
  · simp
  · refine (ends_stop answers).bind (fun _ s' h => ?_) fun e s' h => ⟨h.1, fun hok => by cases hok⟩
    exact ends_pure.mpr ⟨h.1, fun _ => h.2 rfl⟩

theorem ends_openWorker (answers : LaunchAnswers) :
    Ends (openWorker answers : Serving P Unit) s fun _ s' => s'.remote = s.remote := by
  unfold openWorker
  split
  · rw [ends_modify_bind]
    split
    · exact ends_modify.mpr rfl
    · rw [ends_modify_bind]
      exact (ends_stop answers.cleanup).bind (fun _ s' h => ends_fail.mpr h.1) fun _ s' h => h.1
  · exact ends_fail.mpr rfl

theorem ends_start (answers : LaunchAnswers) :
    Ends (start answers : Serving P Unit) s fun _ s' => s'.remote = s.remote := by
  have hopen {s' : ServiceOwner} (h : s'.remote = s.remote) :
      Ends (do
        let s ← Fallible.get
        if s.worker then Pure.pure () else openWorker answers : Serving P Unit) s' fun _ s'' =>
          s''.remote = s.remote := by
    rw [ends_get_bind]
    split
    · exact ends_pure.mpr h
    · exact (ends_openWorker answers).imp fun _ _ h' => h'.trans h
  unfold start
  rw [ends_get_bind]
  refine Ends.bind (R := fun _ s' => s'.remote = s.remote) ?_ (fun _ _ h => hopen h) fun _ _ h => h
  exact Ends.whenever (fun _ => (ends_stop answers.retire).imp fun _ _ h => h.1) fun _ => rfl

end ServiceOwner

namespace HardwareStation

variable {s : HardwareStation P}

theorem ends_reopen (opened : Bool) :
    Ends (reopen opened) s fun _ s' => Alike s s' := by
  unfold reopen
  rw [ends_get_bind]
  split
  · exact ends_pure.mpr (.refl s)
  · split
    · exact ends_modify.mpr ⟨rfl, rfl, rfl, rfl, rfl, rfl, rfl, rfl⟩
    · exact ends_fail.mpr (.refl s)

theorem ends_stageTransientState (state : HardwareTransientState) :
    Ends (stageTransientState state) s fun _ s' => Alike s s' :=
  ends_modify.mpr ⟨rfl, rfl, rfl, rfl, rfl, rfl, rfl, rfl⟩

theorem ends_startAudio (answers : AudioAnswers) :
    Ends (startAudio answers) s fun _ s' => Alike s s' := by
  refine (ends_reopen answers.opened).bind (fun _ s' h => ?_) fun _ _ h => h
  split
  · exact ends_modify.mpr (h.trans ⟨rfl, rfl, rfl, rfl, rfl, rfl, rfl, rfl⟩)
  · exact ends_fail.mpr h

theorem ends_stopAudio (stopped : Bool) :
    Ends (stopAudio stopped) s fun _ s' => Alike s s' ∧ s'.service = s.service := by
  unfold stopAudio
  rw [ends_get_bind]
  split
  · exact ends_fail.mpr ⟨.refl s, rfl⟩
  · exact ends_modify.mpr ⟨⟨rfl, rfl, rfl, rfl, rfl, rfl, rfl, rfl⟩, rfl⟩

/-- Work on the service. -/
theorem ends_onService {α : Type} {m : ServiceOwner.Serving P α}
    {R : Except (StationError P) α → ServiceOwner → Prop} (h : Ends m s.service R)
    (hR : ∀ r service, R r service → service.remote = s.service.remote) :
    Ends (onService m) s fun r s' => Alike s s' ∧ R r s'.service := by
  refine Ends.within (h.imp fun r service hr => ?_)
  cases r with
  | ok a => exact ⟨⟨rfl, rfl, rfl, rfl, rfl, rfl, rfl, hR _ _ hr⟩, hr⟩
  | error e => exact ⟨⟨rfl, rfl, rfl, rfl, rfl, rfl, rfl, hR _ _ hr⟩, hr⟩

/-- What a station was opened with and is bound to: its history, its service and its runtime. -/
def equipment (s : HardwareStation P) : StationFittings P × Bool × Bool :=
  (s.fittings, s.service.remote, s.remoteDsp)

theorem Alike.equipment {s' : HardwareStation P} (h : Alike s s') : s'.equipment = s.equipment := by
  unfold HardwareStation.equipment
  rw [h.fittings, h.remote, h.remoteDsp]

/-- A binding that succeeds binds the service and the runtime. -/
theorem ends_bindRemote (remote : P.RemotePreparation) : Ends (bindRemote remote) s fun r s' =>
    s'.storage = s.storage ∧
      (r = .ok () → s'.equipment = ({ s.fittings with remote := some remote }, true, true)) := by
  have hbind : Ends (ServiceOwner.bindRemote : ServiceOwner.Serving P Unit) s.service
      fun r s' => r = .ok () → s'.remote = true := by
    unfold ServiceOwner.bindRemote
    rw [ends_get_bind]
    split
    · exact ends_fail.mpr fun hok => by cases hok
    · exact ends_modify.mpr fun _ => rfl
  have hservice : Ends (onService (P := P) ServiceOwner.bindRemote) s fun r s' =>
      s'.storage = s.storage ∧ s'.fittings = s.fittings ∧
        (r = .ok () → s'.service.remote = true) := by
    refine Ends.within (hbind.imp fun r _ hremote => ⟨rfl, rfl, fun hok => ?_⟩)
    cases r with
    | ok => exact hremote rfl
    | error e => cases hok
  refine hservice.bind (fun _ s' h => ends_modify.mpr ⟨h.1, fun _ => ?_⟩) fun _ _ h =>
    ⟨h.1, fun hok => by cases hok⟩
  simp only [HardwareStation.equipment, h.2.1, h.2.2 rfl]

theorem ends_start (answers : LaunchAnswers) (audio : AudioAnswers) (cleanup : StopAnswers) :
    Ends (start answers audio cleanup) s fun _ s' => Alike s s' := by
  unfold start
  rw [ends_get_bind]
  split
  · exact ends_pure.mpr (.refl s)
  · refine (ends_onService (ServiceOwner.ends_start answers) fun _ _ h => h).bind
      (fun _ s' h => ?_) fun _ _ h => h.1
    refine (ends_startAudio audio).attempt_bind fun r s'' h' => ?_
    cases r with
    | ok => exact ends_pure.mpr (h.1.trans h')
    | error e =>
      refine (ends_onService (ServiceOwner.ends_stop cleanup) fun _ _ h => h.1).attempt_bind
        fun r s₃ h₃ => ?_
      exact ends_fail.mpr ((h.1.trans h').trans h₃.1)

/-- A stop that succeeds leaves no GPIO handles. -/
theorem ends_stop (stopped : Bool) (answers : StopAnswers) :
    Ends (stop stopped answers) s fun r s' =>
      Alike s s' ∧ (r = .ok () → s'.service.holds = false) := by
  refine (ends_stopAudio stopped).attempt_bind fun audio s' h => ?_
  refine (ends_onService (ServiceOwner.ends_stop answers) fun _ _ h => h.1).attempt_bind
    fun hardware s'' h' => ?_
  have halike := h.1.trans h'.1
  cases audio with
  | error e => exact ends_of_bind.mpr ⟨halike, fun h => by cases h⟩
  | ok => exact ends_of.mpr ⟨halike, fun hok => h'.2.2 hok⟩

theorem ends_pollStop (stopped finished : Bool) (answers : StopAnswers) :
    Ends (pollStop stopped finished answers) s fun _ s' => Alike s s' := by
  refine (ends_stopAudio stopped).bind (fun _ s' h => ?_) fun _ _ h => h.1
  exact (ends_onService (ServiceOwner.ends_pollStop finished answers) fun _ _ h => h.1).imp
    fun _ _ h' => h.1.trans h'.1

/-- A suspended station holds nothing. -/
theorem ends_suspend (stopped again : Bool) (answers : StopAnswers) :
    Ends (suspend stopped again answers) s fun r s' =>
      Alike s s' ∧ (r = .ok () → s'.holds = false) := by
  refine (ends_stop stopped answers).bind (fun _ s' h => ?_) fun _ _ h => ⟨h.1, fun hok => by cases hok⟩
  refine (ends_stopAudio again).bind (fun _ s'' h' => ?_) fun _ _ h' =>
    ⟨h.1.trans h'.1, fun hok => by cases hok⟩
  refine ends_modify.mpr ⟨(h.1.trans h'.1).trans ⟨rfl, rfl, rfl, rfl, rfl, rfl, rfl, rfl⟩, fun _ => ?_⟩
  show (none.isSome || s''.service.holds) = false
  rw [h'.2, h.2 rfl]
  rfl

/-- A live update changes neither the generation nor its remote radio. -/
structure Updated (station after : HardwareStation P) : Prop where
  fittings : after.fittings = station.fittings
  remoteDsp : after.remoteDsp = station.remoteDsp

theorem Updated.refl (s : HardwareStation P) : Updated s s := ⟨rfl, rfl⟩

theorem Updated.trans {s s' s'' : HardwareStation P} (h : Updated s s') (h' : Updated s' s'') :
    Updated s s'' := ⟨h'.fittings.trans h.fittings, h'.remoteDsp.trans h.remoteDsp⟩

theorem ends_updateSnapshot (processing : Except P.ProcessingRuntimeError P.ProcessingGeneration) :
    Ends (updateSnapshot processing) s fun r s' =>
      s' = s ∧ ∀ snapshot, r = .ok snapshot → snapshot.previous = s.plan := by
  unfold updateSnapshot
  rw [ends_get_bind]
  split
  · exact ends_fail.mpr ⟨rfl, fun _ h => by cases h⟩
  · split
    · exact ends_fail.mpr ⟨rfl, fun _ h => by cases h⟩
    · refine ends_pure.mpr ⟨rfl, fun snapshot h => ?_⟩
      obtain rfl := Except.ok.inj h
      rfl

theorem ends_beginTransaction (update : StationUpdate P) (answers : UpdateAnswers P) :
    Ends (beginTransaction update answers) s fun _ s' => Updated s s' ∧
      s'.plan = s.plan ∧ (s'.storage = s.storage ∨ s.storage.transaction = none ∧
        s'.storage.transaction = some ⟨update, false⟩) := by
  have hsame (e : StationError P) : Ends (Fallible.fail e : Working P Unit) s fun _ s' =>
      Updated s s' ∧ s'.plan = s.plan ∧ (s'.storage = s.storage ∨ s.storage.transaction = none ∧
        s'.storage.transaction = some ⟨update, false⟩) :=
    ends_fail.mpr ⟨.refl s, rfl, .inl rfl⟩
  unfold beginTransaction
  rw [ends_get_bind]
  split
  · exact hsame _
  · split
    · exact hsame _
    · exact hsame _
    · split
      · exact hsame _
      · rename_i hfree
        refine ends_modify.mpr ⟨⟨rfl, rfl⟩, rfl, .inr ⟨?_, rfl⟩⟩
        simpa using not_or.mp hfree |>.1

theorem ends_beginMixerUpdate (mixersOpen mixersSet : Bool) :
    Ends (beginMixerUpdate mixersOpen mixersSet) s fun _ s' =>
      Updated s s' ∧ s'.plan = s.plan ∧ s'.storage = s.storage := by
  unfold beginMixerUpdate
  rw [ends_get_bind]
  split
  · exact ends_fail.mpr ⟨.refl s, rfl, rfl⟩
  · split
    · rw [ends_modify_bind]
      split
      · exact ends_pure.mpr ⟨⟨rfl, rfl⟩, rfl, rfl⟩
      · exact ends_fail.mpr ⟨⟨rfl, rfl⟩, rfl, rfl⟩
    · exact ends_fail.mpr ⟨.refl s, rfl, rfl⟩

theorem ends_beginUpdate (update : StationUpdate P) (answers : UpdateAnswers P) :
    Ends (beginUpdate update answers) s fun _ s' => Updated s s' ∧
      s'.plan = s.plan ∧ (s'.storage = s.storage ∨ s.storage.transaction = none ∧
        s'.storage.transaction = some ⟨update, false⟩) := by
  refine (ends_beginTransaction update answers).bind (fun _ s' h => ?_) fun _ _ h => h
  refine (ends_beginMixerUpdate answers.mixersOpen answers.mixersSet).imp fun _ s'' h' => ?_
  rw [h'.2.1, h'.2.2]
  exact ⟨h.1.trans h'.1, h.2⟩

/-- The candidate becomes the plan. -/
theorem ends_acceptUpdate (answers : UpdateAnswers P) :
    Ends (acceptUpdate answers) s fun r s' => Updated s s' ∧ s'.storage = s.storage ∧
      (r ≠ .ok () ∧ s'.plan = s.plan ∨ ∃ transaction, s.storage.transaction = some transaction ∧
        s'.plan = transaction.candidate.plan) := by
  have hsame (e : StationError P) : Updated s s ∧ s.storage = s.storage ∧
      ((.error e : Except (StationError P) Unit) ≠ .ok () ∧ s.plan = s.plan ∨ ∃ transaction,
        s.storage.transaction = some transaction ∧ s.plan = transaction.candidate.plan) :=
    ⟨.refl s, rfl, .inl ⟨fun h => (by cases h), rfl⟩⟩
  unfold acceptUpdate
  cases answers.result with
  | error e => exact ends_of_bind.mpr (hsame _)
  | ok =>
    rw [ends_of_ok_bind, ends_get_bind]
    split
    · exact ends_fail.mpr (hsame _)
    · rename_i transaction htx
      split
      · exact ends_fail.mpr (hsame _)
      · exact ends_modify.mpr ⟨⟨rfl, rfl⟩, rfl, .inr ⟨transaction, htx, rfl⟩⟩

/-- What the end of a live update does to the plan and to the transaction. -/
inductive Finished (commit : Bool) (s s' : HardwareStation P) : Prop where
  | same (hplan : s'.plan = s.plan) (hstorage : s'.storage = s.storage)
  | reverses {transaction : Transaction P} (hsome : s.storage.transaction = some transaction)
      (hplan : s'.plan = s.plan)
      (hreverses : s'.storage.transaction = some ⟨transaction.candidate, true⟩)
  | ends {transaction : Transaction P} (hsome : s.storage.transaction = some transaction)
      (hnone : s'.storage.transaction = none)
      (hplan : s'.plan = bif commit then transaction.candidate.plan
        else transaction.candidate.previous)

/-- Behind an end that succeeds there is no transaction. -/
def Closed {α : Type} (r : Except (StationError P) α) (s' : HardwareStation P) : Prop :=
  r.isOk = true → s'.storage.transaction = none

theorem ends_finishTransaction (commit : Bool) (answers : UpdateAnswers P) :
    Ends (finishTransaction commit answers) s fun r s' =>
      Updated s s' ∧ Finished commit s s' ∧ Closed r s' := by
  have hsame (e : StationError P) : Ends (Fallible.fail e : Working P Unit) s fun r s' =>
      Updated s s' ∧ Finished commit s s' ∧ Closed r s' :=
    ends_fail.mpr ⟨.refl s, .same rfl rfl, fun h => (by cases h)⟩
  unfold finishTransaction
  rw [ends_get_bind]
  split
  · rename_i htx
    exact ends_pure.mpr ⟨.refl s, .same rfl rfl, fun _ => htx⟩
  · rename_i transaction htx
    cases commit with
    | true =>
      rw [if_pos rfl]
      cases answers.result with
      | error e => exact hsame _
      | ok =>
        show Ends (if transaction.reversing = true then _ else _) s _
        split
        · exact hsame _
        · exact ends_modify.mpr ⟨⟨rfl, rfl⟩, .ends htx rfl rfl, fun _ => rfl⟩
    | false =>
      -- The reverse generation has been published, or is now.
      have hreverse {result : Except (StationUpdateError P) Unit} :
          Ends (concludeReverse transaction result) s fun r s' =>
            Updated s s' ∧ Finished false s s' ∧ Closed r s' := by
        unfold concludeReverse
        cases result with
        | error e => exact hsame _
        | ok => exact ends_modify.mpr ⟨⟨rfl, rfl⟩, .ends htx rfl rfl, fun _ => rfl⟩
      rw [if_neg Bool.false_ne_true]
      split
      · exact hsame _
      · split
        · exact hreverse
        · rw [ends_modify_bind]
          unfold concludeReverse
          cases answers.reversed with
          | error e =>
            exact ends_fail.mpr ⟨⟨rfl, rfl⟩, .reverses htx rfl rfl, fun h => (by cases h)⟩
          | ok => exact ends_modify.mpr ⟨⟨rfl, rfl⟩, .ends htx rfl rfl, fun _ => rfl⟩

theorem ends_finishMixerUpdate (commit mixersSet : Bool) :
    Ends (finishMixerUpdate commit mixersSet) s fun _ s' =>
      Updated s s' ∧ s'.plan = s.plan ∧ s'.storage = s.storage := by
  unfold finishMixerUpdate
  rw [ends_get_bind]
  split
  · split
    · exact ends_modify.mpr ⟨⟨rfl, rfl⟩, rfl, rfl⟩
    · exact ends_fail.mpr ⟨.refl s, rfl, rfl⟩
  · exact ends_pure.mpr ⟨.refl s, rfl, rfl⟩

theorem ends_finishUpdate (commit : Bool) (answers : UpdateAnswers P) :
    Ends (finishUpdate commit answers) s fun r s' =>
      Updated s s' ∧ Finished commit s s' ∧ Closed r s' := by
  refine (ends_finishTransaction commit answers).bind (fun _ s' h => ?_) fun e s' h =>
    ⟨h.1, h.2.1, fun hok => (by cases hok)⟩
  refine (ends_finishMixerUpdate commit answers.mixersSet).imp fun _ s'' h' => ?_
  obtain ⟨hupdated, hplan, hstorage⟩ := h'
  refine ⟨h.1.trans hupdated, ?_, fun _ => hstorage ▸ h.2.2 rfl⟩
  cases h.2.1 with
  | same hp hs => exact .same (hplan.trans hp) (hstorage.trans hs)
  | reverses htx hp hr => exact .reverses htx (hplan.trans hp) (hstorage ▸ hr)
  | ends htx hn hp => exact .ends htx (hstorage ▸ hn) (hplan.trans hp)

end HardwareStation

end Driver
end UsbRadioPlus
