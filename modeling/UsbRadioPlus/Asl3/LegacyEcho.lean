import UsbRadioPlus.Asl3.Pcm

/-!
# The legacy echo (`rust/asl3/src/adapter.rs`)

While it records, keyed frames go to a buffer; an unkeyed frame starts the replay of what is there, in
place of the frames that the controller writes, one frame at a write. `echo` runs it with the writes of
the controller. Its history has the keyed frames that were heard, which the recording truncates, what
was submitted of their replay, and the replays that have ended.

The producer is foreign: its answer is an argument. Samples are submitted as f32, of which the
conversion is a parameter.
-/

namespace UsbRadioPlus
namespace Asl3

open Sys

/-! ## The buffer -/

namespace LegacyEcho

/-- `LegacyEcho::new`, of an `EchoConfiguration`. -/
def new (enabled : Bool) (maximumFrames : Nat) : LegacyEcho where
  state := if enabled then .recording else .disabled
  samples := List.replicate (maximumFrames * APP_RPT_FRAME_SAMPLES) 0
  length := 0
  playback := 0

/-- `clear` -/
def clear (self : LegacyEcho) : LegacyEcho :=
  { self with
    samples := List.replicate self.length 0 ++ self.samples.drop self.length
    length := 0
    playback := 0 }

/-- `set_enabled` -/
def setEnabled (self : LegacyEcho) (enabled : Bool) : LegacyEcho :=
  { self.clear with state := if enabled then .recording else .disabled }

/-- `finish_playback_frame`: at the end of the recording the echo records again. -/
def finishPlaybackFrame (self : LegacyEcho) (count : Nat) : LegacyEcho :=
  if self.length ≤ self.playback + count then { self.clear with state := .recording }
  else { self with playback := self.playback + count }

end LegacyEcho

/-! ## Writes -/

/-- Whose frame is written. -/
inductive ProgramSource where
  | controller
  | legacyEcho
  deriving DecidableEq, Repr

/-- Result of one program-ring write. -/
structure ProgramWrite where
  source : ProgramSource
  submittedSamples : Nat
  acceptedSamples : Nat
  echoCompleted : Bool
  deriving DecidableEq, Repr

/-- The errors of `write_program`. -/
inductive WriteError where
  | wrongInterface
  | programRing
  | invalidProgramRingResult
  deriving DecidableEq, Repr

/-- The elements from `start` on; an index beyond the end panics. -/
def slice {α : Type} (xs : List α) (start count : Nat) : Option (List α) :=
  if start + count ≤ xs.length then some ((xs.drop start).take count) else none

/-- What a write leaves behind. -/
structure Written (F : Type) where
  result : Except WriteError ProgramWrite
  controller : ControllerState
  /-- History: what the producer was given. -/
  pushed : List F

/-- `write_program`, with the answer of the producer; `none` is a panic. -/
def ControllerState.writeProgram {F : Type} (s16ToF32 : Int → F) (answer : Except Unit Nat)
    (self : ControllerState) (frame : ControllerPcmFrame) : Option (Written F) :=
  if frame.mode ≠ self.mode then some ⟨.error .wrongInterface, self, []⟩
  else
    let source := if self.echo.state = .playing then ProgramSource.legacyEcho else .controller
    let sampleCount :=
      if self.echo.state = .playing then APP_RPT_FRAME_SAMPLES else frame.samples.length
    let samples := if source = .legacyEcho then slice self.echo.samples self.echo.playback sampleCount
      else slice frame.samples 0 sampleCount
    samples.map fun samples =>
      let pushed := samples.map s16ToF32
      match answer with
      | .error () => ⟨.error .programRing, self, pushed⟩
      | .ok accepted =>
        if sampleCount < accepted then ⟨.error .invalidProgramRingResult, self, pushed⟩
        else
          let echoCompleted := source = .legacyEcho &&
            self.echo.length ≤ self.echo.playback + sampleCount
          ⟨.ok ⟨source, sampleCount, accepted, echoCompleted⟩,
            { self with
              echo := if source = .legacyEcho then self.echo.finishPlaybackFrame sampleCount
                else self.echo },
            pushed⟩

/-- `set_echo_enabled`. -/
def ControllerState.setEchoEnabled (self : ControllerState) (enabled : Bool) : ControllerState :=
  if self.mode = .appRpt then { self with echo := self.echo.setEnabled enabled } else self

/-! ## The system -/

/-- A replay that has ended: the keyed frames of its burst, what of them was submitted, and whether
it has returned to recording by itself. -/
structure Replay (F : Type) where
  heard : List (List Int)
  submitted : List (List F)
  completed : Bool

/-- A controller with what went through its echo. -/
structure EchoRun (F : Type) where
  controller : ControllerState
  /-- The keyed frames since the echo began to record. -/
  heard : List (List Int)
  /-- What was submitted of the present replay. -/
  submitted : List (List F)
  /-- The replays that have ended, oldest first. -/
  replays : List (Replay F)

/-- What happens to the echo. -/
inductive EchoAct where
  /-- The voice of a packet is delivered. -/
  | receive (frame : WholeFrame) (keyed : Bool)
  | write (frame : WholeFrame) (answer : Except Unit Nat)
  | setEchoEnabled (enabled : Bool)

namespace EchoRun

variable {F : Type}

/-- The controller in front of the first frame. -/
def prepare (mode : AsteriskPcmMode) (enabled : Bool) (maximumFrames : Nat) : EchoRun F where
  controller := .prepare mode (.new enabled maximumFrames)
  heard := []
  submitted := []
  replays := []

/-- The present replay ends. -/
def endReplay (s : EchoRun F) (submitted : List (List F)) (completed : Bool) : EchoRun F :=
  { s with
    heard := []
    submitted := []
    replays := s.replays ++ [⟨s.heard, submitted, completed⟩] }

/-- The history of a received frame. -/
def receive (s : EchoRun F) (frame : ControllerPcmFrame) (keyed : Bool) : EchoRun F :=
  { s with
    controller := { s.controller with echo := s.controller.echo.receive frame keyed }
    heard := if s.controller.echo.state = .recording && keyed && frame.mode = .appRpt then
      s.heard ++ [frame.samples] else s.heard }

/-- The history of a write. -/
def written (s : EchoRun F) (w : Written F) : EchoRun F :=
  let next := { s with controller := w.controller }
  match w.result with
  | .error _ => next
  | .ok write =>
    if write.source = .legacyEcho then
      let submitted := s.submitted ++ [w.pushed]
      if w.controller.echo.state = .playing then { next with submitted }
      else next.endReplay submitted true
    else next

/-- `set_echo_enabled`: a playback that is cut off ends. -/
def setEchoEnabled (s : EchoRun F) (enabled : Bool) : EchoRun F :=
  let next := { s with controller := s.controller.setEchoEnabled enabled }
  if s.controller.mode ≠ .appRpt then next
  else if s.controller.echo.state = .playing then next.endReplay s.submitted false
  else { next with heard := [] }

/-- A step of the echo. -/
def step (s16ToF32 : Int → F) (s : EchoRun F) : EchoAct → Option (EchoRun F)
  | .receive frame keyed => some (s.receive frame.toControllerPcmFrame keyed)
  | .write frame answer =>
    (s.controller.writeProgram s16ToF32 answer frame.toControllerPcmFrame).map s.written
  | .setEchoEnabled enabled => some (s.setEchoEnabled enabled)

end EchoRun

/-- The echo of a prepared controller with the frames, writes and toggles of its callers. -/
def echo {F : Type} (s16ToF32 : Int → F) (maximumFrames : Nat) : System (EchoRun F) EchoAct where
  init s := ∃ mode enabled, s = .prepare mode enabled maximumFrames
  step := EchoRun.step s16ToF32

end Asl3
end UsbRadioPlus
