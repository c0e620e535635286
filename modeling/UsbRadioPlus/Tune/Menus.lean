import UsbRadioPlus.Core.ConfigFrame
import UsbRadioPlus.Sys.Fallible

/-!
# Edits and calibrations of the tuner (`rust/tune/src/menus.rs`)

An operation writes the configuration and has it applied; where that fails it writes the text from
before and has that applied (`applyWrittenGeneration`). A calibration of the receive gain does so once
for each attempt, and restores the first text where an attempt fails.

The store, the applier and the radio are foreign: what they answer is an argument here. A write of the
repository replaces the file before it synchronizes the directory, so it may fail with the text
replaced. The resolver of the composition is a parameter, of which the operations use the validation of
a candidate; so is the exchange of two USB devices. The gain of an attempt is the text that the
measurement before it gave. Dialogs and the selection of a channel are left out: they succeed.
-/

namespace UsbRadioPlus
namespace Tune

open UsbRadioPlus.Core UsbRadioPlus.Core.ConfigDocument Rust Sys

/-! ## The session -/

/-- How a write of the store ends. -/
inductive WriteAnswer where
  | written
  /-- The configuration was not replaced. -/
  | refused (error : Str)
  /-- It was replaced, and its directory not synchronized. -/
  | unsynced (error : Str)
  deriving DecidableEq, Repr

namespace WriteAnswer

/-- The write has replaced the text. -/
def replaces : WriteAnswer → Bool
  | refused _ => false
  | _ => true

/-- What the write returns. -/
def result : WriteAnswer → Except Str Unit
  | written => .ok ()
  | refused error | unsynced error => .error error

end WriteAnswer

/-- The configuration, and what the operation did with it. -/
structure Session where
  stored : Str
  /-- History: the text that the operation last set out to store, other than to restore one. -/
  updated : Str
  /-- History: the texts that were applied, the newest first. -/
  applied : List Str
  /-- History: a restoring write or apply has failed. -/
  unrestored : Bool
  deriving DecidableEq

/-- In front of an operation. -/
def Session.start (text : Str) : Session := ⟨text, text, [], false⟩

/-- A part of a menu operation. -/
abbrev Operating := Fallible Session Str

/-- A result of a call that may be a restoring one. -/
def answered (restoring : Bool) (result : Except Str Unit) : Operating Unit := fun s =>
  some (result, { s with unrestored := s.unrestored || restoring && !result.isOk })

/-- `ConfigurationStore::write_config`. -/
def writeConfig (restoring : Bool) (contents : Str) (answer : WriteAnswer) : Operating Unit := do
  Fallible.whenever (!restoring) (Fallible.modify fun s => { s with updated := contents })
  Fallible.whenever answer.replaces (Fallible.modify fun s => { s with stored := contents })
  answered restoring answer.result

/-- `ConfigurationApplier::apply`, of what is stored. -/
def apply (restoring : Bool) (answer : Except Str Unit) : Operating Unit := do
  Fallible.whenever answer.isOk (Fallible.modify fun s => { s with applied := s.stored :: s.applied })
  answered restoring answer

/-! ## Generations -/

/-- What the store and the applier answer for one generation. -/
structure Answers where
  write : WriteAnswer
  apply : Except Str Unit
  restore : WriteAnswer
  reapply : Except Str Unit

/-- `apply_written_generation`. -/
def applyWrittenGeneration (restoring : Bool) (original : Str) (answers : Answers) :
    Operating Unit := do
  match ← Fallible.attempt (apply restoring answers.apply) with
  | .ok () => pure ()
  | .error applyError => do
    writeConfig true original answers.restore
    match ← Fallible.attempt (apply true answers.reapply) with
    | .ok () => Fallible.fail ("Apply failed: ".toList ++ applyError ++
        "\n\nThe previous configuration was restored.".toList)
    | .error rollbackError => Fallible.fail ("Apply failed: ".toList ++ applyError ++
        "\n\nThe previous file was restored, but reapplying it failed: ".toList ++ rollbackError)

/-- `apply_generation`. -/
def applyGeneration (restoring : Bool) (original updated : Str) (answers : Answers) :
    Operating Unit := do
  writeConfig restoring updated answers.write
  applyWrittenGeneration restoring original answers

/-- `apply_edit`. A failure behind the write is told by a dialog, and ends with `false`. -/
def applyEdit (original updated : Str) (answers : Answers) : Operating Bool := do
  writeConfig false updated answers.write
  let applied ← Fallible.attempt (applyWrittenGeneration false original answers)
  pure applied.isOk

/-! ## Edits -/

/-- `ConfigError`'s text. -/
def message : ConfigError → Str
  | .invalidSectionName => "invalid configuration section name".toList
  | .invalidOptionName => "invalid configuration option name".toList
  | .invalidValue => "configuration values must fit on one line".toList
  | .missingChannel channel => "missing channel section [".toList ++ channel ++ "]".toList
  | .missingProfile profile => "missing profile section [".toList ++ profile ++ "]".toList

/-- The text of the edited document. -/
def edited (edit : Edit) (text : Str) : Except Str Str :=
  match edit.run ⟨text⟩ with
  | (.error error, _) => .error (message error)
  | (.ok (), document) => .ok document.text

/-- The resolver's validation of a document at a section and key. -/
abbrev Validation := ConfigDocument → Str → Str → Except Str Unit

/-- `edit_setting`, behind its prompt. -/
def editSetting (validateCandidate : Validation) (read : Except Str Unit) (edit : Edit)
    (answers : Answers) : Operating Bool := do
  Fallible.of read
  let s ← Fallible.get
  let updated ← Fallible.of (edited edit s.stored)
  match validateCandidate ⟨updated⟩ edit.sectionName edit.name with
  | .error _ => pure false
  | .ok () => applyEdit s.stored updated answers

/-- One selection of `select_profiles`, behind its prompts. -/
def selectProfile (read : Except Str Unit) (edit : Edit) (answers : Answers) : Operating Bool := do
  Fallible.of read
  let s ← Fallible.get
  let updated ← Fallible.of (edited edit s.stored)
  applyEdit s.stored updated answers

/-- What exchanges two USB devices in a text, resolves their sections and validates the result. -/
structure DeviceSwap where
  swapHardwareIdentity : Str → Except Str Str
  resolvedSections : Str → Except Str Unit
  stationConfigs : Str → Except Str Unit

/-- `swap_usb_device`, behind its prompt. -/
def swapUsbDevice (swap : DeviceSwap) (read : Except Str Unit) (answers : Answers) :
    Operating Bool := do
  Fallible.of read
  let s ← Fallible.get
  match swap.swapHardwareIdentity s.stored with
  | .error _ => pure false
  | .ok updated => do
    Fallible.of (swap.resolvedSections updated)
    match swap.stationConfigs updated with
    | .error _ => pure false
    | .ok () => applyEdit s.stored updated answers

/-- `discard_session_changes`. -/
def discardSessionChanges (savedConfig : Option Str) (confirmed : Bool) (read : Except Str Unit)
    (answers : Answers) : Operating Bool := do
  Fallible.of read
  let s ← Fallible.get
  let saved := savedConfig.getD s.stored
  if s.stored = saved then pure true
  else if !confirmed then pure false
  else applyEdit s.stored saved answers

/-! ## Calibration -/

/-- One attempt of a calibration. -/
structure Attempt where
  /-- The gain that the measurement before gives. -/
  gain : Str
  answers : Answers
  /-- The measured level is in range. -/
  status : Except Str Bool
  /-- The measured level. -/
  peak : Str

/-- A calibration of the receive gain, with its destination and its attempts. -/
structure GainCalibration where
  label : Str
  /-- The selected channel has this destination. -/
  destination : Except Str (Str × Str)
  attempts : Nat → Attempt
  /-- Where the first text is restored. -/
  restore : Answers

/-- What a completed calibration reports. -/
structure Calibrated where
  attempts : Nat
  gain : Str
  peak : Str

namespace GainCalibration

variable (self : GainCalibration)

/-- `restore_failed_calibration`. -/
def restoreFailed (current original error : Str) : Operating Calibrated :=
  if current = original then Fallible.fail error
  else do
    match ← Fallible.attempt (applyGeneration true current original self.restore) with
    | .ok () => Fallible.fail (error ++ "\n\nThe previous configuration was restored.".toList)
    | .error rollback => Fallible.fail (error ++
        "\n\nRestoring the previous configuration failed: ".toList ++ rollback)

/-- The text that an attempt writes. -/
def candidate (validateCandidate : Validation) (target : Str × Str) (attempt : Nat) (current : Str) :
    Except Str Str := do
  let text ← edited (.setValue target.1 target.2 (self.attempts attempt).gain) current
  validateCandidate ⟨text⟩ target.1 target.2
  pure text

/-- The attempts from `attempt` on, of which there are `remaining`. -/
def calibrateFrom (validateCandidate : Validation) (target : Str × Str) (original : Str) :
    (remaining attempt : Nat) → Str → Operating Calibrated
  | 0, attempt, current => self.restoreFailed current original (self.label ++
      " calibration failed after ".toList ++ (toString attempt).toList ++
      " attempts; the last peak was ".toList ++ (self.attempts (attempt - 1)).peak)
  | remaining + 1, attempt, current => do
    let candidate ← Fallible.of (self.candidate validateCandidate target attempt current)
    match ← Fallible.attempt
        (applyGeneration false current candidate (self.attempts attempt).answers) with
    | .error error => self.restoreFailed current original error
    | .ok () => match (self.attempts attempt).status with
      | .error error => self.restoreFailed candidate original error
      | .ok inRange =>
        if inRange && 4 < attempt then
          pure ⟨attempt + 1, (self.attempts attempt).gain, (self.attempts attempt).peak⟩
        else calibrateFrom validateCandidate target original remaining (attempt + 1) candidate

/-- `calibrate_receive_gain`. -/
def calibrateReceiveGain (validateCandidate : Validation) (read : Except Str Unit) :
    Operating Calibrated := do
  Fallible.of read
  let s ← Fallible.get
  let target ← Fallible.of self.destination
  self.calibrateFrom validateCandidate target s.stored 12 0 s.stored

end GainCalibration

/-! ## Operations -/

/-- The operations of the menus that edit the configuration. -/
inductive Operation where
  | edit (edit : Edit) (answers : Answers)
  | selectProfile (edit : Edit) (answers : Answers)
  | swapUsbDevice (swap : DeviceSwap) (answers : Answers)
  | discard (savedConfig : Option Str) (confirmed : Bool) (answers : Answers)
  | calibrate (calibration : GainCalibration)

/-- Whether a computation has succeeded, and the session behind it. -/
def outcome {α : Type} (done : α → Bool) (m : Operating α) (s : Session) : Option (Bool × Session) :=
  (m s).map fun (result, s) => (match result with
    | .ok a => done a
    | .error _ => false, s)

/-- The operation on the configuration `text`. -/
def Operation.run (validateCandidate : Validation) (read : Except Str Unit) (text : Str) :
    Operation → Option (Bool × Session)
  | .edit change answers =>
    outcome id (editSetting validateCandidate read change answers) (.start text)
  | .selectProfile change answers =>
    outcome id (Tune.selectProfile read change answers) (.start text)
  | .swapUsbDevice swap answers =>
    outcome id (Tune.swapUsbDevice swap read answers) (.start text)
  | .discard savedConfig confirmed answers =>
    outcome id (discardSessionChanges savedConfig confirmed read answers) (.start text)
  | .calibrate calibration =>
    outcome (fun _ => true) (calibration.calibrateReceiveGain validateCandidate read) (.start text)

end Tune
end UsbRadioPlus
