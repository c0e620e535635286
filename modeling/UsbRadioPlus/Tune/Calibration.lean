import UsbRadioPlus.Rust.Float
import UsbRadioPlus.Tune.Menus

/-!
# Calibrations that key or change the mixer (`rust/tune/src/menus.rs`)

`flashTransmitter` and `adjustKeyedSetting` key the transmitter, `calibrateReceiveNoise` sets the receive
mixer and then stores the level it has found. What they ask of the radio is recorded with the
configurations that are applied (`Request`), whatever the answers are.

Every answer of the radio, of the dialogs and of the store is an argument. The gain of a mixer level is
the text of a logarithm; it is a parameter, as is the resolver. Reports of a success are left out.
-/

namespace UsbRadioPlus
namespace Tune

open UsbRadioPlus.Core UsbRadioPlus.Core.ConfigDocument Rust Sys

/-! ## Requests -/

/-- What is asked of the driver. -/
inductive Request where
  | transmit (keyed : Bool) (forcedCtcss : Option Nat)
  | testTone (enabled : Bool)
  | receiveMixer (level : Nat)
  /-- The stored configuration is applied, with its mixer levels. -/
  | apply (text : Str)
  deriving DecidableEq

/-- The configuration, and the requests so far, oldest first. -/
structure Bench where
  stored : Str
  requests : List Request

/-- A step of a calibration. -/
abbrev Calibrating := Fallible Bench Str

namespace Bench

/-- A request with its answer. -/
def request (r : Request) (answer : Except Str Unit) : Calibrating Unit := do
  Fallible.modify fun b => { b with requests := b.requests ++ [r] }
  Fallible.of answer

/-- `set_transmit` -/
def setTransmit (keyed : Bool) (forcedCtcss : Option Nat) (answer : Except Str Unit) :
    Calibrating Unit :=
  request (.transmit keyed forcedCtcss) answer

/-- `set_test_tone` -/
def setTestTone (enabled : Bool) (answer : Except Str Unit) : Calibrating Unit :=
  request (.testTone enabled) answer

/-- `set_hardware_mixer` for the receive mixer. -/
def setHardwareMixer (level : Nat) (answer : Except Str Unit) : Calibrating Unit :=
  request (.receiveMixer level) answer

/-- The write of the configuration. -/
def writeConfig (contents : Str) (answer : WriteAnswer) : Calibrating Unit := do
  Fallible.whenever answer.replaces (Fallible.modify fun b => { b with stored := contents })
  Fallible.of answer.result

/-- The driver takes the stored configuration over. -/
def apply (answer : Except Str Unit) : Calibrating Unit := do
  let b ← Fallible.get
  request (.apply b.stored) answer

/-- `apply_generation`, with `apply_written_generation`. -/
def applyGeneration (original updated : Str) (answers : Answers) : Calibrating Unit := do
  writeConfig updated answers.write
  match ← Fallible.attempt (apply answers.apply) with
  | .ok () => pure ()
  | .error applyError => do
    writeConfig original answers.restore
    match ← Fallible.attempt (apply answers.reapply) with
    | .ok () => Fallible.fail ("Apply failed: ".toList ++ applyError ++
        "\n\nThe previous configuration was restored.".toList)
    | .error rollbackError => Fallible.fail ("Apply failed: ".toList ++ applyError ++
        "\n\nThe previous file was restored, but reapplying it failed: ".toList ++ rollbackError)

/-- An operation on the stored configuration alone. Of its applications those that succeed are
recorded. -/
def onSession {α : Type} (m : Operating α) : Calibrating α :=
  Fallible.within (fun b => Session.start b.stored)
    (fun b s => ⟨s.stored, b.requests ++ s.applied.reverse.map .apply⟩) id m

end Bench

/-- `Result::and` -/
def andThen (first second : Except Str Unit) : Except Str Unit :=
  match first with
  | .ok () => second
  | .error error => .error error

/-! ## Flash -/

/-- What is answered during one burst. -/
structure Burst where
  status : Except Str Unit
  toneOn : Except Str Unit
  keyOn : Except Str Unit
  /-- Whether the operator has stopped it. -/
  exit : Except Str Bool
  keyOff : Except Str Unit
  toneOff : Except Str Unit
  pause : Except Str Bool

/-- The answers to a flash of the transmitter. -/
structure Flash where
  channel : Except Str Unit
  banner : Except Str Unit
  bursts : Nat → Burst
  unkey : Except Str Unit
  toneOff : Except Str Unit

namespace Flash

variable (self : Flash)

/-- The bursts from `burst` on: `false` where the operator stops them. -/
def burstsFrom : (remaining burst : Nat) → Calibrating Bool
  | 0, _ => pure true
  | remaining + 1, burst => do
    let answers := self.bursts burst
    Fallible.of answers.status
    Bench.setTestTone true answers.toneOn
    Bench.setTransmit true none answers.keyOn
    let exit ← Fallible.of answers.exit
    if exit then pure false
    else do
      Bench.setTransmit false none answers.keyOff
      Bench.setTestTone false answers.toneOff
      let stopped ← Fallible.of (if burst < 2 then answers.pause else .ok false)
      if stopped then pure false else burstsFrom remaining (burst + 1)

/-- The text behind the final cleanup. -/
def report : Except Str Bool → Except Str Unit → Except Str Str
  | .ok true, .ok () => .ok "Transmitter calibration bursts completed.".toList
  | .ok false, .ok () => .ok "Transmitter calibration bursts stopped.".toList
  | .error error, .ok () => .error error
  | .ok _, .error cleanup => .error ("Transmitter cleanup failed: ".toList ++ cleanup)
  | .error error, .error cleanup =>
    .error (error ++ "\n\nTransmitter cleanup failed: ".toList ++ cleanup)

/-- `flash_transmitter`. -/
def flashTransmitter : Calibrating Str := do
  Fallible.of self.channel
  Fallible.of self.banner
  let result ← Fallible.attempt (self.burstsFrom 3 0)
  let unkey ← Fallible.attempt (Bench.setTransmit false none self.unkey)
  let toneOff ← Fallible.attempt (Bench.setTestTone false self.toneOff)
  Fallible.of (report result (andThen unkey toneOff))

end Flash

/-! ## Keyed adjustments -/

/-- An edit of one setting of the catalog. -/
structure CatalogEdit where
  catalog : Except Str Unit
  /-- The document and the destination of the setting. -/
  read : Except Str Unit
  /-- Whether a value was entered. -/
  prompt : Except Str Bool
  change : Edit
  answers : Answers
  /-- The dialog that tells of the result, where there is one. -/
  dialog : Except Str Unit

/-- `edit_catalog_setting`. -/
def CatalogEdit.editCatalogSetting (self : CatalogEdit) (validateCandidate : Validation) :
    Calibrating Unit := do
  Fallible.of self.catalog
  Fallible.of self.read
  let entered ← Fallible.of self.prompt
  Fallible.whenever entered do
    let _ ← Bench.onSession (editSetting validateCandidate (.ok ()) self.change self.answers)
    Fallible.of self.dialog

/-- The answers to a setting that is changed while the transmitter is keyed. -/
structure KeyedAdjustment where
  testTone : Bool
  forcedCtcss : Option Nat
  toneOn : Except Str Unit
  keyOn : Except Str Unit
  /-- The dialog where the tone or the key fails. -/
  unavailable : Except Str Unit
  edit : CatalogEdit
  unkey : Except Str Unit
  toneOff : Except Str Unit
  /-- The dialog where the cleanup fails. -/
  cleanup : Except Str Unit

namespace KeyedAdjustment

variable (self : KeyedAdjustment)

/-- The tone is switched off where it was used. -/
def clearTone : Calibrating (Except Str Unit) :=
  if self.testTone then Fallible.attempt (Bench.setTestTone false self.toneOff) else pure (.ok ())

/-- The result behind the cleanup: the edit's failure, or the dialog that tells of the cleanup's. -/
def finish (edit cleared : Except Str Unit) : Calibrating Unit := do
  Fallible.of edit
  match cleared with
  | .ok () => pure ()
  | .error _ => Fallible.of self.cleanup

/-- What follows a tone that is on, or that is not needed. -/
def adjustKeyed (validateCandidate : Validation) : Calibrating Unit := do
  match ← Fallible.attempt (Bench.setTransmit true self.forcedCtcss self.keyOn) with
  | .error _ => do
    let _ ← self.clearTone
    Fallible.of self.unavailable
  | .ok () => do
    let edit ← Fallible.attempt (self.edit.editCatalogSetting validateCandidate)
    let unkey ← Fallible.attempt (Bench.setTransmit false none self.unkey)
    let toneOff ← self.clearTone
    self.finish edit (andThen unkey toneOff)

/-- `adjust_keyed_setting`. -/
def adjustKeyedSetting (validateCandidate : Validation) : Calibrating Unit := do
  if self.testTone then do
    match ← Fallible.attempt (Bench.setTestTone true self.toneOn) with
    | .error _ => Fallible.of self.unavailable
    | .ok () => self.adjustKeyed validateCandidate
  else self.adjustKeyed validateCandidate

end KeyedAdjustment

/-! ## Receive noise -/

/-- What the calibration reads of the status. -/
structure RadioStatus where
  receiveInputPeak : F64
  receiveRssiPeak : Int
  receiveRssiUpdated : Bool
  receiveInputRailSamples : Nat

/-- `PCM_SCALE` -/
def PCM_SCALE : Rat := 32768

/-- `RX_NOISE_TARGET` -/
def RX_NOISE_TARGET : Rat := 27000 / PCM_SCALE

/-- `RX_NOISE_TOLERANCE` -/
def RX_NOISE_TOLERANCE : Rat := 2750 / PCM_SCALE

/-- The `f32` nearest to an exact result. -/
def rounded (value : Rat) : F64 :=
  F64.ofRatio F64.binary32 (decide (value < 0)) value.num.natAbs value.den

/-- `receive_input_peak.max(1.0 / PCM_SCALE)` -/
def RadioStatus.measured (status : RadioStatus) : F64 :=
  if (F64.finite (1 / PCM_SCALE)).lt status.receiveInputPeak then status.receiveInputPeak
  else .finite (1 / PCM_SCALE)

/-- `(measured - RX_NOISE_TARGET).abs() <= RX_NOISE_TOLERANCE` -/
def inRange : F64 → Bool
  | .finite measured =>
    (rounded (measured - RX_NOISE_TARGET)).le (.finite RX_NOISE_TOLERANCE) &&
      (F64.finite (-RX_NOISE_TOLERANCE)).le (rounded (measured - RX_NOISE_TARGET))
  | _ => false

/-- `(level as f32 * RX_NOISE_TARGET / measured).round() as u32` -/
def scaledLevel (level : Nat) (measured : F64) : Nat :=
  match rounded (level * RX_NOISE_TARGET), measured with
  | .finite product, .finite measured =>
    match rounded (product / measured) with
    | .finite quotient => (quotient + 1 / 2).floor.toNat
    | _ => 0
  | _, _ => 0

/-- What the sweep knows in front of an attempt. -/
structure Sweep where
  level : Nat
  /-- The loudest unclipped level, with its peak. -/
  best : Option (Nat × F64)
  attempts : Nat

namespace Sweep

variable (self : Sweep)

/-- The sweep in front of its first level. -/
def start : Sweep := ⟨2, none, 0⟩

/-- The level of the next attempt. -/
def nextLevel (attempt : Nat) (measured : F64) : Nat :=
  if attempt ≤ 2 then max 1 (min 999 (scaledLevel self.level measured))
  else if measured.lt (.finite (RX_NOISE_TARGET - RX_NOISE_TOLERANCE)) then min (self.level + 1) 999
  else if (F64.finite (RX_NOISE_TARGET + RX_NOISE_TOLERANCE)).lt measured then
    max (self.level - 1) 1
  else self.level

/-- The best level behind a reading. -/
def better (status : RadioStatus) : Option (Nat × F64) :=
  if status.receiveInputRailSamples = 0 && status.measured.le 1 &&
      self.best.all fun best => best.2.lt status.measured then
    some (self.level, status.measured)
  else self.best

/-- One reading: whether it ends the sweep, and what is known behind it. -/
def turn (attempt : Nat) (status : RadioStatus) : Bool × Sweep :=
  if inRange status.measured && 5 < attempt then
    (true, ⟨self.level, some (self.level, status.measured), attempt + 1⟩)
  else
    (false, ⟨self.nextLevel attempt status.measured, self.better status, attempt + 1⟩)

end Sweep

/-- The receive options of the station that the calibration reads. -/
structure StationReceive where
  flat : Bool
  dsp : Bool

/-- The answers to a calibration of the receiver's noise. -/
structure NoiseCalibration where
  channel : Except Str Unit
  read : Except Str Unit
  stationConfig : Except Str StationReceive
  /-- The destinations of the gain and of the squelch level. -/
  hardwareTarget : Except Str (Str × Str)
  receiveTarget : Except Str (Str × Str)
  mixer : Nat → Except Str Unit
  status : Nat → Except Str RadioStatus
  mixerChosen : Except Str Unit
  /-- The readings while the noise is measured. -/
  reading : Nat → Except Str RadioStatus
  /-- The text of the gain of a mixer level. -/
  gain : Nat → Str
  /-- The resolver's answer for the text that is about to be stored. -/
  accepts : Str → Except Str Unit
  answers : Answers

namespace NoiseCalibration

variable (self : NoiseCalibration)

/-- Up to the first request: the destination of the gain, and with DSP that of the squelch level. -/
def prepare : Except Str ((Str × Str) × Option (Str × Str)) := do
  self.channel
  self.read
  let station ← self.stationConfig
  if !station.flat then .error "RX noise calibration requires receive_audio_source = flat".toList
  else do
    let hardware ← self.hardwareTarget
    if station.dsp then do
      let receive ← self.receiveTarget
      pure (hardware, some receive)
    else pure (hardware, none)

/-- The attempts from `attempt` on, of which there are `remaining`. -/
def sweepFrom : (remaining attempt : Nat) → Sweep → Calibrating Sweep
  | 0, _, sweep => pure sweep
  | remaining + 1, attempt, sweep => do
    Bench.setHardwareMixer sweep.level (self.mixer attempt)
    let status ← Fallible.of (self.status attempt)
    match sweep.turn attempt status with
    | (true, sweep) => pure sweep
    | (false, sweep) => sweepFrom remaining (attempt + 1) sweep

/-- The first completed measurement of the noise, of `remaining` readings. -/
def measureNoise : (remaining reading : Nat) → Except Str RadioStatus
  | 0, _ => .error "DSP noise measurement did not complete during calibration".toList
  | remaining + 1, reading => do
    let status ← self.reading reading
    if status.receiveRssiUpdated then pure status else measureNoise remaining (reading + 1)

/-- The squelch level above the measured noise. -/
def threshold (status : RadioStatus) : Nat :=
  let normalized := (((32767 - status.receiveRssiPeak) * 999).tdiv 32767)
  min ((max 0 (min 999 normalized)).toNat + 150) 999

/-- The text with the level, and the squelch level where the noise was measured. -/
def candidate (text : Str) (level : Nat) (hardware : Str × Str)
    (squelch : Option ((Str × Str) × RadioStatus)) : Except Str Str := do
  let updated ← edited (.setValue hardware.1 hardware.2 (self.gain level)) text
  let updated ← match squelch with
    | none => pure updated
    | some (receive, status) =>
      edited (.setValue receive.1 receive.2 (toString (threshold status)).toList) updated
  self.accepts updated
  pure updated

/-- The squelch's destination with the measured noise, where the carrier is detected by DSP. -/
def measureSquelch : Option (Str × Str) → Except Str (Option ((Str × Str) × RadioStatus))
  | none => pure none
  | some receive => do
    let status ← self.measureNoise 20 0
    pure (some (receive, status))

/-- `calibrate_receive_noise`. -/
def calibrateReceiveNoise : Calibrating Unit := do
  let b ← Fallible.get
  let (hardware, receive) ← Fallible.of self.prepare
  let sweep ← self.sweepFrom 48 0 .start
  match sweep.best with
  | none => Fallible.fail ("RX noise calibration failed after ".toList ++
      (toString sweep.attempts).toList ++
      " attempts; no unclipped mixer setting was measured".toList)
  | some (level, _) => do
    Bench.setHardwareMixer level self.mixerChosen
    let squelch ← Fallible.of (self.measureSquelch receive)
    let candidate ← Fallible.of (self.candidate b.stored level hardware squelch)
    Bench.applyGeneration b.stored candidate self.answers

end NoiseCalibration

/-! ## Operations -/

/-- The operations that work on the live station. -/
inductive LiveOperation where
  | flash (bursts : Flash)
  | adjust (adjustment : KeyedAdjustment)
  | calibrateNoise (calibration : NoiseCalibration)
  /-- The calibrations of the receive gain. -/
  | calibrateGain (read : Except Str Unit) (calibration : GainCalibration)

/-- The effect of an operation. -/
def LiveOperation.run (validateCandidate : Validation) : LiveOperation → Calibrating Unit
  | .flash bursts => do
    let _ ← bursts.flashTransmitter
  | .adjust adjustment => adjustment.adjustKeyedSetting validateCandidate
  | .calibrateNoise calibration => calibration.calibrateReceiveNoise
  | .calibrateGain read calibration => do
    let _ ← Bench.onSession (calibration.calibrateReceiveGain validateCandidate read)

end Tune
end UsbRadioPlus
