import UsbRadioPlus.Rust.FloatArithmetic
import UsbRadioPlus.Sys.Run

/-!
# The gain rider (`rust/rms-agc/src/core.rs`, `lib.rs`)

The rider follows the loudness of a detector with the gain of a program, sample by sample. A thousand
times a second `updateGain` chooses a destination, and the gain moves there in equal steps. The host
processes blocks of any length, with the controls as it finds them in front of a block.

The functions of the mathematical library and the loudness meter are foreign. A call of the meter that
fails is a panic. The counters stay far below the bound of `u32`.
-/

namespace UsbRadioPlus.RmsAgc

open Rust Sys

/-! ## Foreign parts -/

/-- The functions whose precision is not specified. -/
structure Libm where
  expM1 : F64 → F64
  log10 : F64 → F64
  powf : F64 → F64 → F64

/-- `EbuR128` for one channel, with a window of 3000 ms at most. -/
structure EbuR128 (M : Type) where
  new : (rate : Nat) → M
  addFrames : M → F64 → Option M
  loudnessWindow : M → (window : Nat) → Option F64
  reset : M → M

/-- A sample is a frame of one channel, and a window that fits can be measured. -/
structure EbuR128.Accepts {M : Type} (meter : EbuR128 M) : Prop where
  addFrames : ∀ m sample, (meter.addFrames m sample).isSome
  loudnessWindow : ∀ m window, window ≤ 3000 → (meter.loudnessWindow m window).isSome

/-! ## Settings -/

/-- A control's finite range and fallback. -/
def SPECS : Vector (F64 × F64 × F64) 10 :=
  #v[(-40, -3, -23),
    (400, 3000, 400),
    (0.1, 100, 2),
    (0.1, 100, 6),
    (0, 30, 6),
    (0, 60, 6),
    (-100, -3, -50),
    (0, 12, 3),
    (0, 10000, 500),
    (0, 6, 1)]

/-- A rate that the rider supports. -/
structure SampleRate where
  hz : Nat
  supported : 8000 ≤ hz ∧ hz ≤ 384000
  deriving DecidableEq

/-- `SampleRate::new` -/
def SampleRate.new (rate : Nat) : Option SampleRate :=
  if h : 8000 ≤ rate ∧ rate ≤ 384000 then some ⟨rate, h⟩ else none

/-- The ten controls of the plug-in. -/
abbrev Controls : Type := Vector F64 10

/-- Finite, range-checked controls. -/
structure Settings where
  values : Controls
  ranged : ∀ i : Fin 10, SPECS[i].1.le values[i] = true ∧ values[i].le SPECS[i].2.1 = true

/-- The value of a port. -/
def portValue (port : Option F64) (spec : F64 × F64 × F64) : F64 :=
  let input := port.getD spec.2.2
  (if input.isFinite then input else spec.2.2).clampTo spec.1 spec.2.1

theorem specs_numbers : ∀ i : Fin 10, SPECS[i].1.isNan = false ∧ SPECS[i].2.1.isNan = false ∧
    SPECS[i].2.2.isNan = false ∧ SPECS[i].1.le SPECS[i].2.1 = true := by
  decide +kernel

theorem portValue_ranged (port : Option F64) (i : Fin 10) :
    SPECS[i].1.le (portValue port SPECS[i]) = true ∧
      (portValue port SPECS[i]).le SPECS[i].2.1 = true := by
  obtain ⟨hmin, hmax, hfallback, hle⟩ := specs_numbers i
  refine F64.clampTo_ranged ?_ hmin hmax hle
  split
  · next hfinite =>
    cases hinput : port.getD SPECS[i].2.2 with
    | nan =>
      rw [hinput] at hfinite
      cases hfinite
    | infinite negative => rfl
    | negZero => rfl
    | finite value => rfl
  · exact hfallback

/-- `Settings::from_ports` -/
def Settings.fromPorts (ports : Vector (Option F64) 10) : Settings where
  values := Vector.ofFn fun i => portValue ports[i] SPECS[i]
  ranged i := by
    have hvalue : (Vector.ofFn fun i => portValue ports[i] SPECS[i])[i] = portValue ports[i] SPECS[i] :=
      Vector.getElem_ofFn i.isLt
    rw [hvalue]
    exact portValue_ranged ports[i] i

/-- `==` of two settings. -/
def Settings.same (a b : Settings) : Bool := (List.finRange 10).all fun i => a.values[i].eq b.values[i]

/-! ## State -/

/-- What a call of `update_gain` finds. -/
structure GainUpdate where
  rampRemaining : Nat
  gain : F64
  destinationGain : F64
  stopped : Bool
  deriving DecidableEq

/-- The gain rider, with the updates it has made as history. -/
@[ext]
structure GainRider (M : Type) where
  rate : SampleRate
  settings : Option Settings
  fastCoefficient : F64
  fastPower : F64
  meter : M
  meterPhase : Nat
  loudness : Option F64
  openingPower : F64
  closingPower : F64
  gain : F64
  destinationGain : F64
  gainStep : F64
  gainDb : F64
  holdSamples : F64
  acquisitionSamples : F64
  activeSamples : F64
  phase : Nat
  elapsed : Nat
  rampRemaining : Nat
  active : Bool
  controls : Controls
  /-- History, from the last reset on: the updates, and the lengths of the ramps. -/
  updates : List GainUpdate
  ramps : List Nat
  /-- The detector closed while the gain was moving, and the gain has not moved since. -/
  stopped : Bool

namespace GainRider

variable {M : Type}

/-- `new` -/
def new (libm : Libm) (meter : EbuR128 M) (rate : SampleRate) : GainRider M where
  rate
  settings := none
  fastCoefficient := -libm.expM1 (-100 / F64.ofU32 rate.hz)
  fastPower := 0
  meter := meter.new rate.hz
  meterPhase := 0
  loudness := none
  openingPower := 0
  closingPower := 0
  gain := 1
  destinationGain := 1
  gainStep := 0
  gainDb := 0
  holdSamples := 0
  acquisitionSamples := 0
  activeSamples := 0
  phase := 0
  elapsed := 0
  rampRemaining := 0
  active := false
  controls := Vector.replicate 10 0
  updates := []
  ramps := []
  stopped := false

/-- `reset` -/
def reset (meter : EbuR128 M) (self : GainRider M) : GainRider M :=
  { self with
    meter := meter.reset self.meter
    settings := none
    fastPower := 0
    meterPhase := 0
    loudness := none
    openingPower := 0
    closingPower := 0
    gain := 1
    destinationGain := 1
    gainStep := 0
    gainDb := 0
    holdSamples := 0
    acquisitionSamples := 0
    activeSamples := 0
    phase := 0
    elapsed := 0
    rampRemaining := 0
    active := false
    controls := Vector.replicate 10 0
    updates := []
    ramps := []
    stopped := false }

/-- The part of `configure` for another window. -/
def configureWindow (meter : EbuR128 M) (self : GainRider M) (settings : Settings) : GainRider M :=
  if self.controls[1].eq settings.values[1] then self
  else { self with
    meter := meter.reset self.meter
    meterPhase := 0
    loudness := none
    acquisitionSamples := settings.values[1] * F64.ofU32 self.rate.hz / 1000 }

/-- `configure` -/
def configure (libm : Libm) (meter : EbuR128 M) (self : GainRider M) (settings : Settings) :
    Option (GainRider M) :=
  if self.settings.any fun old => old.same settings then some self
  else do
    let self := self.configureWindow meter settings
    let control := settings.values
    let gainDb ← (20 * libm.log10 self.gain).clamp (-control[5]) control[4]
    let gain := libm.powf 10 (gainDb / 20)
    pure { self with
      controls := control
      settings := some settings
      openingPower := libm.powf 10 (control[6] / 10)
      closingPower := libm.powf 10 ((control[6] - control[7]) / 10)
      gainDb
      gain
      destinationGain := gain
      rampRemaining := 0
      holdSamples := 0
      stopped := false }

/-! ## A sample -/

/-- The first part of `process`: whether the detector is active. -/
def detect (libm : Libm) (self : GainRider M) (sample : F64) : GainRider M :=
  let power := sample * sample
  let fastPower :=
    (self.fastPower + self.fastCoefficient * (power - self.fastPower)).max 1e-30
  let self := { self with fastPower }
  let self :=
    if self.active then
      if fastPower.lt self.closingPower then
        { self with
          active := false
          holdSamples := 0
          activeSamples := 0
          rampRemaining := 0
          gainDb := 20 * libm.log10 self.gain
          stopped := self.stopped || self.rampRemaining ≠ 0 }
      else self
    else if self.openingPower.le fastPower then { self with active := true }
    else self
  if self.active then { self with activeSamples := self.activeSamples + 1 } else self

/-- `measure_loudness` -/
def measureLoudness (meter : EbuR128 M) (self : GainRider M) (sample : F64) :
    Option (GainRider M) := do
  let measured ← meter.addFrames self.meter sample
  let self := { self with
    meter := measured
    acquisitionSamples := (self.acquisitionSamples - 1).max 0
    meterPhase := self.meterPhase + 10 }
  if self.rate.hz ≤ self.meterPhase then
    let self := { self with meterPhase := self.meterPhase - self.rate.hz }
    if self.acquisitionSamples.eq 0 then
      let level ← meter.loudnessWindow self.meter self.controls[1].toU32
      pure { self with loudness := if level.isFinite then some level else none }
    else pure self
  else pure self

/-- The hold and the change of the gain, in decibels, that `update_gain` decides on. -/
def gainChange (self : GainRider M) (difference wanted : F64) : F64 × F64 :=
  let control := self.controls
  let rate := F64.ofU32 self.rate.hz
  if difference.lt (-control[9]) then
    (0, (wanted - self.gainDb).max (-control[3] * F64.ofU32 self.elapsed / rate))
  else if control[9].lt difference then
    let holdSamples := (self.holdSamples + self.activeSamples).min (control[8] * rate / 1000)
    (holdSamples,
      if (control[8] * rate / 1000).le holdSamples then
        (wanted - self.gainDb).min (control[2] * F64.ofU32 self.elapsed / rate)
      else 0)
  else (0, 0)

/-- `((rate - f64::from(self.phase)) / 1000.0).ceil() as u32` -/
def rampLength (rate phase : Nat) : Nat :=
  ((F64.ofU32 rate - F64.ofU32 phase) / F64.ofU32 1000).ceil.toU32

/-- The end of `update_gain`: the gain moves to its destination from here. -/
def startRamp (libm : Libm) (self : GainRider M) : GainRider M :=
  let destinationGain := libm.powf 10 (self.gainDb / 20)
  let rampRemaining := rampLength self.rate.hz self.phase
  { self with
    destinationGain
    rampRemaining
    gainStep := (destinationGain - self.gain) / F64.ofU32 rampRemaining
    ramps := self.ramps ++ [rampRemaining]
    stopped := false }

/-- `update_gain` -/
def updateGain (libm : Libm) (self : GainRider M) : Option (GainRider M) :=
  let found : GainUpdate := ⟨self.rampRemaining, self.gain, self.destinationGain, self.stopped⟩
  let self := { self with updates := self.updates ++ [found] }
  if !self.active then some { self with holdSamples := 0 }
  else
    match self.loudness with
    | none => some self
    | some level => do
      let wanted := self.controls[0] - level
      let difference := wanted - self.gainDb
      let wanted ← wanted.clamp (-self.controls[5]) self.controls[4]
      let (holdSamples, change) := self.gainChange difference wanted
      pure (startRamp libm { self with
        holdSamples
        gainDb := self.gainDb + change })

/-- The counters of a sample, and the update that may be due. -/
def tick (libm : Libm) (self : GainRider M) : Option (GainRider M) :=
  let self := { self with
    phase := self.phase + 1000
    elapsed := self.elapsed + 1 }
  if self.rate.hz ≤ self.phase then do
    let self ← updateGain libm { self with phase := self.phase - self.rate.hz }
    pure { self with
      elapsed := 0
      activeSamples := 0 }
  else pure self

/-- One step of the ramp. -/
def advanceRamp (self : GainRider M) : GainRider M :=
  if self.rampRemaining ≠ 0 then
    let rampRemaining := self.rampRemaining - 1
    { self with
      gain := if rampRemaining = 0 then self.destinationGain else self.gain + self.gainStep
      rampRemaining }
  else self

/-- `f32::MAX` -/
def F32_MAX : F64 := .finite ((2 ^ 24 - 1) * 2 ^ 104)

/-- The end of `process`: the sample that is heard. -/
def output (self : GainRider M) (program : F64) : F64 :=
  let result := program * self.gain
  if result.isFinite && result.abs.le F32_MAX then result.toF32 else 0

/-- `process`, with samples of `f32`. -/
def process (libm : Libm) (meter : EbuR128 M) (self : GainRider M) (program detector : F64) :
    Option (F64 × GainRider M) := do
  let sample := if detector.isFinite then detector else 0
  let self := self.detect libm sample
  let self ← self.measureLoudness meter (if self.active then sample.toF32 else 0)
  let self ← self.tick libm
  let self := self.advanceRamp
  pure (self.output program, self)

/-- The samples of a block. -/
def processBlock (libm : Libm) (meter : EbuR128 M) :
    GainRider M → List (F64 × F64) → Option (List F64 × GainRider M)
  | self, [] => some ([], self)
  | self, (program, detector) :: rest => do
    let (sample, self) ← self.process libm meter program detector
    let (samples, self) ← processBlock libm meter self rest
    pure (sample :: samples, self)

/-- `Instance::run` with all its buffers connected. -/
def runBlock (libm : Libm) (meter : EbuR128 M) (self : GainRider M)
    (ports : Vector (Option F64) 10) (block : List (F64 × F64)) :
    Option (List F64 × GainRider M) := do
  let self ← self.configure libm meter (.fromPorts ports)
  self.processBlock libm meter block

end GainRider

/-- The bounds of the gain are in order, and the window fits the meter. -/
structure Usable (controls : Controls) : Prop where
  bounds : (-controls[5]).le controls[4] = true
  window : controls[1].toU32 ≤ 3000

/-! ## Runs -/

/-- What the host does with the plug-in. -/
inductive AgcAct where
  | activate
  | run (ports : Vector (Option F64) 10) (block : List (F64 × F64))

/-- The samples from the last reset on, behind `n` samples and more steps. -/
def samplesFrom : (n : Nat) → List AgcAct → Nat
  | n, [] => n
  | _, .activate :: acts => samplesFrom 0 acts
  | n, .run _ block :: acts => samplesFrom (n + block.length) acts

/-- An instance of the effect. -/
def agc {M : Type} (libm : Libm) (meter : EbuR128 M) (rate : SampleRate) :
    System (GainRider M) AgcAct where
  init s := s = .new libm meter rate
  step s
    | .activate => some (s.reset meter)
    | .run ports block => (s.runBlock libm meter ports block).map (·.2)

end UsbRadioPlus.RmsAgc
