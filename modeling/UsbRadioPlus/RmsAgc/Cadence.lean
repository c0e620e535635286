import UsbRadioPlus.RmsAgc.GainRider

/-!
# The cadence of the gain

An update comes every `rate / 1000` samples, rounded by the phase that is left, and a ramp takes
`(rate - phase) / 1000` samples, rounded up. Both are the number of samples until the phase wraps:
`phase + 1000 * rampRemaining < rate` holds between two samples (`Steady`), so a ramp has ended where the
next update is due. It has arrived at its destination, unless the detector closed in the meantime, which
stops the ramp where it is.
-/

namespace UsbRadioPlus.RmsAgc

open Rust Sys GainRider

variable {M : Type} {rate : SampleRate}

/-! ## The length of a ramp -/

/-- The quotient is rounded, but not across an integer. -/
theorem rampLength_eq {hz phase : Nat} (h : phase < hz) (hhz : hz ≤ 384000) :
    rampLength hz phase = (hz - phase + 999) / 1000 := by
  rw [rampLength, F64.ofU32_sub h (by omega)]
  exact F64.toU32_ceil_div (by omega) (by omega) (by omega) (by omega) (by omega) (by omega)

theorem SampleRate.pos (rate : SampleRate) : 0 < rate.hz := by
  have h := rate.supported.1
  omega

/-! ## Controls -/

theorem usable_zero : Usable (Vector.replicate 10 0) where
  bounds := by decide +kernel
  window := by decide +kernel

theorem specs_bounds : SPECS[(4 : Fin 10)].1 = 0 ∧ SPECS[(5 : Fin 10)].1 = 0 ∧
    SPECS[(1 : Fin 10)].2.1 = .ofU32 3000 := by
  decide +kernel

theorem Settings.usable (settings : Settings) : Usable settings.values where
  bounds := by
    have hraise := (settings.ranged 4).1
    have hlower := (settings.ranged 5).1
    rw [specs_bounds.1] at hraise
    rw [specs_bounds.2.1] at hlower
    exact F64.neg_le_of_nonneg hlower hraise
  window := by
    have hwindow := (settings.ranged 1).2
    rw [specs_bounds.2.2] at hwindow
    exact F64.toU32_le hwindow

/-! ## Invariants -/

/-- The ramp has ended, at its destination or where the detector closed. -/
structure GainUpdate.Arrived (update : GainUpdate) : Prop where
  ended : update.rampRemaining = 0
  destination : update.stopped = false → update.gain = update.destinationGain

namespace GainRider

/-- What holds of the gain and its history. -/
structure Settled (rate : SampleRate) (s : GainRider M) : Prop where
  sampled : s.rate = rate
  phase : s.phase < rate.hz
  arrived : s.rampRemaining = 0 → s.stopped = false → s.gain = s.destinationGain
  found : ∀ update ∈ s.updates, update.Arrived
  ramps : ∀ n ∈ s.ramps, 1 ≤ n
  usable : Usable s.controls

/-- Behind `n` samples. Between two samples no slack is left for a ramp, and a sample is left in front of
its step. -/
structure Steady (rate : SampleRate) (slack n : Nat) (s : GainRider M) : Prop extends
    Settled rate s where
  ramp : s.phase + 1000 * s.rampRemaining < rate.hz + slack
  count : s.updates.length * rate.hz + s.phase = n * 1000

/-- An update is due. -/
structure Due (rate : SampleRate) (n : Nat) (s : GainRider M) : Prop extends Settled rate s where
  idle : s.rampRemaining = 0
  count : (s.updates.length + 1) * rate.hz + s.phase = n * 1000

variable {n : Nat} {s : GainRider M} {meter : EbuR128 M}

theorem new_steady (libm : Libm) (meter : EbuR128 M) : (new libm meter rate : GainRider M).Steady rate 0 0 where
  sampled := rfl
  phase := rate.pos
  arrived _ _ := rfl
  found _ h := nomatch h
  ramps _ h := nomatch h
  usable := usable_zero
  ramp := rate.pos
  count := (Nat.zero_mul _).trans (Nat.zero_mul _).symm

theorem reset_steady (meter : EbuR128 M) (h : s.Steady rate 0 n) : (s.reset meter).Steady rate 0 0 where
  sampled := h.sampled
  phase := rate.pos
  arrived _ _ := rfl
  found _ h := nomatch h
  ramps _ h := nomatch h
  usable := usable_zero
  ramp := rate.pos
  count := (Nat.zero_mul _).trans (Nat.zero_mul _).symm

/-- The detector stops a ramp, and says so. -/
theorem detect_steady (libm : Libm) (h : s.Steady rate 0 n) (sample : F64) :
    (s.detect libm sample).Steady rate 0 n := by
  have hactive {s : GainRider M} (hs : s.Steady rate 0 n) :
      (if s.active then { s with activeSamples := s.activeSamples + 1 } else s).Steady rate 0 n := by
    split
    · exact ⟨⟨hs.sampled, hs.phase, hs.arrived, hs.found, hs.ramps, hs.usable⟩, hs.ramp, hs.count⟩
    · exact hs
  have hpower (fastPower : F64) (active : Bool) :
      { s with fastPower, active }.Steady rate 0 n :=
    ⟨⟨h.sampled, h.phase, h.arrived, h.found, h.ramps, h.usable⟩, h.ramp, h.count⟩
  refine hactive ?_
  split
  · split
    · refine ⟨⟨h.sampled, h.phase, fun _ hstopped => ?_, h.found, h.ramps, h.usable⟩, h.phase, h.count⟩
      rw [Bool.or_eq_false_iff] at hstopped
      exact h.arrived (by simpa using hstopped.2) hstopped.1
    · exact hpower _ s.active
  · split
    · exact hpower _ true
    · exact hpower _ s.active

/-- A ramp starts with the update, and takes the samples until the next one. -/
theorem startRamp_steady (libm : Libm) (h : s.Settled rate) (hcount : s.updates.length * rate.hz + s.phase =
    n * 1000) : (s.startRamp libm).Steady rate 1000 n where
  sampled := h.sampled
  phase := h.phase
  arrived hzero _ := by
    have hlength : rampLength s.rate.hz s.phase = 0 := hzero
    have hphase := h.phase
    rw [h.sampled, rampLength_eq h.phase rate.supported.2] at hlength
    omega
  found := h.found
  ramps := by
    simp only [startRamp, List.forall_mem_append, List.forall_mem_singleton]
    refine ⟨h.ramps, ?_⟩
    have hphase := h.phase
    rw [h.sampled, rampLength_eq h.phase rate.supported.2]
    omega
  usable := h.usable
  ramp := by
    change s.phase + 1000 * rampLength s.rate.hz s.phase < _
    have hphase := h.phase
    rw [h.sampled, rampLength_eq h.phase rate.supported.2]
    omega
  count := hcount

theorem measureLoudness_steady (hmeter : meter.Accepts) (h : s.Steady rate 0 n) (sample : F64) :
    ∃ s', s.measureLoudness meter sample = some s' ∧ s'.Steady rate 0 n := by
  obtain ⟨measured, hmeasured⟩ := Option.isSome_iff_exists.mp (hmeter.addFrames s.meter sample)
  have hkept (m : M) (acquisition : F64) (phase : Nat) (loudness : Option F64) :
      { s with
        meter := m
        acquisitionSamples := acquisition
        meterPhase := phase
        loudness }.Steady rate 0 n :=
    ⟨⟨h.sampled, h.phase, h.arrived, h.found, h.ramps, h.usable⟩, h.ramp, h.count⟩
  unfold measureLoudness
  rw [hmeasured]
  simp only [Option.bind_eq_bind, Option.bind_some]
  split
  · split
    · obtain ⟨level, hlevel⟩ := Option.isSome_iff_exists.mp
        (hmeter.loudnessWindow measured _ h.usable.window)
      rw [hlevel]
      exact ⟨_, rfl, hkept measured _ _ _⟩
    · exact ⟨_, rfl, hkept measured _ _ s.loudness⟩
  · exact ⟨_, rfl, hkept measured _ _ s.loudness⟩

theorem updateGain_steady (libm : Libm) (h : s.Due rate n) :
    ∃ s', s.updateGain libm = some s' ∧ s'.Steady rate 1000 n := by
  have hfound : ∀ update ∈ s.updates ++ [⟨s.rampRemaining, s.gain, s.destinationGain, s.stopped⟩],
      GainUpdate.Arrived update := by
    rw [List.forall_mem_append, List.forall_mem_singleton]
    exact ⟨h.found, h.idle, h.arrived h.idle⟩
  have hcount : (s.updates ++ [(⟨s.rampRemaining, s.gain, s.destinationGain, s.stopped⟩ :
      GainUpdate)]).length * rate.hz + s.phase = n * 1000 := by
    rw [List.length_append]
    exact h.count
  have hidle : s.phase + 1000 * s.rampRemaining < rate.hz + 1000 := by
    have hphase := h.phase
    rw [h.idle]
    omega
  unfold updateGain
  dsimp only
  split
  · exact ⟨_, rfl, ⟨h.sampled, h.phase, h.arrived, hfound, h.ramps, h.usable⟩, hidle, hcount⟩
  split
  · exact ⟨_, rfl, ⟨h.sampled, h.phase, h.arrived, hfound, h.ramps, h.usable⟩, hidle, hcount⟩
  · next level _ =>
    rw [F64.clamp, if_pos h.usable.bounds]
    refine ⟨_, rfl, startRamp_steady libm ?_ hcount⟩
    exact ⟨h.sampled, h.phase, h.arrived, hfound, h.ramps, h.usable⟩

/-- No ramp is left where an update is due. -/
theorem tick_steady (libm : Libm) (h : s.Steady rate 0 n) :
    ∃ s', s.tick libm = some s' ∧ s'.Steady rate 1000 (n + 1) := by
  obtain rfl := h.sampled
  have hphase := h.phase
  have hramp := h.ramp
  have hcount := h.count
  have hsupported := s.rate.supported.1
  unfold tick
  dsimp only
  split
  · next hdue =>
    have hready : ({ s with
        phase := s.phase + 1000 - s.rate.hz
        elapsed := s.elapsed + 1 } : GainRider M).Due s.rate (n + 1) :=
      ⟨⟨h.sampled, by dsimp only; omega, h.arrived, h.found, h.ramps, h.usable⟩,
        by dsimp only; omega, by dsimp only; rw [Nat.add_one_mul s.updates.length]; omega⟩
    obtain ⟨s', hrun, hs'⟩ := updateGain_steady libm hready
    refine ⟨{ s' with elapsed := 0, activeSamples := 0 }, ?_, ?_⟩
    · rw [hrun]
      rfl
    · exact ⟨⟨hs'.sampled, hs'.phase, hs'.arrived, hs'.found, hs'.ramps, hs'.usable⟩, hs'.ramp,
        hs'.count⟩
  · next hearly =>
    exact ⟨_, rfl, ⟨h.sampled, by dsimp only; omega, h.arrived, h.found, h.ramps, h.usable⟩,
      by dsimp only; omega, by dsimp only; omega⟩

theorem advanceRamp_steady (h : s.Steady rate 1000 n) : s.advanceRamp.Steady rate 0 n := by
  have hphase := h.phase
  have hramp := h.ramp
  unfold advanceRamp
  split
  · next hmoving =>
    refine ⟨⟨h.sampled, h.phase, fun hzero _ => if_pos hzero, h.found, h.ramps, h.usable⟩, ?_, h.count⟩
    dsimp only
    omega
  · next hidle =>
    exact { h with ramp := by omega }

/-- **A sample keeps the cadence**. -/
theorem process_steady (libm : Libm) (hmeter : meter.Accepts) (h : s.Steady rate 0 n) (program detector : F64) :
    ∃ result s', s.process libm meter program detector =
      some (result, s') ∧ s'.Steady rate 0 (n + 1) := by
  unfold process
  dsimp only
  obtain ⟨measured, hrun, hmeasured⟩ := measureLoudness_steady hmeter
    (detect_steady libm h (if detector.isFinite then detector else 0))
    (if (s.detect libm (if detector.isFinite then detector else 0)).active then
      (if detector.isFinite then detector else 0 : F64).toF32 else 0)
  obtain ⟨ticked, hrun', hticked⟩ := tick_steady libm hmeasured
  rw [hrun]
  simp only [Option.bind_eq_bind, Option.bind_some]
  rw [hrun']
  exact ⟨_, _, rfl, advanceRamp_steady hticked⟩

/-- The samples of a block, by induction on the block. -/
theorem processBlock_steady (libm : Libm) (hmeter : meter.Accepts) (block : List (F64 × F64))
    (h : s.Steady rate 0 n) :
    ∃ result s', s.processBlock libm meter block = some (result, s') ∧
      s'.Steady rate 0 (n + block.length) := by
  induction block generalizing n s with
  | nil => exact ⟨[], s, rfl, h⟩
  | cons frame block ih =>
    obtain ⟨result, s', hrun, hs'⟩ := process_steady libm hmeter h frame.1 frame.2
    obtain ⟨results, s'', hrest, hs''⟩ := ih hs'
    refine ⟨result :: results, s'', ?_, ?_⟩
    · rw [processBlock]
      simp only [hrun, hrest, Option.bind_eq_bind, Option.bind_some]
      rfl
    · rw [List.length_cons, Nat.add_comm block.length, ← Nat.add_assoc]
      exact hs''

theorem configure_steady (libm : Libm) (meter : EbuR128 M) (h : s.Steady rate 0 n) (settings : Settings) :
    ∃ s', s.configure libm meter settings = some s' ∧ s'.Steady rate 0 n := by
  have hwindow : (s.configureWindow meter settings).Steady rate 0 n := by
    unfold configureWindow
    split
    · exact h
    · exact ⟨⟨h.sampled, h.phase, h.arrived, h.found, h.ramps, h.usable⟩, h.ramp, h.count⟩
  unfold configure
  split
  · exact ⟨s, rfl, h⟩
  · have hclamp (x : F64) : ∃ gainDb, x.clamp (-settings.values[5]) settings.values[4] = some gainDb :=
      ⟨_, if_pos settings.usable.bounds⟩
    obtain ⟨gainDb, hgainDb⟩ := hclamp (20 * libm.log10 (s.configureWindow meter settings).gain)
    dsimp only
    rw [hgainDb]
    refine ⟨_, rfl, ⟨hwindow.sampled, hwindow.phase, fun _ _ => rfl, hwindow.found, hwindow.ramps,
      settings.usable⟩, hwindow.phase, hwindow.count⟩

theorem runBlock_eq {libm : Libm} {ports : Vector (Option F64) 10} {block : List (F64 × F64)}
    {configured : GainRider M} (h : s.configure libm meter (.fromPorts ports) = some configured) :
    s.runBlock libm meter ports block = configured.processBlock libm meter block := by
  rw [runBlock, h]
  rfl

theorem runBlock_steady (libm : Libm) (hmeter : meter.Accepts) (h : s.Steady rate 0 n)
    (ports : Vector (Option F64) 10) (block : List (F64 × F64)) :
    ∃ result s', s.runBlock libm meter ports block = some (result, s') ∧
      s'.Steady rate 0 (n + block.length) := by
  obtain ⟨configured, hconfigure, hconfigured⟩ :=
    configure_steady libm meter h (.fromPorts ports)
  obtain ⟨result, s', hrun, hs'⟩ := processBlock_steady libm hmeter block hconfigured
  exact ⟨result, s', (runBlock_eq hconfigure).trans hrun, hs'⟩

/-- What holds behind `n` samples. -/
structure Cadence (rate : SampleRate) (n : Nat) (s : GainRider M) : Prop where
  updates : s.updates.length = n * 1000 / rate.hz
  phase : s.phase < rate.hz
  ramps : ∀ length ∈ s.ramps, 1 ≤ length
  arrived : ∀ update ∈ s.updates, update.Arrived

theorem Steady.cadence (h : s.Steady rate 0 n) : s.Cadence rate n where
  updates := by
    have hcount := h.count
    rw [← hcount, Nat.add_comm, Nat.add_mul_div_right _ _ rate.pos, Nat.div_eq_of_lt h.phase,
      Nat.zero_add]
  phase := h.phase
  ramps := h.ramps
  arrived := h.found

end GainRider

/-! ## Runs -/

section Runs

variable {libm : Libm} {meter : EbuR128 M} {s : GainRider M} {n : Nat}

/-- A step returns, and counts its samples. -/
theorem step_steady (hmeter : meter.Accepts) (h : s.Steady rate 0 n) (act : AgcAct) :
    ∃ s', (agc libm meter rate).step s act = some s' ∧ s'.Steady rate 0 (samplesFrom n [act]) := by
  cases act with
  | activate => exact ⟨s.reset meter, rfl, reset_steady meter h⟩
  | run ports block =>
    obtain ⟨result, s', hrun, hs'⟩ := runBlock_steady libm hmeter h ports block
    refine ⟨s', ?_, hs'⟩
    exact Option.map_eq_some_iff.mpr ⟨_, hrun, rfl⟩

theorem samplesFrom_cons (n : Nat) (act : AgcAct) (acts : List AgcAct) :
    samplesFrom n (act :: acts) = samplesFrom (samplesFrom n [act]) acts := by
  cases act <;> rfl

theorem run_steady (hmeter : meter.Accepts) (acts : List AgcAct) (h : s.Steady rate 0 n) :
    ∃ s', (agc libm meter rate).run s acts = some s' ∧ s'.Steady rate 0 (samplesFrom n acts) := by
  induction acts generalizing n s with
  | nil => exact ⟨s, rfl, h⟩
  | cons act acts ih =>
    obtain ⟨s', hstep, hs'⟩ := step_steady hmeter h act
    obtain ⟨s'', hrun, hs''⟩ := ih hs'
    exact ⟨s'', System.run_cons.mpr ⟨s', hstep, hrun⟩, samplesFrom_cons n act acts ▸ hs''⟩

/-- **The cadence of the gain**, at every rate and behind every run: an update for each millisecond of the
samples, the ramps of one sample at least, and each of them ended where the next update finds it, at its
destination unless the detector closed. No run panics. -/
theorem agc_cadence (libm : Libm) (hmeter : meter.Accepts) (rate : SampleRate) (acts : List AgcAct) :
    ∃ s, (agc libm meter rate).run (.new libm meter rate) acts = some s ∧
      s.Cadence rate (samplesFrom 0 acts) := by
  obtain ⟨s, hrun, hs⟩ := run_steady hmeter acts (new_steady libm meter)
  exact ⟨s, hrun, hs.cadence⟩

end Runs

/-! ## A ramp that the detector stops

Behind a window of silence a sample opens the detector, and the gain starts to rise. The next sample is
silent and closes the detector again. -/

namespace Closing

/-- The library at the few arguments of this run. -/
def libm : Libm where
  expM1 _ := -0.012422199506118572
  log10 x := if x = 1 then 0 else 0.000012501259298719208
  powf _ y := if y = 0 then 1 else if y = -5 then 0.00001 else 1.0002302850208247

/-- Whether there is sound in the window. -/
def meter : EbuR128 Bool where
  new _ := false
  addFrames sound sample := some (sound || !sample.isZero)
  loudnessWindow sound _ := some (if sound then -64 else .infinite true)
  reset _ := false

/-- The lowest rate. -/
def slowest : SampleRate := ⟨8000, by decide⟩

/-- No hysteresis and no hold. -/
def ports : Vector (Option F64) 10 :=
  #v[none, none, none, none, none, none, none, some 0, some 0, none]

/-- The rider in front of the first sample. -/
def opened : GainRider Bool :=
  ((new libm meter slowest).configure libm meter (.fromPorts ports)).getD (new libm meter slowest)

theorem configure_opened :
    (new libm meter slowest).configure libm meter (.fromPorts ports) = some opened := by
  have hsome : ((new libm meter slowest).configure libm meter (.fromPorts ports)).isSome = true := by
    decide +kernel
  obtain ⟨s, hs⟩ := Option.isSome_iff_exists.mp hsome
  rw [opened, hs]
  rfl

/-- `s` behind `k` silent samples. -/
def quiet (s : GainRider Bool) (k : Nat) : GainRider Bool :=
  { s with
    fastPower := if k = 0 then 0 else 1e-30
    acquisitionSamples := .ofU32 (3200 - k)
    meterPhase := 10 * k % 8000
    phase := 1000 * k % 8000
    elapsed := k % 8
    updates := List.replicate (k / 8) ⟨0, 1, 1, false⟩ }

/-- A rider that silence leaves as it is. -/
structure Silent (s : GainRider Bool) : Prop where
  start : s = quiet s 0
  hz : s.rate = slowest
  meter : s.meter = false
  power : ∀ power, power = 0 ∨ power = 1e-30 →
    (power + s.fastCoefficient * (0 * 0 - power)).max 1e-30 = 1e-30
  opening : s.openingPower.le 1e-30 = false
  active : s.active = false
  idle : s.rampRemaining = 0
  gain : s.gain = 1 ∧ s.destinationGain = 1 ∧ s.stopped = false
  counters : s.holdSamples = 0 ∧ s.activeSamples = 0

theorem silent_opened : Silent opened where
  start := by
    have hfast : opened.fastPower = 0 := by decide +kernel
    have hacquisition : opened.acquisitionSamples = .ofU32 3200 := by decide +kernel
    have hcounters : opened.meterPhase = 0 ∧ opened.phase = 0 ∧ opened.elapsed = 0 ∧
        opened.updates = [] := by decide +kernel
    generalize opened = s at *
    cases s
    obtain ⟨rfl, rfl, rfl, rfl⟩ := hcounters
    subst hfast hacquisition
    rfl
  hz := by decide +kernel
  meter := by decide +kernel
  power := by
    rintro power (hpower | hpower) <;> rw [hpower] <;> decide +kernel
  opening := by decide +kernel
  active := by decide +kernel
  idle := by decide +kernel
  gain := by decide +kernel
  counters := by decide +kernel

variable {s : GainRider Bool} {k : Nat}

theorem detect_quiet (h : Silent s) :
    (quiet s k).detect libm 0 = { quiet s k with fastPower := 1e-30 } := by
  have hpower : ((quiet s k).fastPower + (quiet s k).fastCoefficient *
      (0 * 0 - (quiet s k).fastPower)).max 1e-30 = 1e-30 := by
    refine h.power _ ?_
    change (if k = 0 then (0 : F64) else 1e-30) = 0 ∨ (if k = 0 then (0 : F64) else 1e-30) = 1e-30
    split
    · exact .inl rfl
    · exact .inr rfl
  unfold detect
  dsimp only
  rw [hpower]
  have hactive : (quiet s k).active = false := h.active
  have hopening : (quiet s k).openingPower.le 1e-30 = false := h.opening
  rw [hactive, hopening]
  rfl

/-- One sample of the window is used up. -/
theorem acquisition_quiet (hk : k < 3199) :
    (F64.ofU32 (3200 - k) - 1).max 0 = F64.ofU32 (3200 - (k + 1)) ∧
      (F64.ofU32 (3200 - (k + 1))).eq 0 = false := by
  have hone : (1 : F64) = .ofU32 1 := by decide +kernel
  have hzero : (0 : F64) = .finite 0 := by decide +kernel
  rw [hone, hzero, F64.ofU32_sub (by omega) (by omega), Nat.sub_sub]
  constructor
  · simp [F64.max, F64.ofU32, F64.isNan, F64.lt, F64.place]
  · have hmore : ¬ 3199 - k = 0 := by omega
    simp [F64.eq, F64.ofU32, F64.place, hmore]

/-- The measurement of a sample in front of a complete window. -/
theorem measureLoudness_incomplete {M : Type} {meter : EbuR128 M} {s : GainRider M}
    {sample acquisition : F64} {measured : M} (hframe : meter.addFrames s.meter sample = some measured)
    (hacquisition : (s.acquisitionSamples - 1).max 0 = acquisition)
    (hmore : acquisition.eq 0 = false) (hphase : s.meterPhase < s.rate.hz) :
    s.measureLoudness meter sample = some { s with
      meter := measured
      acquisitionSamples := acquisition
      meterPhase := (s.meterPhase + 10) % s.rate.hz } := by
  have hsupported := s.rate.supported.1
  unfold measureLoudness
  rw [hframe]
  simp only [Option.bind_eq_bind, Option.bind_some, hacquisition, hmore]
  split
  · next hwrap =>
    rw [Nat.mod_eq_sub_mod hwrap, Nat.mod_eq_of_lt (by omega)]
    rfl
  · next hearly =>
    rw [Nat.mod_eq_of_lt (by omega)]
    rfl

/-- The counters of a sample, while the detector is closed. -/
theorem tick_inactive {M : Type} (libm : Libm) (s : GainRider M) (hactive : s.active = false)
    (hcounters : s.holdSamples = 0 ∧ s.activeSamples = 0) (hphase : s.phase < s.rate.hz) :
    s.tick libm = some { s with
      phase := (s.phase + 1000) % s.rate.hz
      elapsed := if s.rate.hz ≤ s.phase + 1000 then 0 else s.elapsed + 1
      updates := if s.rate.hz ≤ s.phase + 1000 then
        s.updates ++ [⟨s.rampRemaining, s.gain, s.destinationGain, s.stopped⟩] else s.updates } := by
  have hsupported := s.rate.supported.1
  obtain ⟨hhold, hcount⟩ := hcounters
  cases s
  dsimp only at *
  subst hactive hhold hcount
  unfold tick
  dsimp only
  split
  · next hdue =>
    rw [Nat.mod_eq_sub_mod hdue, Nat.mod_eq_of_lt (by omega)]
    rfl
  · next hearly =>
    rw [Nat.mod_eq_of_lt (by omega)]
    rfl

/-- A sample while the detector is closed and no ramp moves. -/
theorem process_inactive {M : Type} {libm : Libm} {meter : EbuR128 M} {s d m t : GainRider M}
    {program detector : F64} (hdetect : s.detect libm (if detector.isFinite then detector else 0) = d)
    (hactive : d.active = false) (hmeasure : d.measureLoudness meter 0 = some m)
    (htick : m.tick libm = some t) (hidle : t.rampRemaining = 0) :
    s.process libm meter program detector = some (t.output program, t) := by
  have hramp : t.advanceRamp = t := if_neg (not_not.mpr hidle)
  unfold process
  dsimp only
  rw [hdetect, hactive, if_neg Bool.false_ne_true, hmeasure]
  simp only [Option.bind_eq_bind, Option.bind_some, htick, hramp]
  rfl

/-- A silent sample, as one step of the counters. -/
theorem process_quiet (h : Silent s) (hk : k < 3199) :
    ∃ result, (quiet s k).process libm meter 0 0 = some (result, quiet s (k + 1)) := by
  obtain ⟨hacquisition, hmore⟩ := acquisition_quiet hk
  have hrate : s.rate.hz = 8000 := congrArg SampleRate.hz h.hz
  have hactive : (quiet s k).active = false := h.active
  have hcounters : (quiet s k).holdSamples = 0 ∧ (quiet s k).activeSamples = 0 := h.counters
  have hframe : meter.addFrames (quiet s k).meter 0 = some (quiet s k).meter := by
    have hmeter : (quiet s k).meter = false := h.meter
    rw [hmeter]
    decide +kernel
  obtain ⟨d, hd⟩ : ∃ d : GainRider Bool, { quiet s k with fastPower := 1e-30 } = d := ⟨_, rfl⟩
  have hdetect : (quiet s k).detect libm (if F64.isFinite 0 then 0 else 0) = d := by
    rw [ite_self, detect_quiet h, hd]
  obtain ⟨m, hm⟩ : ∃ m : GainRider Bool, { d with
    meter := (quiet s k).meter
    acquisitionSamples := .ofU32 (3200 - (k + 1))
    meterPhase := (d.meterPhase + 10) % d.rate.hz } = m := ⟨_, rfl⟩
  have hmeasure : d.measureLoudness meter 0 = some m := by
    rw [← hm]
    refine measureLoudness_incomplete ?_ ?_ hmore ?_
    · rw [← hd, ← hframe]
    · rw [← hd, ← hacquisition]
      rfl
    · rw [← hd]
      exact hrate ▸ Nat.mod_lt _ (by omega)
  have htick := tick_inactive libm m (by rw [← hm, ← hd]; exact hactive)
    (by rw [← hm, ← hd]; exact hcounters) (by rw [← hm, ← hd]; exact hrate ▸ Nat.mod_lt _ (by omega))
  have hnext : quiet s (k + 1) = { m with
      phase := (m.phase + 1000) % m.rate.hz
      elapsed := if m.rate.hz ≤ m.phase + 1000 then 0 else m.elapsed + 1
      updates := if m.rate.hz ≤ m.phase + 1000 then
        m.updates ++ [⟨m.rampRemaining, m.gain, m.destinationGain, m.stopped⟩] else m.updates } := by
    subst hm hd
    apply GainRider.ext
    case fastPower =>
      change (if k + 1 = 0 then (0 : F64) else 1e-30) = 1e-30
      rw [if_neg (Nat.succ_ne_zero k)]
    case meterPhase =>
      change 10 * (k + 1) % 8000 = (10 * k % 8000 + 10) % s.rate.hz
      rw [hrate]
      omega
    case phase =>
      change 1000 * (k + 1) % 8000 = (1000 * k % 8000 + 1000) % s.rate.hz
      rw [hrate]
      omega
    case elapsed =>
      change (k + 1) % 8 = if s.rate.hz ≤ 1000 * k % 8000 + 1000 then 0 else k % 8 + 1
      split <;> omega
    case updates =>
      have hfound : (⟨s.rampRemaining, s.gain, s.destinationGain, s.stopped⟩ : GainUpdate) =
          ⟨0, 1, 1, false⟩ := by
        rw [h.idle, h.gain.1, h.gain.2.1, h.gain.2.2]
      change List.replicate ((k + 1) / 8) (⟨0, 1, 1, false⟩ : GainUpdate) =
        if s.rate.hz ≤ 1000 * k % 8000 + 1000 then List.replicate (k / 8) ⟨0, 1, 1, false⟩ ++
          [⟨s.rampRemaining, s.gain, s.destinationGain, s.stopped⟩]
        else List.replicate (k / 8) ⟨0, 1, 1, false⟩
      rw [hfound]
      split
      · have hnext : (k + 1) / 8 = k / 8 + 1 := by omega
        rw [hnext, List.replicate_succ']
      · have hsame : (k + 1) / 8 = k / 8 := by omega
        rw [hsame]
    all_goals rfl
  rw [hnext]
  refine ⟨_, process_inactive hdetect ?_ hmeasure htick ?_⟩
  · rw [← hd]
    exact hactive
  · rw [← hm, ← hd]
    exact h.idle

/-- The silence in front of the sample, by induction on its length. -/
theorem processBlock_quiet (h : Silent s) (count : Nat) (hk : k + count ≤ 3199)
    (rest : List (F64 × F64)) {result : List F64} {s' : GainRider Bool}
    (hrest : (quiet s (k + count)).processBlock libm meter rest = some (result, s')) :
    ∃ results, (quiet s k).processBlock libm meter (List.replicate count (0, 0) ++ rest) =
      some (results, s') := by
  induction count generalizing k with
  | zero => exact ⟨result, hrest⟩
  | succ count ih =>
    rw [← Nat.add_assoc, Nat.add_right_comm] at hrest
    obtain ⟨results, hrun⟩ := ih (by omega) hrest
    obtain ⟨sample, hstep⟩ := process_quiet h (k := k) (by omega)
    refine ⟨sample :: results, ?_⟩
    rw [List.replicate_succ, List.cons_append, processBlock, hstep]
    simp only [Option.bind_eq_bind, Option.bind_some, hrun]
    rfl

/-- One block, as a run. -/
theorem run_runBlock {M : Type} {libm : Libm} {meter : EbuR128 M} {rate : SampleRate}
    {s s' : GainRider M} {ports : Vector (Option F64) 10} {block : List (F64 × F64)}
    {result : List F64} (h : s.runBlock libm meter ports block = some (result, s')) :
    (agc libm meter rate).run s [.run ports block] = some s' :=
  System.run_singleton.mpr (Option.map_eq_some_iff.mpr ⟨_, h, rfl⟩)

/-- The sample, and the silence behind it. -/
def sound : List (F64 × F64) := (0, F64.toF32 0.0285) :: List.replicate 8 (0, 0)

end Closing

open Closing in
/-- An update finds the gain in front of its destination. -/
theorem agc_cadence_closing : meter.Accepts ∧ ∃ s,
    (agc libm meter slowest).run (.new libm meter slowest)
      [.run ports (List.replicate 3199 (0, 0) ++ sound)] = some s ∧
    ∃ update ∈ s.updates, update.gain ≠ update.destinationGain := by
  have haccepts : meter.Accepts := ⟨fun _ _ => rfl, fun _ _ _ => rfl⟩
  have hsound : ((quiet opened 3199).processBlock libm meter sound).any (fun x =>
      x.2.updates.any fun update => update.gain ≠ update.destinationGain) = true := by
    decide +kernel
  obtain ⟨⟨result, s⟩, hrun, hs⟩ := (Option.any_eq_true _ _).mp hsound
  have hstart : (quiet opened (0 + 3199)).processBlock libm meter sound = some (result, s) := hrun
  obtain ⟨results, hblock⟩ := processBlock_quiet silent_opened 3199 (by omega) sound hstart
  obtain ⟨update, hupdate, hne⟩ := List.any_eq_true.mp hs
  rw [← silent_opened.start] at hblock
  have hblock := (runBlock_eq configure_opened).trans hblock
  exact ⟨haccepts, s, run_runBlock hblock, update, hupdate, of_decide_eq_true hne⟩

open Closing in
/-- A reset between two blocks. -/
theorem agc_cadence_reset : ∃ s, (agc libm meter slowest).run (.new libm meter slowest)
      [.run ports (List.replicate 3199 (0, 0)), .activate, .run ports sound] = some s ∧
    s.Cadence slowest 9 :=
  agc_cadence libm ⟨fun _ _ => rfl, fun _ _ _ => rfl⟩ slowest _

end UsbRadioPlus.RmsAgc
