import UsbRadioPlus.Tune.Calibration

/-!
# What calibrations leave on the air

Behind an operation the transmitter is not left keyed nor the test tone on, and a receive calibration
that fails behind a change of the receive mixer takes the change back (`SafeRun`). A keyed adjustment
cleans up neither behind a tone nor behind a key that fails, and the calibration of the receive noise
takes the mixer back only where the new configuration is stored and not applied
(`operation_safe_iff`).
-/

namespace UsbRadioPlus
namespace Tune

open UsbRadioPlus.Core UsbRadioPlus.Core.ConfigDocument Rust Sys

/-! ## Safe runs -/

/-- The key that a request sets. -/
def Request.keyed? : Request → Option Bool
  | .transmit keyed _ => some keyed
  | _ => none

/-- The test tone that a request sets. -/
def Request.tone? : Request → Option Bool
  | .testTone enabled => some enabled
  | _ => none

/-- The level of the receive mixer that is requested, directly or by a configuration. -/
def Request.level? (levelOf : Str → Nat) : Request → Option Nat
  | .receiveMixer level => some level
  | .apply text => some (levelOf text)
  | _ => none

/-- What the last request of a kind asks for. -/
def lastOf {α : Type} (kind : Request → Option α) (requests : List Request) : Option α :=
  (requests.filterMap kind).getLast?

/-- An operation on the configuration `text` is safe: the last keying and the last tone request are off,
and a failure behind a change of the receive mixer leaves it, whatever levels configurations have, at
that of `text`. -/
structure SafeRun (text : Str) (result : Except Str Unit) (requests : List Request) : Prop where
  unkeyed : lastOf Request.keyed? requests ≠ some true
  toneless : lastOf Request.tone? requests ≠ some true
  restored : result.isOk = false → (∃ level, .receiveMixer level ∈ requests) →
    ∀ levelOf : Str → Nat, lastOf (Request.level? levelOf) requests = some (levelOf text)

theorem lastOf_append_some {α : Type} (kind : Request → Option α) {requests : List Request}
    {r : Request} {a : α} (h : kind r = some a) : lastOf kind (requests ++ [r]) = some a := by
  rw [lastOf, List.filterMap_append, List.filterMap_cons_some h, List.filterMap_nil,
    List.getLast?_concat]

theorem lastOf_append_none {α : Type} (kind : Request → Option α) {requests added : List Request}
    (h : ∀ r ∈ added, kind r = none) : lastOf kind (requests ++ added) = lastOf kind requests := by
  rw [lastOf, List.filterMap_append, List.filterMap_eq_nil_iff.mpr h, List.append_nil]
  rfl

theorem lastOf_eq_none {α : Type} {kind : Request → Option α} {requests : List Request}
    (h : ∀ r ∈ requests, kind r = none) : lastOf kind requests = none :=
  @lastOf_append_none _ kind [] requests h

/-! ## The parts of the operations -/

namespace Bench

/-- Only requests of one kind are added. -/
def Adds (kind : Request → Prop) (base : List Request) (b : Bench) : Prop :=
  ∃ added, b.requests = base ++ added ∧ ∀ r ∈ added, kind r

variable {kind : Request → Prop} {base : List Request}

theorem Adds.refl (b : Bench) : Adds kind b.requests b := ⟨[], by simp, by simp⟩

theorem returns_request {r : Request} (h : kind r) (answer : Except Str Unit) :
    Fallible.Returns (Adds kind base) (request r answer) := by
  rintro b ⟨added, hrequests, hadded⟩
  refine ⟨answer, { b with requests := b.requests ++ [r] }, rfl, added ++ [r], ?_, ?_⟩
  · rw [hrequests, List.append_assoc]
  · exact List.forall_mem_append.mpr ⟨hadded, by simpa using h⟩

/-- An operation on the configuration asks the radio for nothing but applications. -/
theorem returns_onSession {α : Type} {m : Operating α} (hm : Fallible.Returns (fun _ => True) m)
    (h : ∀ text, kind (.apply text)) : Fallible.Returns (Adds kind base) (onSession m) := by
  rintro b ⟨added, hrequests, hadded⟩
  obtain ⟨r, s, hrun, -⟩ := hm (Session.start b.stored) trivial
  refine ⟨_, _, by rw [onSession, Fallible.within, hrun]; rfl,
    added ++ s.applied.reverse.map .apply, ?_, ?_⟩
  · simp only [hrequests, List.append_assoc]
  · refine List.forall_mem_append.mpr ⟨hadded, fun r hr => ?_⟩
    obtain ⟨text, -, rfl⟩ := List.mem_map.mp hr
    exact h text

end Bench

/-! ### Operations on the configuration end -/

section
variable {restoring : Bool} {original updated : Str} {answers : Answers}
  {validateCandidate : Validation}

/-- The operation ends without a panic. -/
abbrev Ends {α : Type} (m : Operating α) : Prop := Fallible.Returns (fun _ => True) m

theorem ends_writeConfig (contents : Str) (answer : WriteAnswer) :
    Ends (writeConfig restoring contents answer) :=
  .bind (.whenever (.modify fun _ _ => trivial)) fun _ =>
    .bind (.whenever (.modify fun _ _ => trivial)) fun _ _ _ => ⟨_, _, rfl, trivial⟩

theorem ends_apply (answer : Except Str Unit) : Ends (apply restoring answer) :=
  .bind (.whenever (.modify fun _ _ => trivial)) fun _ _ _ => ⟨_, _, rfl, trivial⟩

theorem ends_applyWrittenGeneration : Ends (applyWrittenGeneration restoring original answers) := by
  refine .bind (.attempt (ends_apply _)) fun result => ?_
  rcases result with error | _
  · refine .bind (ends_writeConfig _ _) fun _ => .bind (.attempt (ends_apply _)) fun result => ?_
    rcases result with error | _
    · exact .fail _
    · exact .fail _
  · exact .pure _

theorem ends_applyGeneration : Ends (applyGeneration restoring original updated answers) :=
  .bind (ends_writeConfig _ _) fun _ => ends_applyWrittenGeneration

theorem ends_editSetting (read : Except Str Unit) (edit : Edit) :
    Ends (editSetting validateCandidate read edit answers) := by
  refine .bind (.of _) fun _ => .get fun s _ => .bind (.of _) fun updated => ?_
  split
  · exact .pure _
  · exact .bind (ends_writeConfig _ _) fun _ =>
      .bind (.attempt ends_applyWrittenGeneration) fun _ => .pure _

theorem ends_restoreFailed (calibration : GainCalibration) (current original error : Str) :
    Ends (calibration.restoreFailed current original error) := by
  rw [GainCalibration.restoreFailed]
  split
  · exact .fail _
  · refine .bind (.attempt ends_applyGeneration) fun result => ?_
    rcases result with error | _
    · exact .fail _
    · exact .fail _

theorem ends_calibrateFrom (calibration : GainCalibration) (target : Str × Str) (original : Str)
    (remaining attempt : Nat) (current : Str) :
    Ends (calibration.calibrateFrom validateCandidate target original remaining attempt current) := by
  induction remaining generalizing attempt current with
  | zero => exact ends_restoreFailed _ _ _ _
  | succ remaining ih =>
    refine .bind (.of _) fun candidate => .bind (.attempt ends_applyGeneration) fun result => ?_
    rcases result with error | _
    · exact ends_restoreFailed _ _ _ _
    · simp only
      split
      · exact ends_restoreFailed _ _ _ _
      · split
        · exact .pure _
        · exact ih _ _

theorem ends_calibrateReceiveGain (calibration : GainCalibration) (read : Except Str Unit) :
    Ends (calibration.calibrateReceiveGain validateCandidate read) :=
  .bind (.of _) fun _ => .get fun _ _ => .bind (.of _) fun _ => ends_calibrateFrom _ _ _ _ _ _

end

/-! ## Flash -/

/-- Not a direct request to the receive mixer. -/
def Request.SparesMixer (r : Request) : Prop := ∀ level, r ≠ .receiveMixer level

/-- Where the mixer is spared, a run owes the off requests only. -/
theorem SafeRun.of_spares {text : Str} {result : Except Str Unit} {requests : List Request}
    (hmixer : ∀ r ∈ requests, r.SparesMixer) (hkey : lastOf Request.keyed? requests ≠ some true)
    (htone : lastOf Request.tone? requests ≠ some true) : SafeRun text result requests :=
  ⟨hkey, htone, fun _ ⟨level, hlevel⟩ => absurd rfl (hmixer _ hlevel level)⟩

theorem returns_burstsFrom (bursts : Flash) (base : List Request) (remaining burst : Nat) :
    Fallible.Returns (Bench.Adds Request.SparesMixer base) (bursts.burstsFrom remaining burst) := by
  have hspares (keyed : Bool) (forced : Option Nat) (answer : Except Str Unit) :
      Fallible.Returns (Bench.Adds Request.SparesMixer base) (Bench.setTransmit keyed forced answer) :=
    Bench.returns_request (fun _ h => nomatch h) answer
  have hspares' (enabled : Bool) (answer : Except Str Unit) :
      Fallible.Returns (Bench.Adds Request.SparesMixer base) (Bench.setTestTone enabled answer) :=
    Bench.returns_request (fun _ h => nomatch h) answer
  induction remaining generalizing burst with
  | zero => exact .pure _
  | succ remaining ih =>
    refine .bind (.of _) fun _ => .bind (hspares' _ _) fun _ => .bind (hspares _ _ _) fun _ =>
      .bind (.of _) fun exit => ?_
    cases exit with
    | true => exact .pure _
    | false =>
      refine .bind (hspares _ _ _) fun _ => .bind (hspares' _ _) fun _ => .bind (.of _) fun stopped => ?_
      cases stopped with
      | true => exact .pure _
      | false => exact ih _

/-- The final cleanup comes behind everything that the bursts have asked for. -/
theorem flash_safe (bursts : Flash) (text : Str) : ∃ r b,
    bursts.flashTransmitter ⟨text, []⟩ = some (r, b) ∧
      ∀ result : Except Str Unit, SafeRun text result b.requests := by
  have hsafe (result : Except Str Unit) : SafeRun text result [] :=
    .of_spares (by simp) (by simp [lastOf]) (by simp [lastOf])
  rw [Flash.flashTransmitter]
  rcases hchannel : bursts.channel with error | _
  · exact ⟨_, _, rfl, hsafe⟩
  rcases hbanner : bursts.banner with error | _
  · exact ⟨_, _, rfl, hsafe⟩
  obtain ⟨result, b, hrun, added, hrequests, hadded⟩ :=
    returns_burstsFrom bursts [] 3 0 ⟨text, []⟩ (Bench.Adds.refl _)
  refine ⟨Flash.report result (andThen bursts.unkey bursts.toneOff),
    ⟨b.stored, b.requests ++ [.transmit false none] ++ [.testTone false]⟩, ?_, fun r =>
      .of_spares ?_ ?_ ?_⟩
  · rw [Fallible.bind_apply]
    simp only [Fallible.of, Fallible.bind_apply, Fallible.attempt, hrun, Option.map_some,
      Bench.setTransmit, Bench.setTestTone, Bench.request, Fallible.modify]
  · rw [hrequests, List.nil_append]
    refine List.forall_mem_append.mpr ⟨List.forall_mem_append.mpr ⟨hadded, ?_⟩, ?_⟩
    · simp [Request.SparesMixer]
    · simp [Request.SparesMixer]
  · rw [lastOf_append_none Request.keyed? (by simp [Request.keyed?]), lastOf_append_some Request.keyed? rfl]
    simp
  · rw [lastOf_append_some Request.tone? rfl]
    simp

/-! ## Keyed adjustments -/

/-- What starts the tone and the key succeeds. -/
structure KeyedAdjustment.Starts (adjustment : KeyedAdjustment) : Prop where
  toneOn : adjustment.testTone = true → adjustment.toneOn.isOk = true
  keyOn : adjustment.keyOn.isOk = true

/-- The request applies a text. -/
def Request.IsApply (r : Request) : Prop := ∃ text, r = .apply text

theorem returns_editCatalogSetting (validateCandidate : Validation) (edit : CatalogEdit)
    (base : List Request) : Fallible.Returns (Bench.Adds Request.IsApply base)
      (edit.editCatalogSetting validateCandidate) :=
  .bind (.of _) fun _ => .bind (.of _) fun _ => .bind (.of _) fun _ => .whenever
    (.bind (Bench.returns_onSession (ends_editSetting _ _) fun text => ⟨text, rfl⟩) fun _ => .of _)

namespace KeyedAdjustment

variable (self : KeyedAdjustment) (validateCandidate : Validation)

/-- The request that clears the tone. -/
def clearing : List Request := if self.testTone then [.testTone false] else []

theorem clearTone_run (b : Bench) : ∃ answer,
    self.clearTone b = some (.ok answer, { b with requests := b.requests ++ self.clearing }) := by
  rw [clearTone, clearing]
  cases self.testTone with
  | true => exact ⟨self.toneOff, rfl⟩
  | false =>
    refine ⟨.ok (), ?_⟩
    simp only [Bool.false_eq_true, if_false, List.append_nil]
    rfl

/-- A key that fails is followed by the tone's request alone. -/
theorem adjustKeyed_of_error {error : Str} (h : self.keyOn = .error error) (b : Bench) :
    self.adjustKeyed validateCandidate b = some (self.unavailable,
      { b with requests := b.requests ++ [.transmit true self.forcedCtcss] ++ self.clearing }) := by
  obtain ⟨answer, hclear⟩ := self.clearTone_run
    { b with requests := b.requests ++ [.transmit true self.forcedCtcss] }
  rw [adjustKeyed, h, Fallible.bind_apply]
  simp only [Fallible.attempt, Bench.setTransmit, Bench.request, Fallible.bind_apply,
    Fallible.modify, Fallible.of, Option.map_some, hclear]

/-- Behind a key that succeeds, the edit asks for applications, and the key and the tone are cleared. -/
theorem adjustKeyed_of_ok (h : self.keyOn = .ok ()) (b : Bench) : ∃ r b' applied,
    self.adjustKeyed validateCandidate b = some (r, b') ∧ (∀ r ∈ applied, r.IsApply) ∧
      b'.requests = b.requests ++ [.transmit true self.forcedCtcss] ++ applied ++
        [.transmit false none] ++ self.clearing := by
  obtain ⟨edit, b₁, hedit, applied, hrequests, happlied⟩ :=
    returns_editCatalogSetting validateCandidate self.edit
      (b.requests ++ [.transmit true self.forcedCtcss])
      { b with requests := b.requests ++ [.transmit true self.forcedCtcss] } (Bench.Adds.refl _)
  obtain ⟨toneOff, hclear⟩ := self.clearTone_run
    { b₁ with requests := b₁.requests ++ [.transmit false none] }
  have hrun : self.adjustKeyed validateCandidate b = self.finish edit (andThen self.unkey toneOff)
      { b₁ with requests := b₁.requests ++ [.transmit false none] ++ self.clearing } := by
    rw [adjustKeyed, h, Fallible.bind_apply]
    simp only [Fallible.attempt, Bench.setTransmit, Bench.request, Fallible.bind_apply,
      Fallible.modify, Fallible.of, Option.map_some, hedit, hclear]
  rw [hrun]
  rcases edit with error | _
  · exact ⟨_, _, applied, rfl, happlied, by rw [hrequests]⟩
  · rcases andThen self.unkey toneOff with error | _
    · exact ⟨_, _, applied, rfl, happlied, by rw [hrequests]⟩
    · exact ⟨_, _, applied, rfl, happlied, by rw [hrequests]⟩

theorem keyed_clearing : ∀ r ∈ self.clearing, r.keyed? = none := by
  rw [clearing]
  cases self.testTone <;> simp [Request.keyed?]

/-- The tone is off behind its clearing, if it was ever on. -/
theorem toneless_clearing {requests : List Request}
    (h : self.testTone = false → ∀ r ∈ requests, r.tone? = none) :
    lastOf Request.tone? (requests ++ self.clearing) ≠ some true := by
  rw [clearing]
  cases htone : self.testTone with
  | true =>
    rw [if_pos rfl, lastOf_append_some Request.tone? rfl]
    simp
  | false =>
    rw [if_neg (by simp), List.append_nil, lastOf_eq_none (h htone)]
    simp

/-- What is asked for before the key. -/
def starting : List Request := if self.testTone then [.testTone true] else []

/-- Behind the start of the tone, the run is safe exactly where the key succeeds. -/
theorem adjustKeyed_safe_iff (text : Str) : ∃ r b,
    self.adjustKeyed validateCandidate ⟨text, self.starting⟩ = some (r, b) ∧
      (SafeRun text r b.requests ↔ self.keyOn.isOk = true) := by
  have hstarting : ∀ r ∈ self.starting, r.SparesMixer ∧ (self.testTone = false → r.tone? = none) := by
    rw [starting]
    cases self.testTone <;> simp [Request.SparesMixer]
  rcases hkey : self.keyOn with error | _
  · refine ⟨_, _, self.adjustKeyed_of_error validateCandidate hkey _, iff_of_false (fun h => h.unkeyed ?_) nofun⟩
    rw [lastOf_append_none Request.keyed? self.keyed_clearing, lastOf_append_some Request.keyed? rfl]
  · obtain ⟨r, b, applied, hrun, happlied, hrequests⟩ :=
      self.adjustKeyed_of_ok validateCandidate hkey ⟨text, self.starting⟩
    refine ⟨r, b, hrun, iff_of_true (.of_spares ?_ ?_ ?_) rfl⟩
    · rw [hrequests]
      intro r hr
      simp only [List.mem_append, List.mem_singleton] at hr
      rcases hr with (((hr | rfl) | hr) | rfl) | hr
      · exact (hstarting r hr).1
      · exact fun _ h => nomatch h
      · obtain ⟨applied, rfl⟩ := happlied r hr
        exact fun _ h => nomatch h
      · exact fun _ h => nomatch h
      · rw [clearing] at hr
        split at hr
        · obtain rfl := List.mem_singleton.mp hr
          exact fun _ h => nomatch h
        · nomatch hr
    · rw [hrequests, lastOf_append_none Request.keyed? self.keyed_clearing,
        lastOf_append_some Request.keyed? rfl]
      simp
    · rw [hrequests]
      refine self.toneless_clearing fun htone r hr => ?_
      simp only [List.mem_append, List.mem_singleton] at hr
      rcases hr with ((hr | rfl) | hr) | rfl
      · exact (hstarting r hr).2 htone
      · rfl
      · obtain ⟨applied, rfl⟩ := happlied r hr
        rfl
      · rfl

/-- An adjustment is safe exactly where what starts the tone and the key succeeds. -/
theorem adjust_safe_iff (text : Str) : ∃ r b,
    self.adjustKeyedSetting validateCandidate ⟨text, []⟩ = some (r, b) ∧
      (SafeRun text r b.requests ↔ self.Starts) := by
  obtain ⟨r, b, hrun, hsafe⟩ := self.adjustKeyed_safe_iff validateCandidate text
  rw [adjustKeyedSetting]
  cases htone : self.testTone with
  | false =>
    rw [starting, htone] at hrun
    exact ⟨r, b, hrun, hsafe.trans
      ⟨fun h => ⟨fun htrue => (nomatch htone.symm.trans htrue), h⟩, fun h => h.keyOn⟩⟩
  | true =>
    rcases hon : self.toneOn with error | _
    · refine ⟨self.unavailable, ⟨text, [.testTone true]⟩, rfl,
        iff_of_false (fun h => h.toneless rfl) fun h => ?_⟩
      have := h.toneOn htone
      rw [hon] at this
      nomatch this
    · rw [starting, htone] at hrun
      exact ⟨r, b, hrun, hsafe.trans ⟨fun h => ⟨fun _ => by rw [hon]; rfl, h⟩, fun h => h.keyOn⟩⟩

end KeyedAdjustment

/-! ## Receive noise -/

namespace NoiseCalibration

variable (self : NoiseCalibration)

/-- How the sweep ends by its answers. -/
def swept : (remaining attempt : Nat) → Sweep → Except Str Sweep
  | 0, _, sweep => .ok sweep
  | remaining + 1, attempt, sweep => do
    self.mixer attempt
    let status ← self.status attempt
    match sweep.turn attempt status with
    | (true, sweep) => .ok sweep
    | (false, sweep) => swept remaining (attempt + 1) sweep

/-- How the calibration of `text` goes up to the write: the new text, or the first call or check that
fails. -/
def prepared (text : Str) : (Str × Str) × Option (Str × Str) → Except Str Str
  | (hardware, receive) => do
    let sweep ← self.swept 48 0 .start
    match sweep.best with
    | none => .error ("RX noise calibration failed after ".toList ++
        (toString sweep.attempts).toList ++
        " attempts; no unclipped mixer setting was measured".toList)
    | some (level, _) => do
      self.mixerChosen
      let squelch ← self.measureSquelch receive
      self.candidate text level hardware squelch

/-- Behind the first request nothing fails but the application of the new text, and where that fails
the text from before is written back. -/
def TakesBack (text : Str) : Prop :=
  ∀ targets, self.prepare = .ok targets → ∃ updated, self.prepared text targets = .ok updated ∧
    self.answers.write.result.isOk = true ∧
    (self.answers.apply.isOk = true ∨ self.answers.restore.result.isOk = true ∨ updated = text)

/-- The levels that were requested directly. -/
def direct (levels : List Nat) : List Request := levels.map .receiveMixer

theorem sweepFrom_run (remaining attempt : Nat) (sweep : Sweep) (b : Bench) : ∃ levels,
    self.sweepFrom remaining attempt sweep b = some (self.swept remaining attempt sweep,
      { b with requests := b.requests ++ direct levels }) ∧ (remaining ≠ 0 → levels ≠ []) := by
  induction remaining generalizing attempt sweep b with
  | zero => exact ⟨[], by simp [sweepFrom, swept, direct]; rfl, fun h => absurd rfl h⟩
  | succ remaining ih =>
    rcases hmixer : self.mixer attempt with error | _
    · exact ⟨[sweep.level], by rw [sweepFrom, swept, hmixer]; rfl, fun _ => by simp⟩
    rcases hstatus : self.status attempt with error | status
    · exact ⟨[sweep.level], by rw [sweepFrom, swept, hmixer, hstatus]; rfl, fun _ => by simp⟩
    -- behind both answers the turn decides
    have hrun : self.sweepFrom (remaining + 1) attempt sweep b =
        (match sweep.turn attempt status with
          | (true, next) => pure next
          | (false, next) => self.sweepFrom remaining (attempt + 1) next)
        { b with requests := b.requests ++ [Request.receiveMixer sweep.level] } := by
      rw [sweepFrom, hmixer, hstatus]
      rfl
    have hswept : self.swept (remaining + 1) attempt sweep =
        match sweep.turn attempt status with
        | (true, next) => .ok next
        | (false, next) => self.swept remaining (attempt + 1) next := by
      rw [swept, hmixer, hstatus]
      rfl
    rw [hrun, hswept]
    rcases sweep.turn attempt status with ⟨_ | _, next⟩
    · obtain ⟨levels, hrest, -⟩ := ih (attempt + 1) next
        { b with requests := b.requests ++ [.receiveMixer sweep.level] }
      refine ⟨sweep.level :: levels, hrest.trans ?_, fun _ => by simp⟩
      simp only [direct, List.map_cons, List.append_assoc, List.singleton_append]
    · exact ⟨[sweep.level], rfl, fun _ => by simp⟩

/-- Up to the write every request is one to the receive mixer, and the first attempt makes one. -/
theorem calibrate_run (text : Str) {targets : (Str × Str) × Option (Str × Str)}
    (h : self.prepare = .ok targets) : ∃ levels, levels ≠ [] ∧
      self.calibrateReceiveNoise ⟨text, []⟩ =
        (Fallible.of (self.prepared text targets) >>= fun updated =>
          Bench.applyGeneration text updated self.answers) ⟨text, direct levels⟩ := by
  obtain ⟨hardware, receive⟩ := targets
  obtain ⟨levels, hsweep, hlevels⟩ := self.sweepFrom_run 48 0 .start ⟨text, []⟩
  rw [List.nil_append] at hsweep
  have hrun : self.calibrateReceiveNoise ⟨text, []⟩ =
      (self.sweepFrom 48 0 .start >>= fun sweep => match sweep.best with
        | none => Fallible.fail ("RX noise calibration failed after ".toList ++
            (toString sweep.attempts).toList ++
            " attempts; no unclipped mixer setting was measured".toList)
        | some (level, _) => do
          Bench.setHardwareMixer level self.mixerChosen
          let squelch ← Fallible.of (self.measureSquelch receive)
          let candidate ← Fallible.of (self.candidate text level hardware squelch)
          Bench.applyGeneration text candidate self.answers) ⟨text, []⟩ := by
    rw [calibrateReceiveNoise, h]
    rfl
  rw [hrun, Fallible.bind_apply, hsweep, prepared]
  rcases self.swept 48 0 .start with error | ⟨_, best, attempts⟩
  · exact ⟨levels, hlevels (by simp), rfl⟩
  rcases best with _ | ⟨level, peak⟩
  · exact ⟨levels, hlevels (by simp), rfl⟩
  refine ⟨levels ++ [level], by simp, ?_⟩
  have hdirect : direct (levels ++ [level]) = direct levels ++ [.receiveMixer level] := by
    rw [direct, List.map_append]
    rfl
  rw [hdirect]
  rcases self.mixerChosen with error | _
  · rfl
  rcases self.measureSquelch receive with error | squelch
  · rfl
  · rfl

/-- Where only the receive mixer and applications are asked for, a failure must end with the
application of the text from before. -/
theorem safeRun_iff {text : Str} {result : Except Str Unit} {levels : List Nat} {applied : List Str}
    (hlevels : levels ≠ []) :
    SafeRun text result (direct levels ++ applied.map .apply) ↔
      (result.isOk = false → applied.getLast? = some text) := by
  have hspares {α : Type} {kind : Request → Option α} (hmixer : ∀ level, kind (.receiveMixer level) = none)
      (happly : ∀ text, kind (.apply text) = none) :
      lastOf kind (direct levels ++ applied.map .apply) = none := by
    refine lastOf_eq_none fun r hr => ?_
    rcases List.mem_append.mp hr with hr | hr
    · obtain ⟨level, -, rfl⟩ := List.mem_map.mp hr
      exact hmixer level
    · obtain ⟨applied, -, rfl⟩ := List.mem_map.mp hr
      exact happly applied
  have hlast (levelOf : Str → Nat) : lastOf (Request.level? levelOf)
      (direct levels ++ applied.map .apply) = (levels ++ applied.map levelOf).getLast? := by
    rw [lastOf, List.filterMap_append, direct, List.filterMap_map, List.filterMap_map]
    exact congrArg List.getLast? (congrArg₂ (· ++ ·) List.filterMap_some (congrFun List.filterMap_eq_map' applied))
  constructor
  · intro h hfailed
    obtain ⟨front, level, rfl⟩ := (List.eq_nil_or_concat' levels).resolve_left hlevels
    have hrestored := h.restored hfailed ⟨level, by simp [direct]⟩
    rcases List.eq_nil_or_concat' applied with rfl | ⟨before, last, rfl⟩
    · have := hrestored fun _ => level + 1
      rw [hlast] at this
      simp at this
    · have := hrestored fun t => if t = text then 0 else 1
      rw [hlast, List.map_append, ← List.append_assoc, List.map_singleton, List.getLast?_concat] at this
      rw [List.getLast?_concat]
      by_contra hne
      rw [if_neg fun heq => hne (congrArg some heq)] at this
      exact absurd this (by simp)
  · intro h
    refine ⟨by rw [hspares (fun _ => rfl) fun _ => rfl]; simp,
      by rw [hspares (fun _ => rfl) fun _ => rfl]; simp, fun hfailed _ levelOf => ?_⟩
    rw [hlast, List.getLast?_append, List.getLast?_map, h hfailed]
    rfl

/-- A calibration is safe exactly where it takes back what it has changed. -/
theorem noise_safe_iff (text : Str) : ∃ r b, self.calibrateReceiveNoise ⟨text, []⟩ = some (r, b) ∧
    (SafeRun text r b.requests ↔ self.TakesBack text) := by
  rcases hprepare : self.prepare with error | targets
  · refine ⟨.error error, ⟨text, []⟩, by rw [calibrateReceiveNoise, hprepare]; rfl,
      iff_of_true (.of_spares (by simp) (by simp [lastOf]) (by simp [lastOf])) fun targets h => ?_⟩
    rw [hprepare] at h
    nomatch h
  obtain ⟨levels, hlevels, hrun⟩ := self.calibrate_run text hprepare
  have htakes : self.TakesBack text ↔ ∃ updated, self.prepared text targets = .ok updated ∧
      self.answers.write.result.isOk = true ∧
      (self.answers.apply.isOk = true ∨ self.answers.restore.result.isOk = true ∨ updated = text) :=
    ⟨fun h => h targets hprepare, fun h targets' h' => Except.ok.inj (hprepare.symm.trans h') ▸ h⟩
  have hends (applied : List Str) (result : Except Str Unit) (b : Bench)
      (h : b.requests = direct levels ++ applied.map .apply) :
      SafeRun text result b.requests ↔ (result.isOk = false → applied.getLast? = some text) :=
    h ▸ safeRun_iff hlevels
  rw [hrun, htakes]
  rcases self.prepared text targets with error | updated
  · refine ⟨_, _, rfl, (hends [] _ _ (by simp)).trans (iff_of_false (fun h => ?_) (by simp))⟩
    nomatch h rfl
  simp only [Except.ok.injEq, exists_eq_left']
  have hgeneration : (Fallible.of (.ok updated) >>= fun updated =>
      Bench.applyGeneration text updated self.answers) ⟨text, direct levels⟩ =
      Bench.applyGeneration text updated self.answers ⟨text, direct levels⟩ := rfl
  rw [hgeneration]
  obtain ⟨write, apply, restore, reapply⟩ := self.answers
  cases write with
  | refused error =>
    exact ⟨_, _, rfl, (hends [] _ _ (by simp)).trans (iff_of_false (fun h => nomatch h rfl) nofun)⟩
  | unsynced error =>
    exact ⟨_, _, rfl, (hends [] _ _ (by simp)).trans (iff_of_false (fun h => nomatch h rfl) nofun)⟩
  | written =>
    rcases apply with applyError | _
    · have hunrestored : ([updated].getLast? = some text) ↔ updated = text := by simp
      cases restore with
      | refused error =>
        exact ⟨_, _, rfl, (hends [updated] _ _ rfl).trans
          ⟨fun h => ⟨rfl, .inr (.inr (hunrestored.mp (h rfl)))⟩, fun h _ => hunrestored.mpr
            ((h.2.resolve_left nofun).resolve_left nofun)⟩⟩
      | unsynced error =>
        exact ⟨_, _, rfl, (hends [updated] _ _ rfl).trans
          ⟨fun h => ⟨rfl, .inr (.inr (hunrestored.mp (h rfl)))⟩, fun h _ => hunrestored.mpr
            ((h.2.resolve_left nofun).resolve_left nofun)⟩⟩
      | written =>
        rcases reapply with rollbackError | _
        · exact ⟨_, _, rfl, (hends [updated, text] _ _ (by simp)).trans
            (iff_of_true (fun _ => rfl) ⟨rfl, .inr (.inl rfl)⟩)⟩
        · exact ⟨_, _, rfl, (hends [updated, text] _ _ (by simp)).trans
            (iff_of_true (fun _ => rfl) ⟨rfl, .inr (.inl rfl)⟩)⟩
    · exact ⟨_, _, rfl, (hends [updated] _ _ rfl).trans (iff_of_true nofun ⟨rfl, .inl rfl⟩)⟩

end NoiseCalibration

/-! ## Every operation -/

/-- The operation succeeds where it must to be safe. -/
def LiveOperation.Meets (text : Str) : LiveOperation → Prop
  | .flash _ => True
  | .adjust adjustment => adjustment.Starts
  | .calibrateNoise calibration => calibration.TakesBack text
  | .calibrateGain _ _ => True

/-- Which operations are safe, whatever fails in them. -/
theorem operation_safe_iff (validateCandidate : Validation) (operation : LiveOperation) (text : Str) :
    ∃ r b, operation.run validateCandidate ⟨text, []⟩ = some (r, b) ∧
      (SafeRun text r b.requests ↔ operation.Meets text) := by
  cases operation with
  | flash bursts =>
    obtain ⟨result, b, hrun, hsafe⟩ := flash_safe bursts text
    rw [LiveOperation.run, Fallible.bind_apply, hrun]
    rcases result with error | _
    · exact ⟨_, _, rfl, iff_of_true (hsafe _) trivial⟩
    · exact ⟨_, _, rfl, iff_of_true (hsafe _) trivial⟩
  | adjust adjustment => exact adjustment.adjust_safe_iff validateCandidate text
  | calibrateNoise calibration => exact calibration.noise_safe_iff text
  | calibrateGain read calibration =>
    have hends : Fallible.Returns (Bench.Adds Request.IsApply [])
        (Bench.onSession (calibration.calibrateReceiveGain validateCandidate read)) :=
      Bench.returns_onSession (ends_calibrateReceiveGain calibration read) fun text => ⟨text, rfl⟩
    obtain ⟨result, b, hrun, added, hrequests, hadded⟩ := hends ⟨text, []⟩ (Bench.Adds.refl _)
    have hsafe (result : Except Str Unit) : SafeRun text result b.requests := by
      rw [hrequests, List.nil_append]
      refine .of_spares (fun r hr => ?_) ?_ ?_
      · obtain ⟨applied, rfl⟩ := hadded r hr
        exact fun _ h => nomatch h
      · rw [lastOf_eq_none fun r hr => by obtain ⟨applied, rfl⟩ := hadded r hr; rfl]
        simp
      · rw [lastOf_eq_none fun r hr => by obtain ⟨applied, rfl⟩ := hadded r hr; rfl]
        simp
    rw [LiveOperation.run, Fallible.bind_apply, hrun]
    rcases result with error | _
    · exact ⟨_, _, rfl, iff_of_true (hsafe _) trivial⟩
    · exact ⟨_, _, rfl, iff_of_true (hsafe _) trivial⟩

/-- The transmitter is asked to key, and the request fails. -/
def failedKey : KeyedAdjustment where
  testTone := false
  forcedCtcss := some 1000
  toneOn := .ok ()
  keyOn := .error "key failed".toList
  unavailable := .ok ()
  edit := ⟨.ok (), .ok (), .ok false, .removeValue [] [], ⟨.written, .ok (), .written, .ok ()⟩, .ok ()⟩
  unkey := .ok ()
  toneOff := .ok ()
  cleanup := .ok ()

/-- The first reading behind a change of the receive mixer fails. -/
def failedMeter : NoiseCalibration where
  channel := .ok ()
  read := .ok ()
  stationConfig := .ok ⟨true, false⟩
  hardwareTarget := .ok ("hardware".toList, "hardware_input_gain_db".toList)
  receiveTarget := .ok ("receive".toList, "squelch_level".toList)
  mixer _ := .ok ()
  status _ := .error "meter failed".toList
  mixerChosen := .ok ()
  reading _ := .error "meter failed".toList
  gain _ := "0".toList
  accepts _ := .ok ()
  answers := ⟨.written, .ok (), .written, .ok ()⟩

/-- The key is the last request in the one run, and the receive mixer stays at 2 in the other. -/
theorem operation_unsafe : (∃ r b,
      (LiveOperation.adjust failedKey).run (fun _ _ _ => .ok ()) ⟨[], []⟩ = some (r, b) ∧
        b.requests = [.transmit true (some 1000)] ∧ ¬SafeRun [] r b.requests) ∧
    ∃ r b, (LiveOperation.calibrateNoise failedMeter).run (fun _ _ _ => .ok ()) ⟨[], []⟩ =
        some (r, b) ∧ r.isOk = false ∧ b.requests = [.receiveMixer 2] ∧ ¬SafeRun [] r b.requests := by
  refine ⟨⟨_, _, rfl, rfl, fun h => h.unkeyed rfl⟩, _, _, rfl, rfl, rfl, fun h => ?_⟩
  exact absurd (h.restored rfl ⟨Sweep.start.level, by simp⟩ fun _ => 0) (by decide)

end Tune
end UsbRadioPlus
