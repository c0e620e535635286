import UsbRadioPlus.Tune.Menus

/-!
# What a failed operation leaves behind

An operation that succeeds has stored its text and had it applied; one that fails leaves the text from
before, which is also the last one that was applied (`Atomic`). Two kinds of failures break this
(`isAtomic_iff_restorable`). A first write that replaces the file and then fails is not taken back. A calibration
that has applied an attempt ends without a restoration where the candidate of a later one cannot be
made or is not valid.
-/

namespace UsbRadioPlus
namespace Tune

open UsbRadioPlus.Core UsbRadioPlus.Core.ConfigDocument Rust Sys

variable {text original updated current : Str} {answers : Answers} {s s' : Session}
  {validateCandidate : Validation} {read : Except Str Unit} {target : Str × Str}

/-! ## Atomic operations -/

/-- The text that was applied last; the one from before, if none was. -/
def Session.lastApplied (s : Session) (text : Str) : Str := s.applied.headD text

/-- What an operation on `text` leaves. -/
structure Atomic (text : Str) (succeeded : Bool) (s : Session) : Prop where
  done : succeeded = true → s.stored = s.updated ∧ s.lastApplied text = s.updated
  undone : succeeded = false → s.unrestored = false → s.stored = text ∧ s.lastApplied text = text

/-- The operation ends, and is atomic. -/
def Operation.IsAtomic (validateCandidate : Validation) (read : Except Str Unit) (text : Str)
    (operation : Operation) : Prop :=
  ∃ succeeded s, operation.run validateCandidate read text = some (succeeded, s) ∧
    Atomic text succeeded s

/-! ## When they are -/

/-- A write that fails behind the replacement has replaced the text by itself. -/
def WriteAnswer.Clean (original updated : Str) : WriteAnswer → Prop
  | .unsynced _ => updated = original
  | _ => True

theorem WriteAnswer.clean_of_eq (h : updated = original) (answer : WriteAnswer) :
    answer.Clean original updated := by
  cases answer with
  | unsynced error => exact h
  | _ => trivial

namespace GainCalibration

variable (self : GainCalibration)

/-- The text that is applied where the calibration goes on behind this attempt. -/
def goesOn (validateCandidate : Validation) (target : Str × Str) (attempt : Nat) (current : Str) :
    Option Str :=
  match self.candidate validateCandidate target attempt current, (self.attempts attempt).status with
  | .ok candidate, .ok inRange =>
    if (self.attempts attempt).answers.write = .written &&
      (self.attempts attempt).answers.apply.isOk && !(inRange && 4 < attempt) then some candidate
    else none
  | _, _ => none

/-- The text in front of an attempt, where the calibration goes on behind all those before it. -/
def textAt (validateCandidate : Validation) (target : Str × Str) (original : Str) : Nat → Option Str
  | 0 => some original
  | attempt + 1 =>
    (textAt validateCandidate target original attempt).bind
      (self.goesOn validateCandidate target attempt)

/-- The attempt ends with a restoration where it fails. -/
structure Restores (validateCandidate : Validation) (target : Str × Str) (original : Str)
    (attempt : Nat) (current : Str) : Prop where
  candidate : current ≠ original →
    (self.candidate validateCandidate target attempt current).isOk = true
  write : current = original → ∀ candidate,
    self.candidate validateCandidate target attempt current = .ok candidate →
      (self.attempts attempt).answers.write.Clean original candidate

end GainCalibration

/-- The operation takes back what it has done where it fails. -/
def Operation.Restorable (validateCandidate : Validation) (read : Except Str Unit) (text : Str) :
    Operation → Prop
  | .edit change answers => read = .ok () → ∀ updated, edited change text = .ok updated →
    validateCandidate ⟨updated⟩ change.sectionName change.name = .ok () →
      answers.write.Clean text updated
  | .selectProfile change answers => read = .ok () → ∀ updated, edited change text = .ok updated →
    answers.write.Clean text updated
  | .swapUsbDevice swap answers => read = .ok () → ∀ updated,
    swap.swapHardwareIdentity text = .ok updated → swap.resolvedSections updated = .ok () →
      swap.stationConfigs updated = .ok () → answers.write.Clean text updated
  | .discard savedConfig confirmed answers => read = .ok () → confirmed = true →
    answers.write.Clean text (savedConfig.getD text)
  | .calibrate calibration => read = .ok () → ∀ target, calibration.destination = .ok target →
    ∀ attempt < 12, ∀ current,
      calibration.textAt validateCandidate target text attempt = some current →
        calibration.Restores validateCandidate target text attempt current

/-! ## Generations -/

/-- How a generation ends. -/
inductive GenerationCase (original updated : Str) (answers : Answers) (s : Session) :
    Except Str Unit → Session → Prop
  | applied (hwrite : answers.write = .written) (happly : answers.apply = .ok ()) :
    GenerationCase original updated answers s (.ok ())
      { s with stored := updated, updated, applied := updated :: s.applied }
  | unsynced (error : Str) (hwrite : answers.write = .unsynced error) :
    GenerationCase original updated answers s (.error error) { s with stored := updated, updated }
  | refused (error : Str) (hwrite : answers.write = .refused error) :
    GenerationCase original updated answers s (.error error) { s with updated }
  | restored (error : Str) (hwrite : answers.write = .written) (happly : answers.apply.isOk = false) :
    GenerationCase original updated answers s (.error error)
      { s with stored := original, updated, applied := original :: s.applied }
  | unrestored (error : Str) (s' : Session) (hwrite : answers.write = .written)
    (happly : answers.apply.isOk = false) (h : s'.unrestored = true) :
    GenerationCase original updated answers s (.error error) s'

theorem generationCase (original updated : Str) (answers : Answers) {s : Session}
    (hs : s.unrestored = false) : ∃ result s',
    applyGeneration false original updated answers s = some (result, s') ∧
      GenerationCase original updated answers s result s' := by
  obtain ⟨stored, before, applied, unrestored⟩ := s
  obtain rfl : unrestored = false := hs
  obtain ⟨write, apply, restore, reapply⟩ := answers
  cases write with
  | refused error => exact ⟨_, _, rfl, .refused error rfl⟩
  | unsynced error => exact ⟨_, _, rfl, .unsynced error rfl⟩
  | written => cases apply with
    | ok u => exact ⟨_, _, rfl, .applied rfl rfl⟩
    | error error => cases restore with
      | refused error' => exact ⟨_, _, rfl, .unrestored error' _ rfl rfl rfl⟩
      | unsynced error' => exact ⟨_, _, rfl, .unrestored error' _ rfl rfl rfl⟩
      | written => cases reapply with
        | ok u => exact ⟨_, _, rfl, .restored _ rfl rfl⟩
        | error error' => exact ⟨_, _, rfl, .unrestored _ _ rfl rfl rfl⟩

/-- An edit ends as its generation does. -/
theorem outcome_applyEdit (original updated : Str) (answers : Answers) (s : Session) :
    outcome id (applyEdit original updated answers) s =
      outcome (fun _ => true) (applyGeneration false original updated answers) s := by
  obtain ⟨write, apply, restore, reapply⟩ := answers
  cases write with
  | refused error => rfl
  | unsynced error => rfl
  | written => cases apply with
    | ok u => rfl
    | error error => cases restore with
      | refused error' => rfl
      | unsynced error' => rfl
      | written => cases reapply <;> rfl

/-! ## Edits -/

/-- Behind a generation on the text from before. -/
theorem GenerationCase.atomic_iff {result : Except Str Unit}
    (h : GenerationCase text updated answers (.start text) result s') :
    Atomic text result.isOk s' ↔ answers.write.Clean text updated := by
  cases h with
  | applied hwrite happly =>
    exact iff_of_true ⟨fun _ => ⟨rfl, rfl⟩, fun h => Bool.noConfusion h⟩ (hwrite ▸ trivial)
  | unsynced error hwrite =>
    rw [hwrite]
    exact ⟨fun h => (h.undone rfl rfl).1, fun h => ⟨fun h => Bool.noConfusion h, fun _ _ => ⟨h, rfl⟩⟩⟩
  | refused error hwrite =>
    exact iff_of_true ⟨fun h => Bool.noConfusion h, fun _ _ => ⟨rfl, rfl⟩⟩ (hwrite ▸ trivial)
  | restored error hwrite happly =>
    exact iff_of_true ⟨fun h => Bool.noConfusion h, fun _ _ => ⟨rfl, rfl⟩⟩ (hwrite ▸ trivial)
  | unrestored error s' hwrite happly h =>
    exact iff_of_true ⟨fun h => Bool.noConfusion h, fun _ h' => Bool.noConfusion (h.symm.trans h')⟩
      (hwrite ▸ trivial)

/-- The computation ends, and what it leaves is atomic. -/
def EndsAtomic {α : Type} (done : α → Bool) (m : Operating α) (original : Str) (s : Session) : Prop :=
  ∃ succeeded s', outcome done m s = some (succeeded, s') ∧ Atomic original succeeded s'

theorem endsAtomic_congr {α : Type} {done : α → Bool} {m m' : Operating α} (h : m s = m' s') :
    EndsAtomic done m original s ↔ EndsAtomic done m' original s' := by
  unfold EndsAtomic outcome
  rw [h]

theorem endsAtomic_of_eq {α : Type} {done : α → Bool} {m : Operating α} {succeeded : Bool}
    (h : outcome done m s = some (succeeded, s')) :
    EndsAtomic done m original s ↔ Atomic original succeeded s' := by
  constructor
  · rintro ⟨succeeded', s'', hrun, hatomic⟩
    cases h.symm.trans hrun
    exact hatomic
  · exact fun hatomic => ⟨_, _, h, hatomic⟩

/-- Nothing was done to the configuration. -/
theorem atomic_start (text : Str) (succeeded : Bool) : Atomic text succeeded (.start text) :=
  ⟨fun _ => ⟨rfl, rfl⟩, fun _ _ => ⟨rfl, rfl⟩⟩

theorem endsAtomic_applyEdit (text updated : Str) (answers : Answers) :
    EndsAtomic id (applyEdit text updated answers) text (.start text) ↔
      answers.write.Clean text updated := by
  obtain ⟨result, s', hrun, hcase⟩ := generationCase text updated answers (s := .start text) rfl
  have hend : outcome id (applyEdit text updated answers) (.start text) =
      some (result.isOk, s') := by
    rw [outcome_applyEdit, outcome, hrun]
    cases result <;> rfl
  rw [endsAtomic_of_eq hend, hcase.atomic_iff]

/-! ## Attempts -/

/-- In front of an attempt: `current` is stored, and the text that was applied last. -/
structure Settled (original current : Str) (s : Session) : Prop where
  stored : s.stored = current
  updated : s.updated = current
  applied : s.lastApplied original = current
  restored : s.unrestored = false

namespace GainCalibration

variable {self : GainCalibration} {candidate : Str} {attempt remaining : Nat}

/-- What `restoreFailed` does to the session. -/
structure TakenBack (current original : Str) (s s' : Session) : Prop where
  same : current = original → s' = s
  undone : current ≠ original → s'.unrestored = false →
    s'.stored = original ∧ s'.lastApplied original = original
  unrestored : s.unrestored = true → s'.unrestored = true

theorem takenBack (self : GainCalibration) (current original error : Str) (s : Session) :
    ∃ s', outcome (fun _ => true) (self.restoreFailed current original error) s = some (false, s') ∧
      TakenBack current original s s' := by
  unfold restoreFailed
  split
  · next heq => exact ⟨s, rfl, fun _ => rfl, fun h => absurd heq h, id⟩
  · next hne =>
    have hsame : ∀ {s'}, current = original → s' = s := fun h => absurd h hne
    have hfailed : ∀ {s'}, s'.unrestored = true → TakenBack current original s s' :=
      fun h => ⟨hsame, fun _ h' => Bool.noConfusion (h.symm.trans h'), fun _ => h⟩
    obtain ⟨stored, before, applied, unrestored⟩ := s
    generalize self.restore = answers
    obtain ⟨write, apply, restore, reapply⟩ := answers
    cases write with
    | refused error => exact ⟨_, rfl, hfailed (Bool.or_true unrestored)⟩
    | unsynced error => exact ⟨_, rfl, hfailed (Bool.or_true unrestored)⟩
    | written => cases apply with
      | ok u =>
        refine ⟨_, rfl, hsame, fun _ _ => ⟨rfl, rfl⟩, fun h => ?_⟩
        obtain rfl : unrestored = true := h
        rfl
      | error error =>
        cases restore <;> cases reapply <;> exact ⟨_, rfl, hfailed (by cases unrestored <;> rfl)⟩

/-- A failure is taken back, other than one that has left another text than the first. -/
theorem endsAtomic_restoreFailed (self : GainCalibration) {current original error : Str}
    (h : current = original → s.unrestored = false → s.stored = original ∧
      s.lastApplied original = original) :
    EndsAtomic (fun _ => true) (self.restoreFailed current original error) original s := by
  obtain ⟨s', hrun, hback⟩ := takenBack self current original error s
  refine ⟨false, s', hrun, fun h => Bool.noConfusion h, fun _ hrestored => ?_⟩
  by_cases hcurrent : current = original
  · obtain rfl := hback.same hcurrent
    exact h hcurrent hrestored
  · exact hback.undone hcurrent hrestored

/-- A calibration whose attempt cannot make its candidate. -/
theorem calibrateFrom_of_error {error : Str}
    (h : self.candidate validateCandidate target attempt current = .error error) :
    self.calibrateFrom validateCandidate target original (remaining + 1) attempt current s =
      some (.error error, s) := by
  rw [calibrateFrom, Fallible.bind_apply, h]
  rfl

/-- Behind the generation of an attempt. -/
theorem calibrateFrom_of_ok {result : Except Str Unit}
    (h : self.candidate validateCandidate target attempt current = .ok candidate)
    (hrun : applyGeneration false current candidate (self.attempts attempt).answers s =
      some (result, s')) :
    self.calibrateFrom validateCandidate target original (remaining + 1) attempt current s =
      (match result with
        | .error error => self.restoreFailed current original error
        | .ok () => match (self.attempts attempt).status with
          | .error error => self.restoreFailed candidate original error
          | .ok inRange =>
            if inRange && 4 < attempt then
              pure ⟨attempt + 1, (self.attempts attempt).gain, (self.attempts attempt).peak⟩
            else self.calibrateFrom validateCandidate target original remaining (attempt + 1)
              candidate) s' := by
  have hattempt : Fallible.attempt (applyGeneration false current candidate
      (self.attempts attempt).answers) s = some (.ok result, s') := by
    rw [Fallible.attempt, hrun]
    rfl
  rw [calibrateFrom, Fallible.bind_apply, h]
  simp only [Fallible.of]
  rw [Fallible.bind_apply]
  cases result with
  | error error => simp only [hattempt]
  | ok u => cases hstatus : (self.attempts attempt).status with
    | error error => simp only [hattempt]
    | ok inRange => simp only [hattempt]

/-- The attempts from `attempt` on, of which there are `remaining`, end with a restoration where they
fail. -/
def RestoreFrom (self : GainCalibration) (validateCandidate : Validation) (target : Str × Str)
    (original : Str) (remaining attempt : Nat) : Prop :=
  ∀ k, attempt ≤ k → k < attempt + remaining → ∀ current,
    self.textAt validateCandidate target original k = some current →
      self.Restores validateCandidate target original k current

theorem textAt_of_stop (htext : self.textAt validateCandidate target original attempt = some current)
    (hstop : self.goesOn validateCandidate target attempt current = none) {k : Nat}
    (hk : attempt < k) : self.textAt validateCandidate target original k = none := by
  induction k with
  | zero => omega
  | succ k ih =>
    rw [textAt]
    by_cases heq : attempt = k
    · rw [← heq, htext]
      exact hstop
    · rw [ih (by omega)]
      rfl

theorem restoreFrom_of_stop
    (htext : self.textAt validateCandidate target original attempt = some current)
    (hstop : self.goesOn validateCandidate target attempt current = none) :
    self.RestoreFrom validateCandidate target original (remaining + 1) attempt ↔
      self.Restores validateCandidate target original attempt current := by
  constructor
  · exact fun h => h attempt (Nat.le_refl _) (by omega) current htext
  · intro h k hle hlt current' htext'
    obtain rfl | hk := Nat.eq_or_lt_of_le hle
    · rw [htext] at htext'
      exact (Option.some.inj htext') ▸ h
    · rw [textAt_of_stop htext hstop hk] at htext'
      exact absurd htext' (by simp)

theorem restoreFrom_of_goesOn
    (htext : self.textAt validateCandidate target original attempt = some current)
    (hgo : self.Restores validateCandidate target original attempt current) :
    self.RestoreFrom validateCandidate target original (remaining + 1) attempt ↔
      self.RestoreFrom validateCandidate target original remaining (attempt + 1) := by
  constructor
  · exact fun h k hle hlt => h k (by omega) (by omega)
  · intro h k hle hlt current' htext'
    obtain rfl | hk := Nat.eq_or_lt_of_le hle
    · rw [htext] at htext'
      exact (Option.some.inj htext') ▸ hgo
    · exact h k hk (by omega) current' htext'

/-- The stop behind an attempt whose write or apply failed. -/
theorem goesOn_of_failed
    (h : (self.attempts attempt).answers.write ≠ .written ∨
      (self.attempts attempt).answers.apply.isOk = false) :
    self.goesOn validateCandidate target attempt current = none := by
  unfold goesOn
  split
  · rw [if_neg]
    rcases h with h | h <;> simp [h]
  · rfl

/-- An attempt that cannot make its candidate leaves the text in front of it. -/
theorem endsAtomic_of_error {error : Str} (hs : Settled original current s)
    (h : self.candidate validateCandidate target attempt current = .error error) :
    EndsAtomic (fun _ => true)
        (self.calibrateFrom validateCandidate target original (remaining + 1) attempt current)
        original s ↔ self.Restores validateCandidate target original attempt current := by
  have hrun : outcome (fun _ => true) (self.calibrateFrom validateCandidate target original
      (remaining + 1) attempt current) s = some (false, s) := by
    rw [outcome, calibrateFrom_of_error h]
    rfl
  rw [endsAtomic_of_eq hrun]
  constructor
  · intro hatomic
    have hsame : current = original := hs.stored.symm.trans (hatomic.undone rfl hs.restored).1
    refine ⟨fun hne => absurd hsame hne, fun _ candidate hcandidate => ?_⟩
    rw [h] at hcandidate
    exact absurd hcandidate (by simp)
  · rintro ⟨hmade, -⟩
    have hsame : current = original := by
      by_contra hne
      have hok := hmade hne
      rw [h] at hok
      exact absurd hok (by simp [Except.isOk, Except.toBool])
    exact ⟨fun h => Bool.noConfusion h, fun _ _ => ⟨hs.stored.trans hsame, hs.applied.trans hsame⟩⟩

/-- An attempt whose write fails behind the replacement. -/
theorem endsAtomic_of_unsynced {error error' : Str} (hs : Settled original current s)
    (h : self.candidate validateCandidate target attempt current = .ok candidate)
    (hwrite : (self.attempts attempt).answers.write = .unsynced error') :
    EndsAtomic (fun _ => true) (self.restoreFailed current original error) original
        { s with stored := candidate, updated := candidate } ↔
      self.Restores validateCandidate target original attempt current := by
  by_cases hcurrent : current = original
  · obtain ⟨s', hfail, hback⟩ := takenBack self current original error
      { s with stored := candidate, updated := candidate }
    obtain rfl := hback.same hcurrent
    rw [endsAtomic_of_eq hfail]
    constructor
    · intro hatomic
      refine ⟨fun hne => absurd hcurrent hne, fun _ candidate' h' => ?_⟩
      obtain rfl : candidate = candidate' := Except.ok.inj (h.symm.trans h')
      rw [hwrite]
      exact (hatomic.undone rfl hs.restored).1
    · rintro ⟨-, hclean⟩
      have hsame := hclean hcurrent candidate h
      rw [hwrite] at hsame
      exact ⟨fun h => Bool.noConfusion h, fun _ _ => ⟨hsame, hs.applied.trans hcurrent⟩⟩
  · refine iff_of_true (endsAtomic_restoreFailed self fun h => absurd h hcurrent)
      ⟨fun _ => ?_, fun h => absurd h hcurrent⟩
    rw [h]
    rfl

/-- An attempt whose write does not fail behind the replacement. -/
theorem restores_of_synced
    (h : self.candidate validateCandidate target attempt current = .ok candidate)
    (hwrite : ∀ error, (self.attempts attempt).answers.write ≠ .unsynced error) :
    self.Restores validateCandidate target original attempt current := by
  refine ⟨fun _ => by rw [h]; rfl, fun _ _ _ => ?_⟩
  cases heq : (self.attempts attempt).answers.write with
  | unsynced error => exact absurd heq (hwrite error)
  | _ => trivial

/-- From a settled state on: by induction on the attempts that remain. -/
theorem endsAtomic_calibrateFrom : ∀ {remaining attempt : Nat} {current : Str} {s : Session},
    Settled original current s →
    self.textAt validateCandidate target original attempt = some current →
    (EndsAtomic (fun _ => true)
        (self.calibrateFrom validateCandidate target original remaining attempt current) original s ↔
      self.RestoreFrom validateCandidate target original remaining attempt) := by
  intro remaining
  induction remaining with
  | zero =>
    intro attempt current s hs _
    refine iff_of_true (endsAtomic_restoreFailed self fun h _ => ?_) fun k hle hlt => by omega
    exact ⟨hs.stored.trans h, hs.applied.trans h⟩
  | succ remaining ih =>
    intro attempt current s hs htext
    rcases hcandidate : self.candidate validateCandidate target attempt current with error | candidate
    · have hstop : self.goesOn validateCandidate target attempt current = none := by
        rw [goesOn, hcandidate]
      rw [endsAtomic_of_error hs hcandidate, restoreFrom_of_stop htext hstop]
    · obtain ⟨result, s', hrun, hcase⟩ := generationCase current candidate
        (self.attempts attempt).answers hs.restored
      rw [endsAtomic_congr (calibrateFrom_of_ok hcandidate hrun)]
      cases hcase with
      | applied hwrite happly =>
        have hsettled : Settled original candidate
            { s with stored := candidate, updated := candidate, applied := candidate :: s.applied } :=
          ⟨rfl, rfl, rfl, hs.restored⟩
        have hrestores : self.Restores validateCandidate target original attempt current :=
          restores_of_synced hcandidate (by simp [hwrite])
        cases hstatus : (self.attempts attempt).status with
        | error error =>
          have hstop : self.goesOn validateCandidate target attempt current = none := by
            rw [goesOn, hcandidate, hstatus]
          rw [restoreFrom_of_stop htext hstop]
          exact iff_of_true (endsAtomic_restoreFailed self fun h _ => ⟨h, h⟩) hrestores
        | ok inRange =>
          have hgo : self.goesOn validateCandidate target attempt current =
              if !(inRange && decide (4 < attempt)) then some candidate else none := by
            rw [goesOn, hcandidate, hstatus]
            simp [hwrite, happly, Except.isOk, Except.toBool]
          dsimp only
          split
          · next hdone =>
            rw [restoreFrom_of_stop htext (by rw [hgo, hdone]; rfl)]
            exact iff_of_true ⟨true, _, rfl, fun _ => ⟨rfl, rfl⟩, fun h => Bool.noConfusion h⟩
              hrestores
          · next hnot =>
            rw [restoreFrom_of_goesOn htext hrestores]
            refine ih hsettled ?_
            rw [textAt, htext]
            simp [hgo, hnot]
      | unsynced error hwrite =>
        rw [restoreFrom_of_stop htext (goesOn_of_failed (.inl (by simp [hwrite])))]
        exact endsAtomic_of_unsynced hs hcandidate hwrite
      | refused error hwrite =>
        rw [restoreFrom_of_stop htext (goesOn_of_failed (.inl (by simp [hwrite])))]
        refine iff_of_true (endsAtomic_restoreFailed self fun h _ => ?_)
          (restores_of_synced hcandidate (by simp [hwrite]))
        exact ⟨hs.stored.trans h, hs.applied.trans h⟩
      | restored error hwrite happly =>
        rw [restoreFrom_of_stop htext (goesOn_of_failed (.inr happly))]
        exact iff_of_true (endsAtomic_restoreFailed self fun h _ => ⟨h, h⟩)
          (restores_of_synced hcandidate (by simp [hwrite]))
      | unrestored error s' hwrite happly h =>
        rw [restoreFrom_of_stop htext (goesOn_of_failed (.inr happly))]
        refine iff_of_true (endsAtomic_restoreFailed self fun _ h' => ?_)
          (restores_of_synced hcandidate (by simp [hwrite]))
        exact Bool.noConfusion (h.symm.trans h')

end GainCalibration

/-! ## Operations -/

/-- What follows a result, in front of any write. -/
theorem endsAtomic_of {α β : Type} {done : β → Bool} {r : Except Str α} {k : α → Operating β} :
    EndsAtomic done (Fallible.of r >>= k) text (.start text) ↔
      ∀ a, r = .ok a → EndsAtomic done (k a) text (.start text) := by
  rcases r with error | a
  · refine iff_of_true ⟨false, _, rfl, atomic_start text false⟩ fun a h => ?_
    exact absurd h (by simp)
  · have hsame : EndsAtomic done (Fallible.of (.ok a) >>= k) text (.start text) ↔
        EndsAtomic done (k a) text (.start text) := endsAtomic_congr rfl
    exact hsame.trans ⟨fun h _ heq => Except.ok.inj heq ▸ h, fun h => h a rfl⟩

/-- What follows the reading of the configuration. -/
theorem endsAtomic_read {β : Type} {done : β → Bool} {k : Session → Operating β} :
    EndsAtomic done (Fallible.of read >>= fun _ => Fallible.get >>= k) text (.start text) ↔
      (read = .ok () → EndsAtomic done (k (.start text)) text (.start text)) :=
  endsAtomic_of.trans ⟨fun h => h (), fun h _ => h⟩

/-- The operation is atomic exactly where it takes back what it has done. -/
theorem isAtomic_iff_restorable (validateCandidate : Validation) (read : Except Str Unit) (text : Str)
    (operation : Operation) : operation.IsAtomic validateCandidate read text ↔
      operation.Restorable validateCandidate read text := by
  have hended : ∀ {α : Type} {done : α → Bool} (a : α),
      EndsAtomic done (pure a) text (.start text) := fun a =>
    ⟨_, _, rfl, atomic_start text _⟩
  cases operation with
  | edit change answers =>
    refine endsAtomic_read.trans (imp_congr_right fun _ => ?_)
    refine endsAtomic_of.trans (forall_congr' fun updated => imp_congr_right fun _ => ?_)
    cases hvalid : validateCandidate ⟨updated⟩ change.sectionName change.name with
    | error error => exact iff_of_true (hended false) fun h => absurd h (by simp)
    | ok u => exact (endsAtomic_applyEdit text updated answers).trans ⟨fun h _ => h, fun h => h rfl⟩
  | selectProfile change answers =>
    refine endsAtomic_read.trans (imp_congr_right fun _ => ?_)
    refine endsAtomic_of.trans (forall_congr' fun updated => imp_congr_right fun _ => ?_)
    exact endsAtomic_applyEdit text updated answers
  | swapUsbDevice swap answers =>
    refine endsAtomic_read.trans (imp_congr_right fun _ => ?_)
    rcases hswap : swap.swapHardwareIdentity text with error | updated
    · refine iff_of_true ?_ fun _ h => absurd h (by simp)
      exact (endsAtomic_congr (by simp only [Session.start, hswap])).mpr (hended false)
    · refine (endsAtomic_congr (by simp only [Session.start, hswap]; rfl)).trans
        (endsAtomic_of.trans ?_)
      have hedit : EndsAtomic id (match swap.stationConfigs updated with
          | .error _ => pure false
          | .ok () => applyEdit text updated answers) text (.start text) ↔
            (swap.stationConfigs updated = .ok () → answers.write.Clean text updated) := by
        cases swap.stationConfigs updated with
        | error error => exact iff_of_true (hended false) fun h => absurd h (by simp)
        | ok u =>
          exact (endsAtomic_applyEdit text updated answers).trans ⟨fun h _ => h, fun h => h rfl⟩
      constructor
      · intro h updated' heq hsections
        obtain rfl := Except.ok.inj heq
        exact hedit.mp (h () hsections)
      · exact fun h _ hsections => hedit.mpr (h updated rfl hsections)
  | discard savedConfig confirmed answers =>
    refine endsAtomic_read.trans (imp_congr_right fun _ => ?_)
    by_cases hsame : text = savedConfig.getD text
    · refine iff_of_true ?_ fun _ => WriteAnswer.clean_of_eq hsame.symm _
      exact (endsAtomic_congr (congrFun (if_pos hsame) _)).mpr (hended true)
    · cases confirmed with
      | false =>
        refine iff_of_true ?_ fun h => Bool.noConfusion h
        exact (endsAtomic_congr (congrFun (if_neg hsame) _)).mpr (hended false)
      | true =>
        refine (endsAtomic_congr (congrFun (if_neg hsame) _)).trans
          ((endsAtomic_applyEdit text (savedConfig.getD text) answers).trans ?_)
        exact ⟨fun h _ => h, fun h => h rfl⟩
  | calibrate calibration =>
    refine endsAtomic_read.trans (imp_congr_right fun _ => ?_)
    refine endsAtomic_of.trans (forall_congr' fun target => imp_congr_right fun _ => ?_)
    refine (GainCalibration.endsAtomic_calibrateFrom ⟨rfl, rfl, rfl, rfl⟩ rfl).trans ?_
    exact ⟨fun h k hk => h k (Nat.zero_le k) (by omega), fun h k _ hk => h k (by omega)⟩

/-- Every call of the store and the applier succeeds. -/
def Answers.succeeding : Answers := ⟨.written, .ok (), .written, .ok ()⟩

/-- A calibration whose second gain the resolver refuses. -/
def refusedCalibration : GainCalibration where
  label := "Receive".toList
  destination := .ok ("radio".toList, "rxgain".toList)
  attempts n :=
    ⟨if n = 0 then "1".toList else "40".toList, .succeeding, .ok false, "100".toList⟩
  restore := .succeeding

/-- A validation that refuses one text. -/
def refuseForty : Validation := fun document _ _ =>
  if document.text = "[radio]\nrxgain = 40\n".toList then .error "out of range".toList else .ok ()

/-- An edit whose write replaces the configuration and then cannot synchronize its directory. -/
def unsyncedEdit : Operation :=
  .edit (.setValue "radio".toList "rxgain".toList "1".toList)
    { Answers.succeeding with write := .unsynced "synchronize directory".toList }

/-- Both fail with the text that they have stored, and nothing that they attempted to restore it. -/
theorem not_atomic_of_unsynced :
    ¬ unsyncedEdit.IsAtomic (fun _ _ _ => .ok ()) (.ok ()) "[radio]\nrxgain = 0\n".toList ∧
    ¬ (Operation.calibrate refusedCalibration).IsAtomic refuseForty (.ok ())
      "[radio]\nrxgain = 0\n".toList := by
  have hedit : unsyncedEdit.run (fun _ _ _ => .ok ()) (.ok ()) "[radio]\nrxgain = 0\n".toList =
      some (false, ⟨"[radio]\nrxgain = 1\n".toList, "[radio]\nrxgain = 1\n".toList, [], false⟩) := by
    decide +kernel
  have hcalibrate : (Operation.calibrate refusedCalibration).run refuseForty (.ok ())
      "[radio]\nrxgain = 0\n".toList =
      some (false, ⟨"[radio]\nrxgain = 1\n".toList, "[radio]\nrxgain = 1\n".toList,
        ["[radio]\nrxgain = 1\n".toList], false⟩) := by
    decide +kernel
  constructor
  · rintro ⟨succeeded, s, hrun, hatomic⟩
    cases hedit.symm.trans hrun
    exact absurd (hatomic.undone rfl rfl).1 (by decide +kernel)
  · rintro ⟨succeeded, s, hrun, hatomic⟩
    cases hcalibrate.symm.trans hrun
    exact absurd (hatomic.undone rfl rfl).1 (by decide +kernel)

end Tune
end UsbRadioPlus
