import UsbRadioPlus.Station.UpdateAgreement

/-!
# The calls of the control owner

What a caller of `begin_update` and `finish_update` sees of the steps in between: `Beginning` and
`Finishing` say which call is under way, and a step of the control owner goes on with it or returns
(`beginCase_of_controlStep`, `finishCase_of_controlStep`). The callbacks do not interfere.
-/

namespace UsbRadioPlus
namespace Station

open Sys

variable {P : StationParts}

namespace StationRuntime

/-- A step of a callback leaves what the control owner has. -/
structure SameControl (s s' : StationRuntime P) : Prop where
  pc : s'.pc = s.pc
  storage : s'.updates.storage = s.updates.storage
  plan : s'.plan = s.plan

theorem sameControl_receiveStep (s : StationRuntime P) (accepts : Bool) :
    SameControl s (s.receiveStep accepts) := by
  obtain ⟨tables, heq, -⟩ := s.receiveStep_spec accepts
  rw [heq]
  exact ⟨rfl, rfl, rfl⟩

theorem sameControl_transmitStep (s : StationRuntime P) (accepts : Bool) :
    SameControl s (s.transmitStep accepts) := ⟨rfl, rfl, rfl⟩

theorem sameControl_applyStoppedUpdate (s : StationRuntime P)
    (receiveAccepts transmitAccepts : Bool) :
    SameControl s (s.applyStoppedUpdate receiveAccepts transmitAccepts) := by
  unfold applyStoppedUpdate
  split
  · exact ⟨rfl, rfl, rfl⟩
  · exact ⟨rfl, rfl, rfl⟩

/-! ## `begin_update` -/

/-- The call of `begin_update` for the transaction is under way. -/
def Beginning (s : StationRuntime P) (t : Transaction P) : Prop :=
  s.updates.storage.transaction = some t ∧ t.reversing = false ∧
    match s.pc with
    | .publish _ _ | .applyStopped => True
    | _ => False

/-- A step of `begin_update`. -/
inductive BeginCase (s : StationRuntime P) (t : Transaction P) :
    StationRuntime P × Returned P → Prop
  | goesOn {s' : StationRuntime P} : s'.plan = s.plan → Beginning s' t → BeginCase s t (s', none)
  | returns {s' : StationRuntime P} : s'.plan = s.plan →
    s'.updates.storage.transaction = some t → s'.pc = .idle → BeginCase s t (s', some (.ok ()))

theorem beginCase_of_controlStep {s : StationRuntime P} {t : Transaction P}
    (h : Beginning s t) {receiveAccepts transmitAccepts : Bool} {r : StationRuntime P × Returned P}
    (hstep : s.controlStep receiveAccepts transmitAccepts = some r) : BeginCase s t r := by
  obtain ⟨htx, hrev, hpc⟩ := h
  unfold controlStep at hstep
  split at hstep
  · cases hstep
  · obtain rfl := Option.some.inj hstep
    exact .goesOn rfl ⟨htx, hrev, trivial⟩
  · obtain rfl := Option.some.inj hstep
    exact .goesOn rfl ⟨htx, hrev, trivial⟩
  · obtain rfl := Option.some.inj hstep
    exact .goesOn rfl ⟨htx, hrev, trivial⟩
  · obtain rfl := Option.some.inj hstep
    exact .goesOn rfl ⟨htx, hrev, trivial⟩
  · have hsame := s.sameControl_applyStoppedUpdate receiveAccepts transmitAccepts
    have htx' := (congrArg UpdateStorage.transaction hsame.storage).trans htx
    simp only at hstep
    split at hstep
    · rename_i htx''
      obtain rfl := Option.some.inj (htx'.symm.trans htx'')
      cases hrev
    · obtain rfl := Option.some.inj hstep
      exact .returns hsame.plan htx' rfl
  · rename_i heq
    rw [heq] at hpc
    exact absurd hpc id
  · rename_i heq
    rw [heq] at hpc
    exact absurd hpc id

/-! ## `finish_update` -/

/-- The call of `finish_update` for the transaction is under way. -/
def Finishing (commit : Bool) (s : StationRuntime P) (t : Transaction P) : Prop :=
  s.updates.storage.transaction = some t ∧
    match s.pc with
    | .publish _ _ | .applyStopped => commit = false ∧ t.reversing = true
    | .result purpose | .resultTransmit purpose _ =>
      purpose ≠ .accept ∧ (purpose = .commit ↔ commit = true) ∧
        (purpose = .reverse → t.reversing = true)
    | .idle => False

/-- A step of `finish_update`. -/
inductive FinishCase (commit : Bool) (s : StationRuntime P) (t : Transaction P) :
    StationRuntime P × Returned P → Prop
  | goesOn {s' : StationRuntime P} {u : Transaction P} : s'.plan = s.plan →
    u.candidate = t.candidate → (u.reversing = true → t.reversing = true ∨ commit = false) →
    Finishing commit s' u → FinishCase commit s t (s', none)
  | fails {s' : StationRuntime P} (e : StationUpdateError P) : s'.plan = s.plan →
    s'.updates.storage.transaction = some t → s'.pc = .idle →
    FinishCase commit s t (s', some (.error e))
  | commits {s' : StationRuntime P} {answer : Int} : commit = true →
    s.pc = .resultTransmit .commit answer →
    UpdateMailbox.result (P := P) answer s.updates.transmit.answer = .ok () →
    s'.plan = t.candidate.plan → s'.updates.storage.transaction = none → s'.pc = .idle →
    FinishCase commit s t (s', some (.ok ()))
  | restores {s' : StationRuntime P} : commit = false → s'.plan = t.candidate.previous →
    s'.updates.storage.transaction = none → s'.pc = .idle →
    FinishCase commit s t (s', some (.ok ()))

theorem finishCase_of_conclude {s : StationRuntime P} {t : Transaction P} {commit : Bool}
    {purpose : Purpose} {answer : Int} (h : Finishing commit s t)
    (hpc : s.pc = .resultTransmit purpose answer) :
    FinishCase commit s t
      (s.conclude purpose (UpdateMailbox.result answer s.updates.transmit.answer)) := by
  obtain ⟨htx, hpurpose⟩ := h
  rw [hpc] at hpurpose
  obtain ⟨hna, hc, hr⟩ := hpurpose
  cases purpose with
  | accept => exact absurd rfl hna
  | commit =>
    have hcommit := hc.mp rfl
    unfold conclude
    simp only [htx]
    cases hres : UpdateMailbox.result (P := P) answer s.updates.transmit.answer with
    | error e => exact .fails e rfl htx rfl
    | ok _ =>
      by_cases ht : t.reversing = true
      · simp only [if_pos ht]
        exact .fails .busy rfl htx rfl
      · simp only [if_neg ht]
        exact .commits hcommit hpc hres rfl rfl rfl
  | reverse =>
    have hcommit : commit = false := by
      cases commit with
      | true => exact absurd (hc.mpr rfl) (by simp)
      | false => rfl
    unfold conclude
    simp only [htx]
    cases hres : UpdateMailbox.result (P := P) answer s.updates.transmit.answer with
    | error e => exact .fails e rfl htx rfl
    | ok _ => exact .restores hcommit rfl rfl rfl
  | rollback =>
    have hcommit : commit = false := by
      cases commit with
      | true => exact absurd (hc.mpr rfl) (by simp)
      | false => rfl
    unfold conclude
    simp only [htx]
    cases hres : UpdateMailbox.result (P := P) answer s.updates.transmit.answer with
    | ok _ =>
      by_cases ht : t.reversing = true
      · simp only [if_pos ht]
        exact .restores hcommit rfl rfl rfl
      · simp only [if_neg ht]
        exact .goesOn (u := ⟨t.candidate, true⟩) rfl rfl (fun _ => .inr hcommit)
          ⟨rfl, hcommit, rfl⟩
    | error e =>
      cases e with
      | pending => exact .fails .pending rfl htx rfl
      | incompatible | busy | preparation _ | radio _ =>
        by_cases ht : t.reversing = true
        · simp only [if_pos ht]
          exact .fails _ rfl htx rfl
        · simp only [if_neg ht]
          exact .goesOn (u := ⟨t.candidate, true⟩) rfl rfl (fun _ => .inr hcommit)
            ⟨rfl, hcommit, rfl⟩

theorem finishCase_of_controlStep {commit : Bool} {s : StationRuntime P} {t : Transaction P}
    (h : Finishing commit s t) {receiveAccepts transmitAccepts : Bool}
    {r : StationRuntime P × Returned P}
    (hstep : s.controlStep receiveAccepts transmitAccepts = some r) :
    FinishCase commit s t r := by
  have hall := h
  obtain ⟨htx, hpc⟩ := h
  unfold controlStep at hstep
  split at hstep
  · cases hstep
  · rename_i heq
    rw [heq] at hpc
    obtain rfl := Option.some.inj hstep
    exact .goesOn (u := t) rfl rfl .inl ⟨htx, hpc⟩
  · rename_i heq
    rw [heq] at hpc
    obtain rfl := Option.some.inj hstep
    exact .goesOn (u := t) rfl rfl .inl ⟨htx, hpc⟩
  · rename_i heq
    rw [heq] at hpc
    obtain rfl := Option.some.inj hstep
    exact .goesOn (u := t) rfl rfl .inl ⟨htx, hpc⟩
  · rename_i heq
    rw [heq] at hpc
    obtain rfl := Option.some.inj hstep
    exact .goesOn (u := t) rfl rfl .inl ⟨htx, hpc⟩
  · rename_i heq
    rw [heq] at hpc
    have hsame := s.sameControl_applyStoppedUpdate receiveAccepts transmitAccepts
    have htx' := (congrArg UpdateStorage.transaction hsame.storage).trans htx
    simp only at hstep
    split at hstep
    · obtain rfl := Option.some.inj hstep
      refine .goesOn (u := t) hsame.plan rfl .inl ⟨htx', by simp, ?_, fun _ => hpc.2⟩
      simp [hpc.1]
    · -- A published reverse generation is one of an open transaction.
      rename_i hne
      exact absurd (htx'.trans (by rw [← hpc.2])) (hne t.candidate)
  · rename_i purpose heq
    rw [heq] at hpc
    obtain rfl := Option.some.inj hstep
    exact .goesOn (u := t) rfl rfl .inl ⟨htx, hpc⟩
  · rename_i purpose answer heq
    obtain rfl := Option.some.inj hstep
    exact finishCase_of_conclude hall heq

/-- The call of `finish_update` starts. -/
theorem finishing_finishUpdate {s : StationRuntime P} {t : Transaction P}
    (htx : s.updates.storage.transaction = some t) (commit receiveAccepts transmitAccepts : Bool) :
    ∃ s', s.finishUpdate commit receiveAccepts transmitAccepts = (s', none) ∧ s'.plan = s.plan ∧
      Finishing commit s' t := by
  have hsame := s.sameControl_applyStoppedUpdate receiveAccepts transmitAccepts
  have htx' := (congrArg UpdateStorage.transaction hsame.storage).trans htx
  unfold finishUpdate
  simp only [htx']
  refine ⟨_, rfl, hsame.plan, htx', ?_⟩
  cases commit with
  | true => exact ⟨by simp, by simp, by simp⟩
  | false => exact ⟨by simp, by simp, by simp⟩

/-! ## The callbacks in between -/

theorem Beginning.of_sameControl {s s' : StationRuntime P} {t : Transaction P}
    (hsame : SameControl s s') (h : Beginning s t) : Beginning s' t := by
  unfold Beginning
  rw [hsame.storage, hsame.pc]
  exact h

theorem Finishing.of_sameControl {commit : Bool} {s s' : StationRuntime P} {t : Transaction P}
    (hsame : SameControl s s') (h : Finishing commit s t) : Finishing commit s' t := by
  unfold Finishing
  rw [hsame.storage, hsame.pc]
  exact h

end StationRuntime
end Station
end UsbRadioPlus
