import UsbRadioPlus.Driver.RemotePrepare
import Mathlib.Data.List.Perm.Basic

/-!
# No work is lost

* **Accounts** (`Sound inHand`): the work that has been dequeued is the work that has ended, is pending,
  is held or is `inHand`, number by number, and every number has been dequeued or waits at most once.
* Each operation moves work between these places: `endWork_sound`, `push_sound` and `hold_sound` take it
  out of the hand, `nextUrgent_sound` and `nextOrdinary_sound` put it there. `hold` is used only while
  nothing is held, since an ordinary command is dequeued only then and an urgent one is never held.
* `service_sound` and `service_returns`: a call of `service` keeps the accounts and does not panic,
  whatever the engine and the device answer.
-/

namespace UsbRadioPlus.Driver

open Rust Sys UsbRadioPlus.Core

/-! ## Accounts -/

/-- How often the work with a number occurs. -/
def tally (id : Nat) (works : List RemoteWork) : Nat := works.countP fun work => work.id = id

section Tally

variable {id : Nat} {works works' : List RemoteWork}

@[simp] theorem tally_nil : tally id [] = 0 := rfl

@[simp] theorem tally_append : tally id (works ++ works') = tally id works + tally id works' :=
  List.countP_append

theorem tally_cons (work : RemoteWork) :
    tally id (work :: works) = tally id [work] + tally id works := by
  rw [← tally_append, List.singleton_append]

theorem tally_perm (h : works.Perm works') (id : Nat) : tally id works = tally id works' :=
  h.countP_eq _

theorem tally_singleton (work : RemoteWork) : tally id [work] = if work.id = id then 1 else 0 := by
  by_cases h : work.id = id <;> simp [tally, h]

theorem tally_pos {work : RemoteWork} (h : work ∈ works) : 0 < tally work.id works :=
  List.countP_pos_iff.mpr ⟨work, h, decide_eq_true rfl⟩

end Tally

/-- What is taken out is all that is gone. -/
theorem perm_swapRemove {α : Type} {values : List α} {index : Nat} {a : α}
    (h : values[index]? = some a) : (a :: swapRemove values index).Perm values := by
  obtain ⟨hindex, rfl⟩ := List.getElem?_eq_some_iff.mp h
  obtain ⟨init, last, rfl⟩ : ∃ init last, values = init ++ [last] :=
    ⟨_, _, (List.dropLast_append_getLast (List.ne_nil_of_length_pos (by omega))).symm⟩
  have hgone : swapRemove (init ++ [last]) index =
      if index + 1 = (init ++ [last]).length then init else init.set index last := by
    simp [swapRemove]
  rw [hgone]
  split
  · next hlast =>
    obtain rfl : index = init.length := by simpa using hlast
    rw [List.getElem_concat_length rfl]
    exact (List.perm_append_singleton last init).symm
  · next hlast =>
    have hindex : index < init.length := by
      simp only [List.length_append, List.length_singleton] at hindex hlast
      omega
    rw [List.getElem_append_left hindex]
    calc (init[index] :: init.set index last).Perm (init[index] :: last :: init.eraseIdx index) :=
          (List.set_perm_cons_eraseIdx hindex last).cons _
      _ |>.Perm (last :: init[index] :: init.eraseIdx index) := .swap _ _ _
      _ |>.Perm (last :: init) := (List.getElem_cons_eraseIdx_perm hindex).cons _
      _ |>.Perm (init ++ [last]) := (List.perm_append_singleton last init).symm

namespace OwnerState

/-- The requests that have ended. -/
def endedWork (s : OwnerState) : List RemoteWork := s.ended.map (·.work)

/-- The requests that the engine works on. -/
def pendingWork (s : OwnerState) : List RemoteWork := s.pending.map (·.work)

/-- The request whose setting waits. -/
def heldWork (s : OwnerState) : List RemoteWork := s.auxiliary.toList.map (·.work)

end OwnerState

/-- The source of the work was valid and did not key, and nothing transmitted. -/
structure SettingCall.Guarded (call : SettingCall) : Prop where
  valid : call.source.valid = true
  inactive : call.source.active = false
  enginePending : call.enginePending = false
  physicalPtt : call.activity.physicalPtt = false
  renderedPtt : call.activity.renderedPtt = false
  transmitIdle : call.transmitIdle = .ok true

/-- The accounts, while some work is in hand. -/
structure Sound (inHand : List RemoteWork) (s : OwnerState) : Prop where
  accounts : ∀ id, tally id s.endedWork + tally id s.pendingWork + tally id s.heldWork +
    tally id inHand = tally id s.dequeued
  fresh : ∀ id, tally id s.dequeued + tally id s.urgent + tally id s.ordinary ≤
    if id < s.submitted then 1 else 0
  urgent : ∀ work ∈ s.urgent, work.input.urgent = true
  whole : ∀ entry ∈ s.ended, entry.ending ≠ .overwritten
  guarded : ∀ call ∈ s.settingCalls, call.Guarded

namespace Sound

variable {work : RemoteWork} {inHand : List RemoteWork} {s : OwnerState}

theorem initial (capacity : Nat) : Sound [] (.initial capacity) where
  accounts _ := rfl
  fresh _ := Nat.zero_le _
  urgent _ h := nomatch h
  whole _ h := nomatch h
  guarded _ h := nomatch h

/-- Work in hand ends. -/
theorem ends (h : Sound (work :: inHand) s) {ending : Ending} (hending : ending ≠ .overwritten) :
    Sound inHand { s with ended := s.ended ++ [⟨work, ending⟩] } where
  accounts id := by
    have haccounts := h.accounts id
    rw [tally_cons] at haccounts
    have hended : tally id (OwnerState.endedWork { s with ended := s.ended ++ [⟨work, ending⟩] }) =
        tally id s.endedWork + tally id [work] := by
      simp [OwnerState.endedWork]
    rw [hended]
    change _ + tally id s.pendingWork + tally id s.heldWork + _ = tally id s.dequeued
    omega
  fresh := h.fresh
  urgent := h.urgent
  whole := by
    simp only [List.forall_mem_append, List.forall_mem_singleton]
    exact ⟨h.whole, hending⟩
  guarded := h.guarded

/-- Work in hand goes to the engine. -/
theorem pends (h : Sound (work :: inHand) s) (id : UInt64) :
    Sound inHand { s with pending := s.pending ++ [⟨id, work⟩] } where
  accounts n := by
    have haccounts := h.accounts n
    rw [tally_cons] at haccounts
    have hpending : tally n (OwnerState.pendingWork { s with pending := s.pending ++ [⟨id, work⟩] }) =
        tally n s.pendingWork + tally n [work] := by
      simp [OwnerState.pendingWork]
    rw [hpending]
    change tally n s.endedWork + _ + tally n s.heldWork + _ = tally n s.dequeued
    omega
  fresh := h.fresh
  urgent := h.urgent
  whole := h.whole
  guarded := h.guarded

/-- Work in hand waits, where nothing else does. -/
theorem holds (h : Sound (work :: inHand) s) (hfree : s.auxiliary = none) (selector : UInt32)
    (value : Int64) :
    Sound inHand { s with
      auxiliary := some ⟨work, selector, value⟩
      ended := s.ended ++ s.auxiliary.toList.map fun old => ⟨old.work, .overwritten⟩ } := by
  have hended : (s.ended ++ s.auxiliary.toList.map fun old => (⟨old.work, .overwritten⟩ : EndedWork)) =
      s.ended := by
    rw [hfree]
    exact List.append_nil _
  rw [hended]
  refine ⟨fun id => ?_, h.fresh, h.urgent, h.whole, h.guarded⟩
  have haccounts := h.accounts id
  have hheld : tally id s.heldWork = 0 := by rw [OwnerState.heldWork, hfree]; rfl
  rw [tally_cons, hheld] at haccounts
  change tally id s.endedWork + tally id s.pendingWork + tally id [work] + _ = tally id s.dequeued
  omega

/-- Auxiliary work is taken. -/
theorem taken (h : Sound inHand s) {waiting : Auxiliary} (hwaiting : s.auxiliary = some waiting) :
    Sound (waiting.work :: inHand) { s with auxiliary := none } := by
  refine ⟨fun id => ?_, h.fresh, h.urgent, h.whole, h.guarded⟩
  have haccounts := h.accounts id
  have hheld : tally id s.heldWork = tally id [waiting.work] := by
    rw [OwnerState.heldWork, hwaiting]
    rfl
  rw [hheld] at haccounts
  rw [tally_cons]
  change tally id s.endedWork + tally id s.pendingWork + 0 + _ = tally id s.dequeued
  omega

theorem dequeuesUrgent (h : Sound inHand s) {rest : List RemoteWork} (hurgent : s.urgent = work :: rest) :
    Sound (work :: inHand) { s with urgent := rest, dequeued := s.dequeued ++ [work] } where
  accounts id := by
    have haccounts := h.accounts id
    rw [tally_cons, tally_append]
    change tally id s.endedWork + tally id s.pendingWork + tally id s.heldWork + _ = _
    omega
  fresh id := by
    have hfresh := h.fresh id
    rw [hurgent, tally_cons] at hfresh
    rw [tally_append]
    dsimp only
    omega
  urgent other hother := h.urgent other (hurgent ▸ List.mem_cons_of_mem work hother)
  whole := h.whole
  guarded := h.guarded

theorem dequeuesOrdinary (h : Sound inHand s) {rest : List RemoteWork}
    (hordinary : s.ordinary = work :: rest) :
    Sound (work :: inHand) { s with ordinary := rest, dequeued := s.dequeued ++ [work] } where
  accounts id := by
    have haccounts := h.accounts id
    rw [tally_cons, tally_append]
    change tally id s.endedWork + tally id s.pendingWork + tally id s.heldWork + _ = _
    omega
  fresh id := by
    have hfresh := h.fresh id
    rw [hordinary, tally_cons] at hfresh
    rw [tally_append]
    dsimp only
    omega
  urgent := h.urgent
  whole := h.whole
  guarded := h.guarded

/-- Pending work is taken from its place. -/
theorem released (h : Sound inHand s) {index : Nat} {pending : PendingWork}
    (hpending : s.pending[index]? = some pending) :
    Sound (pending.work :: inHand) { s with pending := swapRemove s.pending index } := by
  refine ⟨fun id => ?_, h.fresh, h.urgent, h.whole, h.guarded⟩
  have haccounts := h.accounts id
  have hmoved := tally_perm ((perm_swapRemove hpending).map PendingWork.work) id
  rw [List.map_cons, tally_cons] at hmoved
  rw [tally_cons]
  change tally id s.endedWork + tally id ((swapRemove s.pending index).map PendingWork.work) +
    tally id s.heldWork + _ = tally id s.dequeued
  change tally id s.endedWork + tally id (s.pending.map PendingWork.work) + _ + _ = _ at haccounts
  omega

/-- The device is called where nothing transmits. -/
theorem calls (h : Sound inHand s) {call : SettingCall} (hcall : call.Guarded) :
    Sound inHand { s with settingCalls := s.settingCalls ++ [call] } where
  accounts := h.accounts
  fresh := h.fresh
  urgent := h.urgent
  whole := h.whole
  guarded := by
    simp only [List.forall_mem_append, List.forall_mem_singleton]
    exact ⟨h.guarded, hcall⟩

theorem retire (h : Sound [] s) : Sound [] s.retire where
  accounts id := by
    have haccounts := h.accounts id
    have hended : tally id s.retire.endedWork =
        tally id s.endedWork + tally id s.heldWork + tally id s.pendingWork := by
      simp [OwnerState.retire, OwnerState.endedWork, OwnerState.heldWork, OwnerState.pendingWork,
        Function.comp_def, Nat.add_assoc]
    rw [hended]
    change _ + 0 + 0 + _ = tally id s.dequeued
    omega
  fresh := h.fresh
  urgent := h.urgent
  whole := by
    simp only [OwnerState.retire, List.forall_mem_append, List.forall_mem_map]
    exact ⟨⟨h.whole, fun _ _ => nofun⟩, fun _ _ => nofun⟩
  guarded := h.guarded

/-- The number of a request is new. -/
theorem submit (h : Sound [] s) (input : WorkInput) : Sound [] (s.submit input) := by
  have hid (id : Nat) : tally id [⟨s.submitted, input⟩] = if s.submitted = id then 1 else 0 :=
    tally_singleton _
  have hkept (urgent ordinary : List RemoteWork)
      (hqueues : ∀ id, tally id urgent + tally id ordinary ≤
        tally id s.urgent + tally id s.ordinary + tally id [⟨s.submitted, input⟩])
      (hurgent : ∀ work ∈ urgent, work.input.urgent = true) :
      Sound [] { s with submitted := s.submitted + 1, urgent, ordinary } := by
    refine ⟨h.accounts, fun id => ?_, hurgent, h.whole, h.guarded⟩
    have hfresh := h.fresh id
    have hqueue := hqueues id
    rw [hid] at hqueue
    dsimp only
    split_ifs at hfresh hqueue ⊢ <;> omega
  unfold OwnerState.submit
  dsimp only
  split
  · exact hkept s.urgent s.ordinary (fun id => Nat.le_add_right _ _) h.urgent
  split
  · next hinput =>
    split
    · next hempty =>
      refine hkept [⟨s.submitted, input⟩] s.ordinary (fun id => by omega) ?_
      exact List.forall_mem_singleton.mpr hinput
    · exact hkept s.urgent s.ordinary (fun id => Nat.le_add_right _ _) h.urgent
  · split
    · refine hkept s.urgent _ (fun id => ?_) h.urgent
      rw [tally_append]
      omega
    · exact hkept s.urgent s.ordinary (fun id => Nat.le_add_right _ _) h.urgent

end Sound

/-! ## The operations -/

section Operations

variable {work : RemoteWork} {inHand : List RemoteWork} {E : Int → OwnerState → Prop}

theorem endWork_sound {ending : Ending} (h : ending ≠ .overwritten) :
    (endWork work ending).Triple (Sound (work :: inHand)) (fun _ => Sound inHand) E :=
  .modify fun _ hs => hs.ends h

theorem complete_sound (result : Except RemoteRequestError RemoteReply) :
    (complete work result).Triple (Sound (work :: inHand)) (fun _ => Sound inHand) E :=
  endWork_sound nofun

theorem push_sound (id : UInt64) :
    (push ⟨id, work⟩).Triple (Sound (work :: inHand)) (fun _ => Sound inHand) E :=
  .modify fun _ hs => hs.pends id

theorem hold_sound (selector : UInt32) (value : Int64) :
    (hold ⟨work, selector, value⟩).Triple
      (fun s => Sound (work :: inHand) s ∧ s.auxiliary = none) (fun _ => Sound inHand) E :=
  .modify fun _ ⟨hs, hfree⟩ => hs.holds hfree selector value

/-- Work is admitted where nothing is held, or it is urgent. -/
theorem admit_sound (setup : OwnerSetup) (answers : Admission) :
    (admitWork setup answers work).Triple
      (fun s => Sound (work :: inHand) s ∧ (s.auxiliary = none ∨ work.input.urgent = true))
      (fun _ => Sound inHand) E := by
  have hcomplete (result : Except RemoteRequestError RemoteReply) :
      (complete work result).Triple
        (fun s => Sound (work :: inHand) s ∧ (s.auxiliary = none ∨ work.input.urgent = true))
        (fun _ => Sound inHand) E :=
    (complete_sound result).imp (fun _ hs => hs.1) (fun _ _ hs => hs) fun _ _ hs => hs
  unfold admitWork
  split
  · exact hcomplete _
  split
  · exact .panicked
  · exact hcomplete _
  · next selector value hready =>
    refine (hold_sound selector value).imp (fun s hs => ⟨hs.1, hs.2.resolve_right fun hurgent => ?_⟩)
      (fun _ _ hs => hs) fun _ _ hs => hs
    obtain ⟨request, hcore⟩ := prepare_urgent setup answers hurgent _ hready
    cases hcore
  · split
    · exact (push_sound _).imp (fun _ hs => hs.1) (fun _ _ hs => hs) fun _ _ hs => hs
    · exact hcomplete _
  · exact hcomplete _

theorem nextUrgent_sound :
    nextUrgent.Triple (Sound inHand) (fun next s => match next with
      | none => Sound inHand s
      | some work => Sound (work :: inHand) s ∧ (s.auxiliary = none ∨ work.input.urgent = true)) E := by
  intro s hs
  unfold nextUrgent
  cases hurgent : s.urgent with
  | nil => exact hs
  | cons work rest =>
    exact ⟨hs.dequeuesUrgent hurgent, .inr (hs.urgent work (hurgent ▸ List.mem_cons_self))⟩

theorem nextOrdinary_sound :
    nextOrdinary.Triple (fun s => Sound inHand s ∧ s.auxiliary = none) (fun next s => match next with
      | none => Sound inHand s
      | some work => Sound (work :: inHand) s ∧ (s.auxiliary = none ∨ work.input.urgent = true)) E := by
  intro s ⟨hs, hfree⟩
  unfold nextOrdinary
  cases hordinary : s.ordinary with
  | nil => exact hs
  | cons work rest => exact ⟨hs.dequeuesOrdinary hordinary, .inl hfree⟩

theorem admitNext_sound {P : OwnerState → Prop} {next : Owning (Option RemoteWork)}
    (h : next.Triple P (fun next s => match next with
      | none => Sound inHand s
      | some work => Sound (work :: inHand) s ∧ (s.auxiliary = none ∨ work.input.urgent = true)) E)
    (setup : OwnerSetup) (answers : Admission) :
    (admitNext setup answers next).Triple P (fun _ => Sound inHand) E := by
  refine h.bind fun next => ?_
  cases next with
  | none => exact .pure fun _ hs => hs
  | some work => exact admit_sound setup answers

theorem finish_sound (completion : UInt64 × Int) :
    (finish completion).Triple (Sound inHand) (fun _ => Sound inHand) E := by
  refine .get fun s hs => ?_
  split
  · exact .pure fun _ hs' => hs' ▸ hs
  · next index _ =>
    split
    · exact .panicked
    · next pending hpending =>
      refine .bind (Q := fun _ => Sound (pending.work :: inHand)) (.modify ?_) fun _ =>
        complete_sound _
      rintro _ rfl
      exact hs.released hpending

/-- The auxiliary work in hand is held again or ends, and the device is called where nothing transmits. -/
theorem serviceTaken_sound (answers : ServiceAnswers) (activity : Activity) (waiting : Auxiliary) :
    (serviceTaken answers activity waiting).Triple
      (fun s => Sound [waiting.work] s ∧ s.auxiliary = none) (fun _ => Sound [])
      fun _ => Sound [] := by
  have hcomplete (result : Except RemoteRequestError RemoteReply) :
      (complete waiting.work result).Triple (fun s => Sound [waiting.work] s ∧ s.auxiliary = none)
        (fun _ => Sound []) fun _ => Sound [] :=
    (complete_sound result).imp (fun _ hs => hs.1) (fun _ _ hs => hs) fun _ _ hs => hs
  have hhold : (hold waiting).Triple (fun s => Sound [waiting.work] s ∧ s.auxiliary = none)
      (fun _ => Sound []) fun _ => Sound [] := hold_sound waiting.selector waiting.value
  unfold serviceTaken
  split
  · refine .bind (Q := fun _ => Sound []) ?_ fun _ => .fail fun _ hs => hs
    have hdropped : (endWork waiting.work .abandoned).Triple (Sound [waiting.work])
        (fun _ => Sound []) fun _ => Sound [] := endWork_sound nofun
    exact hdropped.imp (fun _ hs => hs.1) (fun _ _ hs => hs) fun _ _ hs => hs
  · next snapshot _ =>
    split
    · exact hcomplete _
    split
    · exact hhold
    · next hidle =>
      simp only [Bool.or_eq_true, not_or, Bool.not_eq_true] at hidle
      split
      · exact hhold
      · next htransmit =>
        split
        · exact hcomplete _
        split
        · exact hhold
        · next hvalid hactive =>
          refine .bind (Q := fun _ => Sound [waiting.work]) (.modify fun s hs => ?_) fun _ =>
            complete_sound _
          exact hs.1.calls {
            valid := by simpa using hvalid
            inactive := by simpa using hactive
            enginePending := hidle.1.1.2
            physicalPtt := hidle.1.2
            renderedPtt := hidle.2
            transmitIdle := htransmit }
      · exact hcomplete _

theorem serviceAuxiliary_sound (answers : ServiceAnswers) (activity : Activity) :
    (serviceAuxiliary answers activity).Keeps (Sound []) := by
  refine Fallible.Triple.get fun s hs => ?_
  split
  · exact Fallible.Triple.pure fun _ hs' => hs' ▸ hs
  · next waiting hwaiting =>
    refine Fallible.Triple.bind (Fallible.Triple.modify ?_) fun _ => serviceTaken_sound answers activity waiting
    rintro _ rfl
    exact ⟨hs.taken hwaiting, rfl⟩

theorem admitOrdinary_sound (setup : OwnerSetup) (answers : Admission) :
    (admitOrdinary setup answers).Triple (Sound inHand) (fun _ => Sound inHand) E := by
  refine .get fun s hs => .whenever (fun hfree => ?_) fun _ _ hs' => hs' ▸ hs
  refine (admitNext_sound nextOrdinary_sound setup answers).imp ?_ (fun _ _ hs => hs) fun _ _ hs => hs
  rintro _ rfl
  exact ⟨hs, Option.isNone_iff_eq_none.mp hfree⟩

/-- **A call of `service` keeps the accounts**. -/
theorem service_sound (setup : OwnerSetup) (answers : ServiceAnswers) (activity : Activity) :
    (service setup answers activity).Keeps (Sound []) := by
  have hloop : (answers.completions.forM finish).Keeps (Sound []) :=
    Fallible.Triple.forM (I := fun _ => Sound []) fun _ completion _ _ => finish_sound completion
  refine .bind (admitNext_sound nextUrgent_sound setup answers.urgent) fun _ => ?_
  refine .get fun s _ => .bind hloop fun _ => .bind (.of _) fun _ => ?_
  refine .bind (admitOrdinary_sound setup answers.ordinary) fun _ => ?_
  refine .bind (.whenever fun _ => serviceAuxiliary_sound answers _) fun _ => ?_
  exact .bind (.of _) fun _ => .of _

end Operations

/-! ## No panic -/

section Returns

/-- Nothing is known of the state. -/
abbrev Free : OwnerState → Prop := fun _ => True

theorem complete_returns (work : RemoteWork) (result : Except RemoteRequestError RemoteReply) :
    (complete work result).Returns Free := .modify fun _ _ => trivial

theorem hold_returns (auxiliary : Auxiliary) : (hold auxiliary).Returns Free :=
  .modify fun _ _ => trivial

theorem admit_returns (setup : OwnerSetup) (answers : Admission) (work : RemoteWork) :
    (admitWork setup answers work).Returns Free := by
  unfold admitWork
  split
  · exact complete_returns _ _
  obtain ⟨result, hresult⟩ := prepare_total setup answers work
  rw [hresult]
  cases result with
  | error e => exact complete_returns _ _
  | ok ready =>
    cases ready with
    | auxiliary selector value => exact hold_returns _
    | reply reply => exact complete_returns _ _
    | core request =>
      dsimp only
      split
      · exact .modify fun _ _ => trivial
      · exact complete_returns _ _

theorem admitNext_returns (setup : OwnerSetup) (answers : Admission)
    {next : Owning (Option RemoteWork)} (h : next.Returns Free) :
    (admitNext setup answers next).Returns Free := by
  refine .bind h fun next => ?_
  cases next with
  | none => exact .pure ()
  | some work => exact admit_returns setup answers work

theorem nextUrgent_returns : nextUrgent.Returns Free := by
  intro s _
  unfold nextUrgent
  split <;> exact ⟨_, _, rfl, trivial⟩

theorem nextOrdinary_returns : nextOrdinary.Returns Free := by
  intro s _
  unfold nextOrdinary
  split <;> exact ⟨_, _, rfl, trivial⟩

/-- The number that has been found is that of a pending request. -/
theorem finish_returns (completion : UInt64 × Int) : (finish completion).Returns Free := by
  refine .get fun s _ => ?_
  split
  · exact .pure ()
  · next index hindex =>
    obtain ⟨hlt, -⟩ := List.findIdx?_eq_some_iff_getElem.mp hindex
    rw [List.getElem?_eq_getElem hlt]
    exact .bind (.modify fun _ _ => trivial) fun _ => complete_returns _ _

theorem serviceTaken_returns (answers : ServiceAnswers) (activity : Activity) (waiting : Auxiliary) :
    (serviceTaken answers activity waiting).Returns Free := by
  unfold serviceTaken
  split
  · exact .bind (.modify fun _ _ => trivial) fun _ => .fail _
  split
  · exact complete_returns _ _
  split
  · exact hold_returns _
  split
  · exact hold_returns _
  · split
    · exact complete_returns _ _
    split
    · exact hold_returns _
    · exact .bind (.modify fun _ _ => trivial) fun _ => complete_returns _ _
  · exact complete_returns _ _

/-- **A call of `service` does not panic**. -/
theorem service_returns (setup : OwnerSetup) (answers : ServiceAnswers) (activity : Activity) :
    (service setup answers activity).Returns Free := by
  refine .bind (admitNext_returns setup answers.urgent nextUrgent_returns) fun _ => ?_
  refine .get fun s _ => .bind (.forM finish_returns) fun _ => .bind (.of _) fun _ => ?_
  have hordinary : (admitOrdinary setup answers.ordinary).Returns Free :=
    .get fun _ _ => .whenever (admitNext_returns setup answers.ordinary nextOrdinary_returns)
  have hauxiliary : (serviceAuxiliary answers (withSource s.pending answers.pendingSource
      activity)).Returns Free := by
    refine .get fun s _ => ?_
    split
    · exact .pure ()
    · exact .bind (.modify fun _ _ => trivial) fun _ => serviceTaken_returns _ _ _
  exact .bind hordinary fun _ => .bind (.whenever hauxiliary) fun _ => .bind (.of _) fun _ => .of _

end Returns

/-! ## Runs -/

theorem sound_inductive (setup : OwnerSetup) (capacity : Nat) :
    (remoteOwner setup capacity).Inductive (fun _ _ => True) (Sound []) where
  init := by
    rintro _ rfl
    exact .initial capacity
  step s a s' h _ hstep := by
    cases a with
    | submit input =>
      obtain rfl := Option.some.inj hstep
      exact h.submit input
    | service answers activity =>
      obtain ⟨⟨result, after⟩, hrun, rfl⟩ := Option.map_eq_some_iff.mp hstep
      exact (service_sound setup answers activity).exec h hrun
    | retire =>
      obtain rfl := Option.some.inj hstep
      exact h.retire

/-- Work that has been dequeued has ended, is pending or is held, and only one of these; none has been
overwritten; and the device has been called only where nothing transmits. -/
structure OwnerContract (s : OwnerState) : Prop where
  exactlyOne : ∀ work ∈ s.dequeued,
    tally work.id s.endedWork + tally work.id s.pendingWork + tally work.id s.heldWork = 1
  whole : ∀ entry ∈ s.ended, entry.ending ≠ .overwritten
  guarded : ∀ call ∈ s.settingCalls, call.Guarded

theorem Sound.contract {s : OwnerState} (h : Sound [] s) : OwnerContract s where
  exactlyOne work hwork := by
    have haccounts := h.accounts work.id
    have hfresh := h.fresh work.id
    have hpos := tally_pos hwork
    rw [tally_nil] at haccounts
    split_ifs at hfresh <;> omega
  whole := h.whole
  guarded := h.guarded

/-- **No work is lost, and the device is touched only while nothing transmits**, in every run; and
another call of `service` returns, whatever it meets. -/
theorem remoteOwner_contract (setup : OwnerSetup) (capacity : Nat) {s : OwnerState}
    (h : (remoteOwner setup capacity).Reach s) :
    OwnerContract s ∧ ∀ answers activity, ∃ result s',
      service setup answers activity s = some (result, s') ∧ OwnerContract s' := by
  have hsound := (sound_inductive setup capacity).reach h
  refine ⟨hsound.contract, fun answers activity => ?_⟩
  obtain ⟨result, s', hrun, -⟩ := service_returns setup answers activity s trivial
  exact ⟨result, s', hrun, ((service_sound setup answers activity).exec hsound hrun).contract⟩

/-- A setting waits for the transmitter, and is made in the next cycle. -/
theorem remoteOwner_contract_setting :
    ∃ setup s, s.settingCalls.length = 1 ∧ s.ended.length = 1 ∧ s.heldWork = [] ∧ OwnerContract s ∧
      (remoteOwner setup 1).Reach s := by
  let setting : CatalogSetting := ⟨⟨18, true, 2, 0, 0, 0, 10, []⟩, true⟩
  let setup : OwnerSetup :=
    ⟨⟨[], none, #v[none, none, none], #v[none, none, none], 1000⟩, [], [setting]⟩
  let source : RemoteSource := ⟨true, true, false⟩
  let snapshot : OwnerSnapshot := ⟨⟨true, .zero, .zero⟩, false⟩
  let admission : Admission := ⟨source, .ok snapshot, .ok none, 0, .ok 0, .ok 1⟩
  let cycle (idle : Bool) : OwnerAct := .service ⟨admission, source, .ok (), [], .ok (), admission,
    .ok snapshot, source, source, source, .ok idle, .ok (), .ok snapshot⟩ ⟨false, false, false, false⟩
  let acts := [.submit (.command ⟨40, 1, 12, 18, 0, 5, 0, 0⟩), cycle false, cycle true]
  have hrun : ((remoteOwner setup 1).run (.initial 1) acts).any (fun s =>
      s.settingCalls.length = 1 ∧ s.ended.length = 1 ∧ s.auxiliary.isNone) = true := by
    decide +kernel
  obtain ⟨s, hrun, hs⟩ := (Option.any_eq_true _ _).mp hrun
  simp only [decide_eq_true_eq, Option.isNone_iff_eq_none] at hs
  have hreach : (remoteOwner setup 1).Reach s := ⟨_, acts, rfl, hrun⟩
  refine ⟨setup, s, hs.1, hs.2.1, ?_, (remoteOwner_contract setup 1 hreach).1, hreach⟩
  rw [OwnerState.heldWork, hs.2.2]
  rfl

end UsbRadioPlus.Driver
