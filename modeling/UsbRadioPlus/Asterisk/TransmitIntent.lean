import UsbRadioPlus.Asterisk.Transmit

/-!
# A transmit intent is neither lost nor overtaken

`Agrees` ties the pending word, the driver and the controller together in every run: a pending
intent is the last accepted one, and an indication that goes to the driver itself excludes the
worker's replay (`Agrees.step`).

That somebody replays a pending intent holds in runs that are `Tended`: the gate turns an indication away
only behind a `start_media` that has given the channel its worker, and neither a failing call of the
worker nor a hangup comes between an intent and its replay. A direct controller has no worker, so an intent
that it leaves is never replayed (`not_intact_direct`).
-/

namespace UsbRadioPlus.Asterisk

open Sys

namespace WorkerPc

/-- The worker was started and has not ended. -/
def alive : WorkerPc → Bool
  | notStarted | ended => false
  | _ => true

/-- A replay is under way. -/
def replaying : WorkerPc → Bool
  | calling _ | clearing _ => true
  | _ => false

end WorkerPc

namespace IndicationPc

/-- The indication has found nothing pending, and has not finished. -/
def direct : IndicationPc → Bool
  | tryRead _ | admitted _ | called .. | finish .. => true
  | _ => false

/-- The driver has applied the intent, and the indication will accept it. -/
def applies : IndicationPc → Option TransmitIntent
  | called intent status | finish intent (.completed status) =>
    if status = urpAstOk then some intent else none
  | _ => none

end IndicationPc

namespace Channel

variable {s s' : Channel}

/-- What the worker replays. -/
def Replays (s : Channel) : Prop :=
  match s.worker with
  | .calling raw => s.pendingTransmit ≠ PendingTransmit.none ∧ ∃ i, raw = PendingTransmit.new i
  | .clearing raw => s.pendingTransmit ≠ PendingTransmit.none ∧
      ∃ i, raw = PendingTransmit.new i ∧ s.applied = some i
  | _ => True

/-- The invariant of every run. -/
structure Agrees (s : Channel) : Prop where
  /-- A pending intent is the last accepted one. -/
  latest : s.pendingTransmit ≠ PendingTransmit.none →
    ∃ i, s.accepted = some i ∧ s.pendingTransmit = PendingTransmit.new i
  /-- An indication goes to the driver only if nothing is pending. -/
  direct : s.indication.direct = true → s.pendingTransmit = PendingTransmit.none
  replays : Replays s
  /-- If nothing is pending, the driver has the last accepted intent, or the one that the
  indication is about to accept. -/
  applied : s.pendingTransmit = PendingTransmit.none →
    s.applied = s.indication.applies.or s.accepted

theorem replays_of_not_replaying (h : s.worker.replaying = false) : Replays s := by
  unfold Replays
  split
  · next hw => rw [hw] at h; cases h
  · next hw => rw [hw] at h; cases h
  · trivial

theorem not_replaying (h : Agrees s) (hp : s.pendingTransmit = PendingTransmit.none) :
    s.worker.replaying = false := by
  have hr := h.replays
  unfold Replays at hr
  split at hr
  · exact absurd hp hr.1
  · exact absurd hp hr.1
  · next h1 h2 =>
    cases hw : s.worker with
    | calling raw => exact absurd hw (h1 raw)
    | clearing raw => exact absurd hw (h2 raw)
    | _ => rfl

theorem agrees_new : Agrees .new :=
  ⟨fun h => absurd rfl h, fun h => (by cases h), trivial, fun _ => rfl⟩

/-- An intent becomes pending. -/
theorem Agrees.store (h : Agrees s) (intent : TransmitIntent) :
    Agrees { s with
      pendingTransmit := PendingTransmit.new intent, accepted := some intent
      indication := .idle } where
  latest := fun _ => ⟨intent, rfl, rfl⟩
  direct := fun hd => by cases hd
  replays := by
    have hne := PendingTransmit.new_ne_none intent
    have hr := h.replays
    unfold Replays at hr ⊢
    simp only
    split
    · next hw => rw [hw] at hr; exact ⟨hne, hr.2⟩
    · next hw => rw [hw] at hr; exact ⟨hne, hr.2⟩
    · trivial
  applied := fun hp => absurd hp (PendingTransmit.new_ne_none intent)

theorem Agrees.transmitStep {admitted : Bool} {status : Int} (h : Agrees s)
    (hs : s.transmitStep admitted status = some s') : Agrees s' := by
  unfold Channel.transmitStep at hs
  cases hpc : s.indication with
  | idle => rw [hpc] at hs; cases hs
  | load intent =>
    rw [hpc] at hs
    simp only at hs
    split at hs
    · next hp =>
      obtain rfl := Option.some.inj hs
      exact ⟨h.latest, fun hd => (by cases hd), h.replays, fun hp' => absurd hp' hp⟩
    · next hp =>
      obtain rfl := Option.some.inj hs
      have happ := h.applied
      rw [hpc] at happ
      exact ⟨h.latest, fun _ => not_not.mp hp, h.replays, happ⟩
  | store intent =>
    rw [hpc] at hs
    obtain rfl := Option.some.inj hs
    exact h.store intent
  | tryRead intent =>
    have hnone := h.direct (by rw [hpc]; rfl)
    have happ := h.applied
    rw [hpc] at hs happ
    simp only at hs
    split at hs
    all_goals cases hs
    all_goals exact ⟨h.latest, fun _ => hnone, h.replays, happ⟩
  | admitted intent =>
    have hnone := h.direct (by rw [hpc]; rfl)
    have happ := h.applied hnone
    rw [hpc] at hs happ
    obtain rfl := Option.some.inj hs
    unfold Channel.apply
    split
    · next hok =>
      have hquiet := not_replaying h hnone
      refine ⟨h.latest, fun _ => hnone, replays_of_not_replaying hquiet, fun _ => ?_⟩
      simp [IndicationPc.applies, hok]
    · next hok =>
      refine ⟨h.latest, fun _ => hnone, h.replays, fun _ => ?_⟩
      simpa [IndicationPc.applies, hok] using happ
  | called intent status =>
    have hnone := h.direct (by rw [hpc]; rfl)
    have happ := h.applied hnone
    rw [hpc] at hs happ
    obtain rfl := Option.some.inj hs
    exact ⟨h.latest, fun _ => hnone, h.replays, fun _ => happ⟩
  | finish intent attempt =>
    have hnone := h.direct (by rw [hpc]; rfl)
    have happ := h.applied hnone
    rw [hpc] at hs happ
    cases attempt with
    | deferred =>
      obtain rfl := Option.some.inj hs
      exact h.store intent
    | completed status =>
      simp only at hs
      split at hs
      · next hok =>
        obtain rfl := Option.some.inj hs
        exact ⟨fun hp => absurd hnone hp, fun hd => (by cases hd), h.replays, fun _ => by
          simpa [IndicationPc.applies, hok] using happ⟩
      · next hok =>
        obtain rfl := Option.some.inj hs
        exact ⟨h.latest, fun hd => (by cases hd), h.replays, fun _ => by
          simpa [IndicationPc.applies, hok] using happ⟩
    | failed =>
      obtain rfl := Option.some.inj hs
      exact ⟨h.latest, fun hd => (by cases hd), h.replays, fun _ => happ⟩

theorem Agrees.workerStep {status : Int} (h : Agrees s) (hs : s.workerStep status = some s') :
    Agrees s' := by
  have hidle : ∀ {w : WorkerPc} {failed : Bool}, w.replaying = false →
      Agrees { s with serviceFailed := failed, worker := w } := fun hw =>
    ⟨h.latest, h.direct, replays_of_not_replaying hw, h.applied⟩
  unfold Channel.workerStep at hs
  cases hpc : s.worker with
  | notStarted => rw [hpc] at hs; cases hs
  | ended => rw [hpc] at hs; cases hs
  | top =>
    rw [hpc] at hs
    obtain rfl := Option.some.inj hs
    exact hidle (by split <;> rfl)
  | load =>
    rw [hpc] at hs
    simp only at hs
    split at hs
    · obtain rfl := Option.some.inj hs
      exact hidle rfl
    · next intent hdecode =>
      obtain rfl := Option.some.inj hs
      have hne : s.pendingTransmit ≠ PendingTransmit.none := by
        intro hp
        rw [hp, PendingTransmit.decode_none] at hdecode
        cases hdecode
      obtain ⟨i, -, hi⟩ := h.latest hne
      exact ⟨h.latest, h.direct, ⟨hne, i, hi⟩, h.applied⟩
  | calling raw =>
    have hr := h.replays
    unfold Replays at hr
    rw [hpc] at hs hr
    obtain ⟨hne, i, rfl⟩ := hr
    simp only [PendingTransmit.decode_new] at hs
    split at hs
    · next hok =>
      obtain rfl := Option.some.inj hs
      unfold Channel.apply
      rw [if_pos hok]
      exact ⟨h.latest, h.direct, ⟨hne, i, rfl, rfl⟩, fun hp => absurd hp hne⟩
    · split at hs
      · obtain rfl := Option.some.inj hs
        exact hidle rfl
      · obtain rfl := Option.some.inj hs
        exact hidle rfl
  | clearing raw =>
    have hr := h.replays
    unfold Replays at hr
    rw [hpc] at hs hr
    obtain ⟨hne, i, rfl, happ⟩ := hr
    simp only at hs
    split at hs
    · next heq =>
      obtain rfl := Option.some.inj hs
      -- the word still holds the intent that was replayed, so that is the last accepted one
      obtain ⟨j, hj, hpending⟩ := h.latest hne
      obtain rfl := PendingTransmit.new_injective (heq.symm.trans hpending)
      refine ⟨fun hp => absurd rfl hp, fun _ => rfl, trivial, fun _ => ?_⟩
      have hnot : s.indication.direct = false := by
        by_contra hd
        exact hne (h.direct (by simpa using hd))
      have hno : s.indication.applies = none := by
        cases hi : s.indication <;> first | rfl | (rw [hi] at hnot; cases hnot)
      show s.applied = s.indication.applies.or s.accepted
      rw [hno, happ, hj]
      rfl
    · obtain rfl := Option.some.inj hs
      exact hidle rfl
  | serving =>
    rw [hpc] at hs
    simp only at hs
    split at hs
    · obtain rfl := Option.some.inj hs
      exact hidle rfl
    · obtain rfl := Option.some.inj hs
      exact hidle rfl
  | sleeping =>
    rw [hpc] at hs
    obtain rfl := Option.some.inj hs
    exact hidle rfl

theorem Agrees.step {a : ChannelAct} (h : Agrees s) (hs : s.step a = some s') : Agrees s' := by
  have hgate : ∀ g, Agrees { s with gate := g } := fun g =>
    ⟨h.latest, h.direct, h.replays, h.applied⟩
  cases a with
  | setDirect =>
    obtain rfl := Option.some.inj hs
    exact ⟨h.latest, h.direct, h.replays, h.applied⟩
  | startMedia status spawned =>
    simp only [Channel.step, Channel.startMedia] at hs
    split at hs
    · split at hs
      · obtain rfl := Option.some.inj hs
        exact h
      · split at hs
        · obtain rfl := Option.some.inj hs
          exact ⟨h.latest, h.direct, trivial, h.applied⟩
        · obtain rfl := Option.some.inj hs
          exact h
    · cases hs
  | indicate intent =>
    simp only [Channel.step] at hs
    split at hs
    · next hidle =>
      obtain rfl := Option.some.inj hs
      have happ := h.applied
      rw [hidle] at happ
      exact ⟨h.latest, fun hd => (by cases hd), h.replays, happ⟩
    · cases hs
  | transmitStep admitted status => exact h.transmitStep hs
  | workerStep status => exact h.workerStep hs
  | requestGate =>
    simp only [Channel.step] at hs
    split at hs
    · obtain rfl := Option.some.inj hs
      exact hgate _
    · cases hs
  | closeGate =>
    simp only [Channel.step] at hs
    split at hs
    · obtain rfl := Option.some.inj hs
      exact hgate _
    · cases hs
  | openGate =>
    simp only [Channel.step] at hs
    split at hs
    · obtain rfl := Option.some.inj hs
      exact hgate _
    · cases hs
  | poisonGate =>
    simp only [Channel.step] at hs
    split at hs
    · obtain rfl := Option.some.inj hs
      exact hgate _
    · cases hs
  | stopWorker =>
    obtain rfl := Option.some.inj hs
    exact ⟨h.latest, h.direct, h.replays, h.applied⟩

/-! ## A worker for every pending intent -/

/-- The delivery worker runs and is not told to stop. -/
def Delivers (s : Channel) : Prop := s.worker.alive = true ∧ s.deliveryStop = false

instance : Decidable (Delivers s) := inferInstanceAs (Decidable (_ ∧ _))

/-- The indication is in front of the store of its intent. -/
def leaves (s : Channel) : Bool :=
  match s.indication with
  | .store _ | .finish _ .deferred => true
  | _ => false

/-- An intent waits for its replay, or is about to. -/
def Waits (s : Channel) : Prop := s.pendingTransmit ≠ PendingTransmit.none ∨ s.leaves = true

instance : Decidable (Waits s) := inferInstanceAs (Decidable (_ ∨ _))

/-- The gate turns the indication away: a reload holds it or waits for it. -/
def turnsAway (s : Channel) (admitted : Bool) : Bool :=
  match s.indication, s.gate with
  | .tryRead _, .waiting | .tryRead _, .closed => !admitted
  | _, _ => false

/-- A control call of the worker fails, and ends it. -/
def callFails (s : Channel) (status : Int) : Bool :=
  match s.worker with
  | .calling _ | .serving => status ≠ urpAstOk && status ≠ urpAstChannelBusy
  | _ => false

/-- What keeps every intent in good hands: the gate turns an indication away only when `start_media` has
given the channel its worker, no call of the worker has failed and nobody has hung up; and no call of the
worker fails and nobody hangs up while an intent waits. -/
def Tended (s : Channel) : ChannelAct → Prop
  | .transmitStep admitted _ => s.turnsAway admitted = true →
      s.worker ≠ .notStarted ∧ s.serviceFailed = false ∧ s.deliveryStop = false
  | .workerStep status => s.callFails status = true → ¬ s.Waits
  | .stopWorker => ¬ s.Waits
  | _ => True

instance (a : ChannelAct) : Decidable (Tended s a) := by
  cases a <;> (unfold Tended; infer_instance)

/-- A worker that has ended was told to, or has failed. -/
def Accounted (s : Channel) : Prop :=
  s.worker = .ended → s.serviceFailed = true ∨ s.deliveryStop = true

/-- Somebody replays an intent that waits. -/
structure Attended (s : Channel) : Prop where
  accounted : Accounted s
  delivers : Waits s → Delivers s

theorem accounted_of_alive (h : s.worker.alive = true) : Accounted s := fun hended => by
  rw [hended] at h
  cases h

/-- A worker that was started, and has neither failed nor been told to stop, delivers. -/
theorem Accounted.delivers (h : Accounted s) (hstarted : s.worker ≠ .notStarted)
    (hfailed : s.serviceFailed = false) (hstop : s.deliveryStop = false) : Delivers s := by
  refine ⟨?_, hstop⟩
  cases hw : s.worker with
  | notStarted => exact absurd hw hstarted
  | ended =>
    obtain hf | hd := h hw
    · rw [hfailed] at hf; cases hf
    · rw [hstop] at hd; cases hd
  | _ => rfl

/-- The worker takes no part in an indication: what it delivers, it still does. -/
theorem Attended.indicated (h : Attended s) (hworker : s'.worker = s.worker)
    (hfailed : s'.serviceFailed = s.serviceFailed) (hstop : s'.deliveryStop = s.deliveryStop)
    (hwaits : Waits s' → Delivers s) : Attended s' where
  accounted := by
    unfold Accounted
    rw [hworker, hfailed, hstop]
    exact h.accounted
  delivers := fun hw => by
    unfold Delivers
    rw [hworker, hstop]
    exact hwaits hw

theorem Attended.transmitStep {admitted : Bool} {status : Int} (h : Attended s)
    (hC : Tended s (.transmitStep admitted status)) (hs : s.transmitStep admitted status = some s') :
    Attended s' := by
  have hpending : s.pendingTransmit ≠ PendingTransmit.none → Delivers s := fun hp =>
    h.delivers (.inl hp)
  unfold Channel.transmitStep at hs
  cases hpc : s.indication with
  | idle => rw [hpc] at hs; cases hs
  | load intent =>
    rw [hpc] at hs
    simp only at hs
    split at hs
    · next hp =>
      obtain rfl := Option.some.inj hs
      exact h.indicated rfl rfl rfl fun _ => hpending hp
    · obtain rfl := Option.some.inj hs
      exact h.indicated rfl rfl rfl fun hw => hpending (hw.resolve_right (by simp [leaves]))
  | store intent =>
    rw [hpc] at hs
    obtain rfl := Option.some.inj hs
    exact h.indicated rfl rfl rfl fun _ => h.delivers (.inr (by simp [leaves, hpc]))
  | tryRead intent =>
    rw [hpc] at hs
    -- the gate that turns it away: its intent is left to the worker
    have haway : s.turnsAway admitted = true → Delivers s := fun hw =>
      have hcause := hC hw
      h.accounted.delivers hcause.1 hcause.2.1 hcause.2.2
    cases hgate : s.gate <;> cases admitted <;> rw [hgate] at hs <;> simp only at hs <;> cases hs
    case tryRead.waiting.false.refl =>
      exact h.indicated rfl rfl rfl fun _ => haway (by simp [turnsAway, hpc, hgate])
    case tryRead.closed.false.refl =>
      exact h.indicated rfl rfl rfl fun _ => haway (by simp [turnsAway, hpc, hgate])
    all_goals exact h.indicated rfl rfl rfl fun hw => hpending (hw.resolve_right (by simp [leaves]))
  | admitted intent =>
    rw [hpc] at hs
    obtain rfl := Option.some.inj hs
    unfold Channel.apply
    split <;>
      exact h.indicated rfl rfl rfl fun hw => hpending (hw.resolve_right (by simp [leaves]))
  | called intent status =>
    rw [hpc] at hs
    obtain rfl := Option.some.inj hs
    exact h.indicated rfl rfl rfl fun hw => hpending (hw.resolve_right (by simp [leaves]))
  | finish intent attempt =>
    rw [hpc] at hs
    cases attempt with
    | deferred =>
      obtain rfl := Option.some.inj hs
      exact h.indicated rfl rfl rfl fun _ => h.delivers (.inr (by simp [leaves, hpc]))
    | completed status =>
      simp only at hs
      split at hs <;> obtain rfl := Option.some.inj hs <;>
        exact h.indicated rfl rfl rfl fun hw => hpending (hw.resolve_right (by simp [leaves]))
    | failed =>
      obtain rfl := Option.some.inj hs
      exact h.indicated rfl rfl rfl fun hw => hpending (hw.resolve_right (by simp [leaves]))

/-- A worker that goes on. -/
theorem Attended.worked (h : Attended s) (halive : s'.worker.alive = true)
    (hstop : s'.deliveryStop = s.deliveryStop) (hwaits : Waits s' → Waits s) : Attended s' where
  accounted := accounted_of_alive halive
  delivers := fun hw => ⟨halive, hstop.trans (h.delivers (hwaits hw)).2⟩

/-- A worker that a failing call ends. -/
theorem attended_of_failed (hw : ¬ Waits s) :
    Attended { s with serviceFailed := true, worker := .ended } :=
  ⟨fun _ => .inl rfl, fun hw' => absurd hw' hw⟩

theorem Attended.workerStep {status : Int} (h : Attended s) (hC : Tended s (.workerStep status))
    (hs : s.workerStep status = some s') : Attended s' := by
  unfold Channel.workerStep at hs
  cases hpc : s.worker with
  | notStarted => rw [hpc] at hs; cases hs
  | ended => rw [hpc] at hs; cases hs
  | top =>
    rw [hpc] at hs
    obtain rfl := Option.some.inj hs
    cases hstop : s.deliveryStop with
    | true =>
      refine ⟨fun _ => .inr rfl, fun hw => ?_⟩
      have hd : s.deliveryStop = false := (h.delivers hw).2
      rw [hstop] at hd
      cases hd
    | false => exact h.worked rfl hstop.symm id
  | load =>
    rw [hpc] at hs
    simp only at hs
    split at hs <;> (obtain rfl := Option.some.inj hs; exact h.worked rfl rfl id)
  | calling raw =>
    rw [hpc] at hs
    simp only at hs
    split at hs
    · cases hs
    · split at hs
      · obtain rfl := Option.some.inj hs
        unfold Channel.apply
        split <;> exact h.worked rfl rfl id
      · split at hs
        · obtain rfl := Option.some.inj hs
          exact h.worked rfl rfl id
        · next hok hbusy =>
          obtain rfl := Option.some.inj hs
          exact attended_of_failed (hC (by simp [callFails, hpc, hok, hbusy]))
  | clearing raw =>
    rw [hpc] at hs
    simp only at hs
    split at hs
    · obtain rfl := Option.some.inj hs
      exact h.worked rfl rfl fun hw => .inr (hw.resolve_left fun hp => hp rfl)
    · obtain rfl := Option.some.inj hs
      exact h.worked rfl rfl id
  | serving =>
    rw [hpc] at hs
    simp only at hs
    split at hs
    · next hfail =>
      obtain rfl := Option.some.inj hs
      exact attended_of_failed (hC (by simp [callFails, hpc, hfail.1, hfail.2]))
    · obtain rfl := Option.some.inj hs
      exact h.worked rfl rfl id
  | sleeping =>
    rw [hpc] at hs
    obtain rfl := Option.some.inj hs
    exact h.worked rfl rfl id

theorem Attended.step {a : ChannelAct} (h : Attended s) (hC : Tended s a)
    (hs : s.step a = some s') : Attended s' := by
  cases a with
  | setDirect =>
    obtain rfl := Option.some.inj hs
    exact ⟨h.accounted, h.delivers⟩
  | startMedia status spawned =>
    simp only [Channel.step, Channel.startMedia] at hs
    split at hs
    · split at hs
      · obtain rfl := Option.some.inj hs
        exact h
      · split at hs
        · obtain rfl := Option.some.inj hs
          exact ⟨accounted_of_alive rfl, fun _ => ⟨rfl, rfl⟩⟩
        · obtain rfl := Option.some.inj hs
          exact h
    · cases hs
  | indicate intent =>
    simp only [Channel.step] at hs
    split at hs
    · obtain rfl := Option.some.inj hs
      exact h.indicated rfl rfl rfl fun hw =>
        h.delivers (.inl (hw.resolve_right (by simp [leaves])))
    · cases hs
  | transmitStep admitted status => exact h.transmitStep hC hs
  | workerStep status => exact h.workerStep hC hs
  | stopWorker =>
    obtain rfl := Option.some.inj hs
    exact ⟨fun _ => .inr rfl, fun hw => absurd hw hC⟩
  | _ =>
    simp only [Channel.step] at hs
    split at hs
    · obtain rfl := Option.some.inj hs
      exact ⟨h.accounted, h.delivers⟩
    · cases hs

theorem agrees_inductive :
    channelRuns.Inductive Tended fun s => Agrees s ∧ Attended s where
  init := by
    rintro s rfl
    exact ⟨agrees_new, fun hended => (by cases hended),
      fun hw => absurd rfl (hw.resolve_right (by decide))⟩
  step := fun _ _ _ h hC hs => ⟨h.1.step hs, h.2.step hC hs⟩

/-! ## The replay of a pending intent -/

/-- Steps of the worker alone, whose calls succeed. -/
def Replayed (s : Channel) : Prop :=
  ∃ n s', channelRuns.run s (List.replicate n (.workerStep urpAstOk)) = some s' ∧
    s'.pendingTransmit = PendingTransmit.none ∧ s'.applied = s.accepted

theorem Replayed.of_step {m : Channel} (hs : s.workerStep urpAstOk = some m)
    (hm : Replayed m) (haccepted : m.accepted = s.accepted) : Replayed s := by
  obtain ⟨n, s', hrun, hnone, happ⟩ := hm
  exact ⟨n + 1, s', System.run_cons.mpr ⟨m, hs, hrun⟩, hnone, happ.trans haccepted⟩

section

variable {intent : TransmitIntent} (hpending : s.pendingTransmit = PendingTransmit.new intent)
  (haccepted : s.accepted = some intent)

include hpending haccepted

theorem replayed_of_load (hpc : s.worker = .load) : Replayed s := by
  refine ⟨3, { s with
    worker := .serving, pendingTransmit := PendingTransmit.none, applied := some intent }, ?_, rfl,
    haccepted.symm⟩
  simp [List.replicate, System.run, channelRuns, Channel.step, Channel.workerStep, Channel.apply,
    hpc, hpending, PendingTransmit.decode_new]

theorem replayed_of_top (hpc : s.worker = .top) (hstop : s.deliveryStop = false) : Replayed s :=
  .of_step (m := { s with worker := .load }) (by simp [Channel.workerStep, hpc, hstop])
    (replayed_of_load hpending haccepted rfl) rfl

theorem replayed_of_sleeping (hpc : s.worker = .sleeping) (hstop : s.deliveryStop = false) :
    Replayed s :=
  .of_step (m := { s with worker := .top }) (by simp [Channel.workerStep, hpc])
    (replayed_of_top hpending haccepted rfl hstop) rfl

theorem replayed_of_serving (hpc : s.worker = .serving) (hstop : s.deliveryStop = false) :
    Replayed s :=
  .of_step (m := { s with worker := .sleeping }) (by simp [Channel.workerStep, hpc])
    (replayed_of_sleeping hpending haccepted rfl hstop) rfl

theorem replayed_of_clearing {raw : U64} (hpc : s.worker = .clearing raw)
    (hstop : s.deliveryStop = false)
    (happ : s.pendingTransmit = raw → s.applied = some intent) : Replayed s := by
  by_cases hraw : s.pendingTransmit = raw
  · refine ⟨1, { s with worker := .serving, pendingTransmit := PendingTransmit.none }, ?_, rfl,
      (happ hraw).trans haccepted.symm⟩
    simp [System.run, channelRuns, Channel.step, Channel.workerStep, hpc, hraw]
  · exact .of_step (m := { s with worker := .serving })
      (by simp [Channel.workerStep, hpc, hraw])
      (replayed_of_serving hpending haccepted rfl hstop) rfl

end

/-- A pending intent of a channel whose worker delivers is replayed by the worker. -/
theorem replayed (h : Agrees s) (hd : Delivers s)
    (hp : s.pendingTransmit ≠ PendingTransmit.none) : Replayed s := by
  obtain ⟨intent, haccepted, hpending⟩ := h.latest hp
  obtain ⟨halive, hstop⟩ := hd
  cases hpc : s.worker with
  | notStarted => rw [hpc] at halive; cases halive
  | ended => rw [hpc] at halive; cases halive
  | top => exact replayed_of_top hpending haccepted hpc hstop
  | load => exact replayed_of_load hpending haccepted hpc
  | serving => exact replayed_of_serving hpending haccepted hpc hstop
  | sleeping => exact replayed_of_sleeping hpending haccepted hpc hstop
  | calling raw =>
    have hr := h.replays
    unfold Replays at hr
    rw [hpc] at hr
    obtain ⟨-, i, rfl⟩ := hr
    refine .of_step
      (m := { s with applied := some i, worker := .clearing (PendingTransmit.new i) })
      (by simp [Channel.workerStep, Channel.apply, hpc, PendingTransmit.decode_new])
      (replayed_of_clearing hpending haccepted rfl hstop fun heq => ?_) rfl
    exact congrArg some (PendingTransmit.new_injective (hpending.symm.trans heq)).symm
  | clearing raw =>
    have hr := h.replays
    unfold Replays at hr
    rw [hpc] at hr
    obtain ⟨-, i, rfl, happ⟩ := hr
    refine replayed_of_clearing hpending haccepted hpc hstop fun heq => happ.trans ?_
    exact congrArg some (PendingTransmit.new_injective (hpending.symm.trans heq)).symm

/-! ## The contract -/

/-- No intent is lost or overtaken. -/
structure Intact (s : Channel) : Prop where
  /-- A pending intent is the last accepted one. -/
  latest : s.pendingTransmit ≠ PendingTransmit.none →
    ∃ i, s.accepted = some i ∧ s.pendingTransmit = PendingTransmit.new i
  /-- If nothing is pending and no call is in progress, the driver has the last accepted one. -/
  applied : s.pendingTransmit = PendingTransmit.none → s.indication = .idle →
    s.applied = s.accepted
  /-- A pending intent has a worker that replays it. -/
  replayed : s.pendingTransmit ≠ PendingTransmit.none → Delivers s ∧ Replayed s

/-- **No intent is lost or overtaken** in a run that is tended: a worker takes each intent that the gate turns
away, and lives until it is replayed. -/
theorem intact_of_reachBy (h : channelRuns.ReachBy Tended s) : Intact s := by
  obtain ⟨hagrees, hattended⟩ := agrees_inductive.reachBy h
  refine ⟨hagrees.latest, fun hp hidle => ?_, fun hp => ⟨hattended.delivers (.inl hp), ?_⟩⟩
  · have happ := hagrees.applied hp
    rw [hidle] at happ
    exact happ
  · exact replayed hagrees (hattended.delivers (.inl hp)) hp

/-- A key that the driver applies, and an unkey that meets a closed gate; the worker tries its replay and
is told that the channel is busy. -/
def deferredUnkey : List ChannelAct :=
  [.startMedia 0 true, .indicate ⟨true, 1000⟩, .transmitStep true 0, .transmitStep true 0,
    .transmitStep true 0, .transmitStep true 0, .transmitStep true 0, .requestGate, .closeGate,
    .indicate ⟨false, 0⟩, .transmitStep false 0, .transmitStep false 0, .transmitStep false 0,
    .workerStep 0, .workerStep 0, .workerStep urpAstChannelBusy]

theorem intact_of_deferredUnkey :
    ∃ s, channelRuns.run .new deferredUnkey = some s ∧
      s.pendingTransmit ≠ PendingTransmit.none ∧ Intact s :=
  ⟨_, rfl, by decide, intact_of_reachBy ⟨_, deferredUnkey, rfl,
    .of_checked (c := fun s a => decide (Tended s a)) (fun _ _ h => of_decide_eq_true h) (by decide),
    rfl⟩⟩

/-- A direct controller that has no worker gets none. -/
theorem direct_step {a : ChannelAct} (hs : s.step a = some s')
    (h : s.direct = true ∧ s.worker = .notStarted) : s'.direct = true ∧ s'.worker = .notStarted := by
  obtain ⟨hdirect, hworker⟩ := h
  cases a with
  | setDirect =>
    obtain rfl := Option.some.inj hs
    exact ⟨rfl, hworker⟩
  | startMedia status spawned =>
    simp only [Channel.step, Channel.startMedia, hworker, hdirect] at hs
    split at hs <;> cases hs <;> exact ⟨hdirect, hworker⟩
  | transmitStep admitted status =>
    simp only [Channel.step, Channel.transmitStep, Channel.apply] at hs
    repeat' split at hs
    all_goals cases hs
    all_goals exact ⟨hdirect, hworker⟩
  | workerStep status =>
    simp only [Channel.step, Channel.workerStep, hworker] at hs
    cases hs
  | stopWorker =>
    obtain rfl := Option.some.inj hs
    exact ⟨hdirect, hworker⟩
  | _ =>
    simp only [Channel.step] at hs
    split at hs <;> cases hs
    exact ⟨hdirect, hworker⟩

/-- Whatever a direct controller has pending, in no later run does a worker deliver it. -/
theorem not_delivers_of_direct {as : List ChannelAct} (hdirect : s.direct = true)
    (hworker : s.worker = .notStarted) (hrun : channelRuns.run s as = some s') : ¬ Delivers s' := by
  have hmeets : channelRuns.Meets (fun _ _ => True) s as := .of_forall (fun _ _ => trivial) s as
  have hkept := hmeets.kept (I := fun s => s.direct = true ∧ s.worker = .notStarted)
    (fun _ _ _ h _ hs => direct_step hs h) ⟨hdirect, hworker⟩ hrun
  intro hd
  have halive := hd.1
  rw [hkept.2] at halive
  cases halive

/-- A direct controller keys the channel, and unkeys it during a reload. -/
def directUnkey : List ChannelAct :=
  [.setDirect, .startMedia 0 true, .indicate ⟨true, 0⟩, .transmitStep true 0, .transmitStep true 0,
    .transmitStep true 0, .transmitStep true 0, .transmitStep true 0, .requestGate, .closeGate,
    .indicate ⟨false, 0⟩, .transmitStep false 0, .transmitStep false 0, .transmitStep false 0,
    .openGate]

/-- The unkey is pending for ever, and the driver keeps the key. -/
theorem not_intact_direct :
    ∃ s, channelRuns.Reach s ∧ s.indication = .idle ∧ s.gate = .open ∧ s.worker = .notStarted ∧
      s.accepted = some ⟨false, 0⟩ ∧ s.applied = some ⟨true, 0⟩ ∧ ¬ Intact s := by
  refine ⟨_, ⟨_, directUnkey, rfl, rfl⟩, rfl, rfl, rfl, rfl, rfl, fun h => ?_⟩
  exact absurd (h.replayed (by decide)).1 (by decide)

end Channel
end UsbRadioPlus.Asterisk
