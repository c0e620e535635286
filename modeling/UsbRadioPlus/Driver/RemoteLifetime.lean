import UsbRadioPlus.Driver.RemoteQueueContract
import UsbRadioPlus.Driver.RemoteRun
import UsbRadioPlus.Driver.RemoteStable

/-!
# The request queue and its owner (`rust/driver/src/hardware_host.rs`)

A `HardwareService` creates a request queue at each start and hands it to its worker. The worker
retires the queue behind a failed admission and with its generation; the service does so behind a
failed start and before it stops the worker. Where every opening of a generation gets past the opening
of the rig, a queue that accepts requests has a worker that holds the generation or is in front of it
(`retained_of_reachBy`). An opening that fails earlier leaves its queue to nobody
(`not_retained_of_closedRig`).

Devices that a failed close leaves behind are left out: a later `stop` or `start` only closes them.
The caller of `remote_submit` excludes `start` and `stop`, so the worker that it wakes is the one that
was there when the queue accepted.
-/

namespace UsbRadioPlus
namespace Driver

open Sys Station

variable {ρ : Type} {worker : ServiceWorker} {setup : RemoteSetup} {capacity : Nat}

/-! ## The service -/

/-- `HardwareService` of a radio that is tuned remotely. -/
structure HardwareService (ρ : Type) where
  worker : Option RemoteWorker
  /-- The worker is told to stop. -/
  stop : Bool
  /-- The queue of the last start. -/
  remoteQueue : Option (RemoteQueue ρ)
  /-- History: the queues of earlier starts. Their tickets may still be polled. -/
  former : List (RemoteQueue ρ)

/-- A worker in front of its start. -/
def RemoteWorker.new (outputs : OutputState) (next : Nat) (signals : RemoteHardwareSignals) :
    RemoteWorker where
  service := {
    outputs
    devices := ⟨none, none, false⟩
    next
    control := .remote none false
    inputs := HardwareInputs.none
    log := [] }
  control := .withdrawn
  signals
  tune := false
  generation := none
  accepting := true
  ready := false
  phase := .created
  served := false

namespace RemoteQueue

/-- The owner retires all requests. -/
def retire (q : RemoteQueue ρ) : RemoteQueue ρ := { q with accepting := false }

/-- What the worker has done with its queue. -/
def follow (q : RemoteQueue ρ) (w : RemoteWorker) : RemoteQueue ρ :=
  { q with accepting := q.accepting && w.accepting, ready := q.ready || w.ready }

end RemoteQueue

/-- A step of a caller, of a ticket or of work that was dequeued. -/
def QueueAct.ofTicket : QueueAct ρ → Bool
  | .nextUrgent | .nextOrdinary | .markReady | .retire => false
  | _ => true

/-- What happens to the service. -/
inductive HardwareAct (ρ : Type) where
  /-- `devices`: what is opened, if that succeeds. `answers` and `moment` are about the first service. -/
  | start (outputs : OutputState) (next : Nat) (signals : RemoteHardwareSignals)
    (devices : Option ServiceDevices) (answers : DeviceAnswers) (moment : Moment)
  /-- `stop` or `poll_stop`, up to the end of the worker. -/
  | stop
  /-- The worker has ended and is joined. -/
  | join
  | worker (act : RemoteAct)
  /-- The owner takes a request. -/
  | dequeue (urgent : Bool)
  | ticket (act : QueueAct ρ)
  | formerTicket (index : Nat) (act : QueueAct ρ)

namespace HardwareService

variable (self : HardwareService ρ)

/-- `HardwareService::start`. A failure behind the opening of the devices retires the new queue. -/
def start (capacity : Nat) (worker : ServiceWorker) (outputs : OutputState) (next : Nat)
    (signals : RemoteHardwareSignals) (devices : Option ServiceDevices) (answers : DeviceAnswers)
    (moment : Moment) : Option (HardwareService ρ) :=
  if self.worker.isSome then some self
  else match devices with
    | none => some self
    | some devices =>
      ((RemoteWorker.new outputs next signals).exec
        (startService worker devices answers moment)).map fun w => {
          worker := if w.phase = .starting then some w else none
          stop := false
          remoteQueue := some ((RemoteQueue.new capacity).follow w)
          former := self.remoteQueue.toList ++ self.former }

/-- The owner of the queue takes a request. -/
def dequeue (urgent : Bool) : Option (HardwareService ρ) :=
  match self.worker, self.remoteQueue with
  | some w, some q =>
    if w.generation.isSome then
      (if urgent then q.nextUrgent else q.nextOrdinary).map fun q =>
        { self with remoteQueue := some q }
    else none
  | _, _ => none

/-- The loop of the worker ends where it finds that it is told to. -/
def permits : RemoteAct → Bool
  | .stop => self.stop
  | _ => true

/-- A step of the service, of its worker or of a caller. -/
def step (capacity : Nat) (worker : ServiceWorker) (setup : RemoteSetup) :
    HardwareAct ρ → Option (HardwareService ρ)
  | .start outputs next signals devices answers moment =>
    self.start capacity worker outputs next signals devices answers moment
  | .stop => some { self with
      remoteQueue := self.remoteQueue.map (·.retire)
      stop := self.stop || self.worker.isSome }
  | .join => self.worker.bind fun w =>
    if w.phase = .ended then some { self with worker := none } else none
  | .worker act => self.worker.bind fun w =>
    if self.permits act then
      (w.step worker setup act).map fun w => { self with
        worker := some w
        remoteQueue := self.remoteQueue.map (·.follow w) }
    else none
  | .dequeue urgent => self.dequeue urgent
  | .ticket act => self.remoteQueue.bind fun q =>
    if act.ofTicket then (q.step act).map fun q => { self with remoteQueue := some q } else none
  | .formerTicket index act => self.former[index]?.bind fun q =>
    if act.ofTicket then (q.step act).map fun q => { self with former := self.former.set index q }
    else none

end HardwareService

/-- All runs of the service. -/
def hardwareServices (capacity : Nat) (worker : ServiceWorker) (setup : RemoteSetup) :
    System (HardwareService ρ) (HardwareAct ρ) where
  init s := s = ⟨none, false, none, []⟩
  step s := s.step capacity worker setup

/-! ## Retention -/

/-- The worker is in front of the opening of its generation. -/
def RemotePhase.admitting : RemotePhase → Bool
  | .created | .starting | .opening _ => true
  | _ => false

/-- The worker holds the generation or is in front of it. -/
def RemoteWorker.Owns (w : RemoteWorker) : Prop := w.phase.admitting = true ∨ w.generation.isSome = true

/-- The queue has ended: it admits nothing, and a caller gets its result from one more call. -/
structure Ended (capacity : Nat) (q : RemoteQueue ρ) : Prop where
  refuses : ∀ id input isLocal active, q.step (.submit id input isLocal active) = some q
  answers : ∀ id t thread, q.tickets id = some t → t.lease = .held → t.takers thread = .idle →
    ∃ as q' t', (remoteQueue capacity).run q as = some q' ∧ (∀ a ∈ as, a.answers id = true) ∧
      q'.tickets id = some t' ∧ t'.cell.taken.length = 1

/-- No queue outlives its owner. -/
structure Retained (capacity : Nat) (s : HardwareService ρ) : Prop where
  owner : ∀ q, s.remoteQueue = some q → q.accepting = true → ∃ w, s.worker = some w ∧ w.Owns
  retired : ∀ q, s.remoteQueue = some q → (∀ w, s.worker = some w → ¬ w.Owns) → Ended capacity q
  former : ∀ q ∈ s.former, Ended capacity q

/-- The opening gets past the opening of the rig: the encoder is admitted, its bank takes the
cancellation of its pulses, and the rig opens. -/
def OpenAnswers.Opens (found : OpenAnswers) (setup : RemoteSetup) (devices : ServiceDevices) : Prop :=
  (∃ encoder, found.encoder = .ok encoder ∧ ∀ e, encoder = some e →
    (devices.device e.bank).isSome = true ∧ found.bind.pulse e.bank = .ok ()) ∧
  (setup.backend = .hamlib → found.rig = .ok ())

/-- Every opening gets past the opening of the rig. -/
def OpensRig (setup : RemoteSetup) (s : HardwareService ρ) : HardwareAct ρ → Prop
  | .worker (.open found) => ∀ w, s.worker = some w → found.Opens setup w.service.devices
  | _ => True

/-! ## The worker -/

variable {w w' : RemoteWorker} {phase : RemotePhase} {moment : Moment} {rig : RigAnswers}
  {answers : DeviceAnswers}

/-- The worker has no generation any more. -/
def RemotePhase.left : RemotePhase → Bool
  | .closing .. | .ended => true
  | _ => false

/-- What every step of a worker keeps that was started. -/
structure Managed (w : RemoteWorker) : Prop where
  started : w.phase ≠ .created
  owned : w.phase.admitting = false → w.generation = none → w.accepting = false
  left : w.phase.left = true → w.generation = none

/-- In this phase, without a generation the queue is retired. -/
def Manned (phase : RemotePhase) (w : RemoteWorker) : Prop :=
  w.phase = phase ∧ (w.generation = none → w.accepting = false)

theorem stable_manned (phase : RemotePhase) : Stable (Manned phase) where
  service _ _ h := h
  published _ _ h := h
  signals _ _ h := h
  tune _ _ h := h
  ready _ _ h := h
  served _ _ h := h
  generation _ _ h := ⟨h.1, nofun⟩

theorem Managed.manned (h : Managed w) (hphase : w.phase = phase) (hadmitting : phase.admitting = false) :
    Manned phase w := ⟨hphase, h.owned (hphase ▸ hadmitting)⟩

theorem Manned.managed (h : Manned phase w) (hcreated : phase ≠ .created) (hleft : phase.left = false) :
    Managed w := by
  obtain ⟨rfl, hmanned⟩ := h
  exact ⟨hcreated, fun _ => hmanned, fun hleft' => absurd (hleft.symm.trans hleft') nofun⟩

theorem managed_setPhase {E : CallError → RemoteWorker → Prop} (next : RemotePhase)
    (hcreated : next ≠ .created) (hleft : next.left = false) :
    Fallible.Triple (Manned phase) (setPhase next) (fun _ => Managed) E :=
  Fallible.Triple.modify fun _ h => @Manned.managed _ next ⟨rfl, h.2⟩ hcreated hleft

theorem managed_confirmStart :
    Fallible.Triple (fun _ => True) (confirmStart worker moment) (fun _ => Managed) fun _ => Managed := by
  unfold confirmStart
  refine Fallible.Triple.bindTotal (Fallible.Triple.attempt (R := fun _ _ => True)
    (keeps_gpio (fun _ _ h => h) _)) fun confirmed => ?_
  exact Fallible.Triple.modify fun s _ => ⟨nofun, nofun, nofun⟩

theorem managed_cleanAdmission {error : CallError} {rigOpen writable retiring : Bool} :
    Fallible.Triple (Manned (.cleaning error rigOpen writable retiring))
      (cleanAdmission worker rigOpen writable retiring moment rig) (fun _ => Managed)
      fun _ => Managed := by
  have hI := stable_manned (.cleaning error rigOpen writable retiring)
  have hmanaged : ∀ s, Manned (.cleaning error rigOpen writable retiring) s → Managed s :=
    fun s h => h.managed nofun rfl
  unfold cleanAdmission
  refine (Fallible.Keeps.failing (.attempt (hI.gpio _)) hmanaged).bind fun gpio => ?_
  refine (Fallible.Keeps.failing (.of _) hmanaged).bind fun _ => ?_
  refine (Fallible.Keeps.failing (.of _) hmanaged).bind fun _ => ?_
  refine (Fallible.Keeps.failing (.whenever fun _ => hI.record _) hmanaged).bind fun _ => ?_
  refine (hI.remoteFailed.failing hmanaged).bind fun _ => ?_
  exact managed_setPhase (.serving retiring) nofun rfl

theorem managed_remoteCycle {moment : RemoteMoment} :
    Fallible.Triple (Manned (.serving false)) (remoteCycle worker setup moment) (fun _ => Managed)
      fun _ => Managed := by
  have hI := stable_manned (.serving false)
  have hmanaged : ∀ s, Manned (.serving false) s → Managed s := fun s h => h.managed nofun rfl
  unfold remoteCycle
  refine (hI.serviceOrUnkey.failing hmanaged).bind fun _ => ?_
  refine (Fallible.Keeps.failing (.attempt (hI.gpio _)) hmanaged).bind fun result => ?_
  cases result with
  | ok u => exact Fallible.Triple.pure hmanaged
  | error error =>
    refine (hI.unkeyOrFail.failing hmanaged).bind fun _ => ?_
    refine Fallible.Triple.whenever (fun _ => ?_) fun _ => hmanaged
    refine (Fallible.Keeps.failing (.modify fun s h => hI.service s _ h) hmanaged).bind fun _ => ?_
    exact managed_setPhase (.serving true) nofun rfl

theorem managed_retireCycle {unkeys : Moment × RigAnswers} :
    Fallible.Triple (Manned (.serving true)) (retireCycle worker unkeys answers) (fun _ => Managed)
      fun _ => Managed := by
  have hI := stable_manned (.serving true)
  have hmanaged : ∀ s, Manned (.serving true) s → Managed s := fun s h => h.managed nofun rfl
  have hclosed : ∀ {E}, Fallible.Triple (Manned (.serving true)) (setPhase .closed)
      (fun _ => Managed) E := managed_setPhase .closed nofun rfl
  unfold retireCycle
  refine Fallible.Triple.bind (Fallible.Keeps.failing (.modify fun s h => hI.served s false h) hmanaged)
    fun _ => Fallible.Triple.get fun s hs => ?_
  have hfrom : ∀ {α : Type} {m : RemoteCycle α}, Fallible.Keeps (Manned (.serving true)) m →
      Fallible.Triple (· = s) m (fun _ => Manned (.serving true)) fun _ => Managed := fun hm =>
    (hm.failing hmanaged).imp (fun s' h => h ▸ hs) (fun _ _ h => h) fun _ _ h => h
  split
  · exact (hfrom (hI.gpio _)).bind fun _ => hclosed
  · refine (hfrom (.attempt hI.unkey)).bind fun result => ?_
    cases result with
    | ok u => exact ((hI.gpio _).failing hmanaged).bind fun _ => hclosed
    | error error =>
      refine (hI.remoteFailed.failing hmanaged).bind fun _ => ?_
      exact Fallible.Triple.bind (Q := fun _ => Manned (.serving true)) (Fallible.Triple.fail hmanaged)
        fun _ => hclosed

theorem managed_reopenDevices {devices : ServiceDevices} :
    Fallible.Triple (Manned .closed) (reopenDevices worker devices answers) (fun _ => Managed)
      fun _ => Managed := by
  have hI := stable_manned .closed
  have hmanaged : ∀ s, Manned .closed s → Managed s := fun s h => h.managed nofun rfl
  unfold reopenDevices
  refine Fallible.Triple.bind (Fallible.Keeps.failing (.modify fun s h => hI.served s false h) hmanaged)
    fun _ => ?_
  refine (Fallible.Keeps.failing (.attempt (hI.gpio _)) hmanaged).bind fun result => ?_
  cases result with
  | ok u => exact managed_setPhase (.serving false) nofun rfl
  | error error =>
    refine Fallible.Triple.bind (Fallible.Keeps.failing (.modify fun s h => hI.service s _ h) hmanaged)
      fun _ => ?_
    exact managed_setPhase (.serving true) nofun rfl

/-- A generation that retires has retired its queue. -/
theorem managed_retireOrFail {engine close : Except CallError Unit} {managed : Bool} :
    Fallible.Triple (Manned (.stopping true managed))
      (retireOrFail worker setup moment rig engine close) (fun _ => Managed) fun _ => Managed := by
  have hI := stable_manned (.stopping true managed)
  have hretired : Stable fun w => w.phase = .stopping true managed ∧ w.accepting = false :=
    ⟨fun _ _ h => h, fun _ _ h => h, fun _ _ h => h, fun _ _ h => h, fun _ _ h => h, fun _ _ h => h,
      fun _ _ h => h⟩
  unfold retireOrFail
  refine Fallible.Triple.bindTotal (Fallible.Triple.attempt (R := fun _ w =>
    w.phase = .stopping true managed ∧ w.accepting = false) ?_) fun result => ?_
  · unfold retireGeneration withGeneration
    refine Fallible.Triple.get fun s hs => ?_
    split
    · exact Fallible.Triple.panicked
    · refine Fallible.Triple.bind (Q := fun _ w => w.phase = .stopping true managed ∧ w.accepting = false)
        (Fallible.Triple.modify fun w hw => ⟨hw ▸ hs.1, rfl⟩) fun _ => ?_
      refine Fallible.Keeps.bind (.of _) fun _ => ?_
      split
      · exact .pure ()
      · refine .bind hretired.unkey fun _ => .whenever fun _ => .bind (hretired.setGeneration _) fun _ => ?_
        exact .bind (hretired.record _) fun _ => .of _
  · cases result with
    | ok u =>
      refine Fallible.Triple.modify fun s h => @Manned.managed _ (.stopping true managed) ?_ nofun rfl
      exact ⟨h.1, fun _ => h.2⟩
    | error error =>
      refine Fallible.Triple.modify fun s h => @Manned.managed _ (.stopping true managed) ?_ nofun rfl
      exact ⟨h.1, fun _ => h.2⟩

/-- The worker closes its outputs, without a generation. -/
def Leaving (phase : RemotePhase) (w : RemoteWorker) : Prop :=
  w.phase = phase ∧ w.generation = none ∧ w.accepting = false

theorem Leaving.managed (h : Leaving phase w) (hcreated : phase ≠ .created) : Managed w := by
  obtain ⟨rfl, hgeneration, hretired⟩ := h
  exact ⟨hcreated, fun _ _ => hretired, fun _ => hgeneration⟩

theorem managed_closeLast {there managed : Bool} :
    Fallible.Triple (Leaving (.closing there managed)) (closeLast worker there managed answers)
      (fun _ => Managed) fun _ => Managed := by
  have hclose : Fallible.Keeps (Leaving (.closing there managed))
      (Fallible.whenever there (RemoteCycle.gpio (closeOutputs worker answers))) :=
    .whenever fun _ => keeps_gpio (fun _ _ h => h) _
  unfold closeLast
  refine Fallible.Triple.bindTotal (Fallible.Triple.attempt (R := fun _ =>
    Leaving (.closing there managed)) hclose) fun closed => ?_
  refine Fallible.Triple.whenever (fun _ => ?_) fun _ s h => h.managed nofun
  refine Fallible.Triple.bindTotal (Q := fun _ => Leaving (.closing there managed))
    (Fallible.Triple.modify fun s h => h) fun _ => ?_
  exact Fallible.Triple.modify fun s h => @Leaving.managed _ .ended ⟨rfl, h.2⟩ nofun

/-! ## Opening -/

/-- An encoder whose bank takes the cancellation of its pulses is admitted. -/
theorem result_bindEncoder {o : OutputState} {encoder : Option ExternalEncoder}
    {devices : ServiceDevices} {outcome : Outcome}
    (hpulse : ∀ e, encoder = some e → (devices.device e.bank).isSome = true ∧
      answers.pulse e.bank = .ok ())
    (hbind : o.bindEncoder encoder devices answers = some outcome) : outcome.result = .ok () := by
  unfold OutputState.bindEncoder at hbind
  cases encoder with
  | none =>
    obtain rfl := Option.some.inj hbind
    rfl
  | some e =>
    obtain ⟨hdevice, hanswer⟩ := hpulse e rfl
    simp only at hbind
    split at hbind
    · cases hbind
    · obtain rfl := Option.some.inj hbind
      unfold OutputState.cancelPulses
      split
      · next hnone =>
        rw [hnone] at hdevice
        cases hdevice
      · exact hanswer

/-- It gets past the opening of the rig. -/
theorem triple_openRig_opens {found : OpenAnswers} (hopens : found.Opens setup w.service.devices) :
    Fallible.Triple (· = w) (openRig setup found) (fun _ s => s.phase = w.phase) fun _ _ => False := by
  obtain ⟨⟨encoder, hencoder, hpulse⟩, hrig⟩ := hopens
  unfold openRig
  refine Fallible.Triple.bind (Q := fun _ s => s = w.publishControl .withdrawn)
    (Fallible.Triple.modify fun s h => h ▸ rfl) fun _ => ?_
  refine Fallible.Triple.bind (Q := fun _ s => s.service.devices = w.service.devices ∧
    s.phase = w.phase) (Fallible.Triple.modify fun s h => h ▸ ⟨rfl, rfl⟩) fun _ => ?_
  rw [hencoder]
  refine Fallible.Triple.bind (Q := fun e s => e = encoder ∧ s.service.devices = w.service.devices ∧
    s.phase = w.phase) (Fallible.Triple.of (fun e he s h => ⟨(Except.ok.inj he).symm, h⟩) nofun)
    fun e => ?_
  refine Fallible.Triple.bind (Q := fun _ s => s.phase = w.phase)
    (Fallible.Triple.within fun s hs service hservice => ?_) fun _ => ?_
  · obtain ⟨rfl, hdevices, hphase⟩ := hs
    obtain rfl := hservice
    rcases hbind : s.service.outputs.bindEncoder e s.service.devices found.bind with _ | outcome
    · simp
    · have hok := result_bindEncoder (hdevices ▸ hpulse) hbind
      simp only [Option.map_some, hok]
      exact hphase
  · exact Fallible.Triple.whenever (fun hhamlib => Fallible.Triple.of (fun _ _ _ h => h) fun error he => by
      rw [hrig (by simpa using hhamlib)] at he
      cases he) fun _ _ h => h

/-- **An opening that gets past the rig** ends with a generation, or with its queue retired. -/
theorem managed_openGeneration {retiring : Bool} {found : OpenAnswers}
    (hopens : found.Opens setup w.service.devices) :
    Fallible.Triple (· = w) (openGeneration worker setup retiring found) (fun _ => Managed)
      fun _ => Managed := by
  unfold openGeneration
  refine Fallible.Triple.bindTotal (Fallible.Triple.attempt (R := fun opened _ => opened.isOk = true)
    ((triple_openRig_opens hopens).imp (fun _ h => h) (fun _ _ _ => rfl) fun _ _ => False.elim))
    fun opened => ?_
  cases opened with
  | error error => exact fun s h => nomatch h
  | ok u =>
    simp only
    split
    · refine Fallible.Triple.bindTotal (Q := fun _ s => s.accepting = false)
        (Fallible.Triple.modify fun s _ => rfl) fun _ => ?_
      exact Fallible.Triple.modify fun s h => ⟨nofun, fun _ _ => h, nofun⟩
    · refine Fallible.Triple.bindTotal (Q := fun _ _ => True)
        (Fallible.Triple.modify fun _ _ => trivial) fun _ => ?_
      refine Fallible.Triple.bindTotal (Q := fun _ _ => True)
        (Fallible.Triple.modify fun _ _ => trivial) fun _ => ?_
      refine Fallible.Triple.bindTotal (Q := fun _ _ => True)
        (Fallible.Triple.modify fun _ _ => trivial) fun _ => ?_
      refine Fallible.Triple.bindTotal (Q := fun _ s => s.generation.isSome = true)
        (Fallible.Triple.modify fun s _ => rfl) fun _ => ?_
      refine Fallible.Triple.modify fun s h => ⟨nofun, fun _ hnone => ?_, nofun⟩
      have hsome : s.generation.isSome = true := h
      rw [show s.generation = none from hnone] at hsome
      cases hsome

/-! ## Steps of the worker -/

theorem Managed.step {act : RemoteAct} (h : Managed w)
    (hopens : ∀ found, act = .open found → found.Opens setup w.service.devices)
    (hstep : w.step worker setup act = some w') : Managed w' := by
  have hmanned : ∀ {phase}, w.phase = phase → phase.admitting = false → Manned phase w :=
    fun hphase => h.manned hphase
  unfold RemoteWorker.step at hstep
  split at hstep
  · next hphase => exact absurd hphase h.started
  · exact RemoteWorker.of_exec managed_confirmStart trivial hstep
  · exact RemoteWorker.of_exec (managed_openGeneration (hopens _ rfl)) rfl hstep
  · next hphase => exact RemoteWorker.of_exec managed_cleanAdmission (hmanned hphase rfl) hstep
  · next hphase => exact RemoteWorker.of_exec managed_remoteCycle (hmanned hphase rfl) hstep
  · next hphase => exact RemoteWorker.of_exec managed_retireCycle (hmanned hphase rfl) hstep
  · next hphase => exact RemoteWorker.of_exec managed_reopenDevices (hmanned hphase rfl) hstep
  · next hphase =>
    obtain rfl := Option.some.inj hstep
    exact @Manned.managed _ .closed (hmanned hphase rfl) nofun rfl
  · next bank hphase =>
    have hmanaged : ∀ s, Manned .closed s → Managed s := fun s hs => hs.managed nofun rfl
    exact RemoteWorker.of_exec ((((stable_manned .closed).gpio _).failing hmanaged).imp
      (fun _ hs => hs) (fun _ => hmanaged) fun _ _ hs => hs) (hmanned hphase rfl) hstep
  · next retiring hphase =>
    obtain rfl := Option.some.inj hstep
    exact @Manned.managed _ (.stopping true _) ⟨rfl, (hmanned hphase rfl).2⟩ nofun rfl
  · next hphase =>
    obtain rfl := Option.some.inj hstep
    exact @Manned.managed _ (.stopping false _) ⟨rfl, (hmanned hphase rfl).2⟩ nofun rfl
  · next managed devices hphase =>
    split at hstep
    · obtain rfl := Option.some.inj hstep
      exact @Manned.managed _ (.stopping true _) ⟨rfl, (hmanned hphase rfl).2⟩ nofun rfl
    · cases hstep
  · next hphase => exact RemoteWorker.of_exec managed_retireOrFail (hmanned hphase rfl) hstep
  · next devices managed hphase =>
    split at hstep
    · next hnone =>
      obtain rfl := Option.some.inj hstep
      have hgeneration : w.generation = none := Option.isNone_iff_eq_none.mp hnone
      exact @Leaving.managed _ (.closing devices managed)
        ⟨rfl, hgeneration, (hmanned hphase rfl).2 hgeneration⟩ nofun
    · cases hstep
  · next hphase =>
    have hgeneration := h.left (by rw [hphase]; rfl)
    exact RemoteWorker.of_exec managed_closeLast
      ⟨hphase, hgeneration, (hmanned hphase rfl).2 hgeneration⟩ hstep
  · cases hstep

/-- A start ends with a worker in front of its generation, or with its queue retired. -/
theorem managed_startService {outputs : OutputState} {next : Nat} {signals : RemoteHardwareSignals}
    {devices : ServiceDevices}
    (hstart : (RemoteWorker.new outputs next signals).exec
      (startService worker devices answers moment) = some w) :
    Managed w ∧ (w.phase ≠ .starting → w.accepting = false) := by
  have htriple : Fallible.Triple (· = RemoteWorker.new outputs next signals)
      (startService worker devices answers moment)
      (fun _ w => Managed w ∧ (w.phase ≠ .starting → w.accepting = false))
      fun _ w => Managed w ∧ (w.phase ≠ .starting → w.accepting = false) := by
    unfold startService
    refine Fallible.Triple.bindTotal (Fallible.Triple.attempt (R := fun _ w => w.generation = none) ?_)
      fun result => ?_
    · have hgpio : ∀ m : Cycle Unit, Fallible.Keeps (fun w : RemoteWorker => w.generation = none)
          (RemoteCycle.gpio m) := keeps_gpio fun _ _ h => h
      refine (Fallible.Keeps.bind (hgpio _) fun _ => .whenever fun _ => hgpio _).imp
        (fun s (h : s = _) => h ▸ rfl) (fun _ _ h => h) fun _ _ h => h
    · cases result with
      | ok u => exact Fallible.Triple.modify fun s h => ⟨⟨nofun, nofun, nofun⟩, fun h => absurd rfl h⟩
      | error error =>
        refine Fallible.Triple.bindTotal (Q := fun _ w => w.generation = none ∧ w.accepting = false)
          (Fallible.Triple.modify fun s h => ⟨h, rfl⟩) fun _ => ?_
        exact Fallible.Triple.modify fun s h => ⟨⟨nofun, fun _ _ => h.2, fun _ => h.1⟩, fun _ => h.2⟩
  exact RemoteWorker.of_exec htriple rfl hstart

/-! ## Queues -/

variable {q q' : RemoteQueue ρ}

theorem RemoteQueue.inv_new : RemoteQueue.Inv (.new capacity : RemoteQueue ρ) :=
  (RemoteQueue.inv_inductive capacity).init _ rfl

theorem RemoteQueue.Inv.retire (h : RemoteQueue.Inv q) : RemoteQueue.Inv q.retire :=
  h.step (show q.step .retire = some q.retire from rfl)

theorem RemoteQueue.Inv.follow (h : RemoteQueue.Inv q) (w : RemoteWorker) :
    RemoteQueue.Inv (q.follow w) := by
  have hretired : RemoteQueue.Inv { q with accepting := q.accepting && w.accepting } := by
    cases w.accepting with
    | true => rw [Bool.and_true]; exact h
    | false => rw [Bool.and_false]; exact h.retire
  unfold RemoteQueue.follow
  cases w.ready with
  | true =>
    rw [Bool.or_true]
    exact hretired.step (a := .markReady) rfl
  | false => rw [Bool.or_false]; exact hretired

/-- A queue that was retired admits nothing more, and answers every caller. -/
theorem ended_of_retired (h : RemoteQueue.Inv q) (hretired : q.accepting = false) : Ended capacity q where
  refuses id input isLocal active := by
    show q.submit id input isLocal active = some q
    unfold RemoteQueue.submit
    rw [hretired]
    rfl
  answers id t thread ht hlease hidle := by
    obtain ⟨q', t', hsettles, htaken⟩ :=
      RemoteQueue.settles_take (h.ok id t ht) ht hlease (.inl hretired) hidle
    obtain ⟨as, hrun, hall⟩ := hsettles.run
    exact ⟨as, q', t', hrun, hall, hsettles.ticket, htaken⟩

/-! ## Runs -/

/-- The invariant of a run whose openings get past the opening of the rig. -/
structure HardwareService.Inv (s : HardwareService ρ) : Prop where
  managed : ∀ w, s.worker = some w → Managed w
  held : ∀ q, s.remoteQueue = some q → q.accepting = true →
    ∃ w, s.worker = some w ∧ w.accepting = true
  former : ∀ q ∈ s.former, q.accepting = false
  current : ∀ q, s.remoteQueue = some q → RemoteQueue.Inv q
  queues : ∀ q ∈ s.former, RemoteQueue.Inv q

variable {s s' : HardwareService ρ}

namespace HardwareService

/-- A step of the queue that accepts no more than before. -/
theorem Inv.setQueue (h : s.Inv) (hq : s.remoteQueue = some q) (hinv : RemoteQueue.Inv q')
    (haccepting : q'.accepting = true → q.accepting = true) :
    Inv { s with remoteQueue := some q' } where
  managed := h.managed
  held p hp hacc := by
    obtain rfl := Option.some.inj hp
    exact h.held q hq (haccepting hacc)
  former := h.former
  current p hp := Option.some.inj hp ▸ hinv
  queues := h.queues

theorem Inv.start (h : s.Inv) {outputs : OutputState} {next : Nat} {signals : RemoteHardwareSignals}
    {devices : Option ServiceDevices}
    (hstep : s.start capacity worker outputs next signals devices answers moment = some s') : s'.Inv := by
  unfold HardwareService.start at hstep
  split at hstep
  · exact Option.some.inj hstep ▸ h
  · next hidle =>
    split at hstep
    · exact Option.some.inj hstep ▸ h
    · obtain ⟨w, hexec, rfl⟩ := Option.map_eq_some_iff.mp hstep
      obtain ⟨hmanaged, hfailed⟩ := managed_startService hexec
      have hlast : ∀ q, s.remoteQueue = some q → q.accepting = false := fun q hq => by
        refine Bool.eq_false_iff.mpr fun hacc => hidle ?_
        obtain ⟨w, hw, -⟩ := h.held q hq hacc
        rw [hw]
        rfl
      refine ⟨fun w' hw' => ?_, fun q hq hacc => ?_, fun q hq => ?_, fun q hq => ?_, fun q hq => ?_⟩
      · simp only [Option.ite_none_right_eq_some, Option.some.injEq] at hw'
        exact hw'.2 ▸ hmanaged
      · obtain rfl := Option.some.inj hq
        have hboth : (true && w.accepting) = true := hacc
        have haccepting : w.accepting = true := (Bool.true_and _).symm.trans hboth
        have hstarting : w.phase = .starting := by
          by_contra hne
          rw [hfailed hne] at haccepting
          cases haccepting
        exact ⟨w, if_pos hstarting, haccepting⟩
      · rcases List.mem_append.mp hq with hq | hq
        · exact hlast q (by simpa using hq)
        · exact h.former q hq
      · exact Option.some.inj hq ▸ RemoteQueue.inv_new.follow w
      · rcases List.mem_append.mp hq with hq | hq
        · exact h.current q (by simpa using hq)
        · exact h.queues q hq

theorem Inv.stop (h : s.Inv) : Inv { s with
    remoteQueue := s.remoteQueue.map (·.retire), stop := s.stop || s.worker.isSome } where
  managed := h.managed
  held q hq hacc := by
    obtain ⟨q', -, rfl⟩ := Option.map_eq_some_iff.mp hq
    cases hacc
  former := h.former
  current q hq := by
    obtain ⟨q', hq', rfl⟩ := Option.map_eq_some_iff.mp hq
    exact (h.current q' hq').retire
  queues := h.queues

/-- A worker that has ended has no generation, so its queue is retired. -/
theorem Inv.join {w : RemoteWorker} (h : s.Inv) (hw : s.worker = some w) (hended : w.phase = .ended) :
    Inv { s with worker := none } where
  managed _ hnone := absurd hnone (by simp)
  held q hq hacc := by
    obtain ⟨w', hw', haccepting⟩ := h.held q hq hacc
    obtain rfl := Option.some.inj (hw.symm.trans hw')
    have hmanaged := h.managed w hw
    have hadmitting : w.phase.admitting = false := hended ▸ rfl
    have hleft : w.phase.left = true := hended ▸ rfl
    rw [hmanaged.owned hadmitting (hmanaged.left hleft)] at haccepting
    cases haccepting
  former := h.former
  current := h.current
  queues := h.queues

theorem Inv.work {w' : RemoteWorker} (h : s.Inv) (hmanaged : Managed w') : Inv { s with
    worker := some w', remoteQueue := s.remoteQueue.map (·.follow w') } where
  managed _ hw := Option.some.inj hw ▸ hmanaged
  held q hq hacc := by
    obtain ⟨q', -, rfl⟩ := Option.map_eq_some_iff.mp hq
    have hboth : (q'.accepting && w'.accepting) = true := hacc
    exact ⟨w', rfl, (Bool.and_eq_true _ _ ▸ hboth).2⟩
  former := h.former
  current q hq := by
    obtain ⟨q', hq', rfl⟩ := Option.map_eq_some_iff.mp hq
    exact (h.current q' hq').follow w'
  queues := h.queues

/-- A step of a queue accepts no more than before. -/
theorem Inv.queueStep {act : QueueAct ρ} (h : s.Inv) (hq : s.remoteQueue = some q)
    (hstep : q.step act = some q') : Inv { s with remoteQueue := some q' } :=
  h.setQueue hq ((h.current q hq).step hstep)
    (RemoteQueue.steps_of_step (h.current q hq).queues hstep).accepting

theorem Inv.formerStep {act : QueueAct ρ} {index : Nat} (h : s.Inv) (hq : s.former[index]? = some q)
    (hstep : q.step act = some q') : Inv { s with former := s.former.set index q' } := by
  have hmem := List.mem_of_getElem? hq
  refine ⟨h.managed, h.held, fun p hp => ?_, h.current, fun p hp => ?_⟩
  · rcases List.mem_or_eq_of_mem_set hp with hp | rfl
    · exact h.former p hp
    · refine Bool.eq_false_iff.mpr fun hacc => ?_
      have haccepting := (RemoteQueue.steps_of_step (h.queues q hmem).queues hstep).accepting hacc
      rw [h.former q hmem] at haccepting
      cases haccepting
  · rcases List.mem_or_eq_of_mem_set hp with hp | rfl
    · exact h.queues p hp
    · exact (h.queues q hmem).step hstep

theorem Inv.step {act : HardwareAct ρ} (h : s.Inv) (hopens : OpensRig setup s act)
    (hstep : s.step capacity worker setup act = some s') : s'.Inv := by
  cases act with
  | start outputs next signals devices answers moment => exact h.start hstep
  | stop => exact Option.some.inj hstep ▸ h.stop
  | join =>
    obtain ⟨w, hw, hjoin⟩ := Option.bind_eq_some_iff.mp hstep
    split at hjoin
    · next hended => exact Option.some.inj hjoin ▸ h.join hw hended
    · cases hjoin
  | worker act =>
    obtain ⟨w, hw, hact⟩ := Option.bind_eq_some_iff.mp hstep
    split at hact
    · obtain ⟨w', hw', rfl⟩ := Option.map_eq_some_iff.mp hact
      refine h.work ((h.managed w hw).step (fun found hfound => ?_) hw')
      subst hfound
      exact hopens w hw
    · cases hact
  | dequeue urgent =>
    simp only [HardwareService.step, HardwareService.dequeue] at hstep
    split at hstep
    · next w q hw hq =>
      split at hstep
      · obtain ⟨q', hnext, rfl⟩ := Option.map_eq_some_iff.mp hstep
        cases urgent with
        | true =>
          have hnext : q.step .nextUrgent = some q' := hnext
          exact h.queueStep hq hnext
        | false =>
          have hnext : q.step .nextOrdinary = some q' := hnext
          exact h.queueStep hq hnext
      · cases hstep
    · cases hstep
  | ticket act =>
    obtain ⟨q, hq, hact⟩ := Option.bind_eq_some_iff.mp hstep
    split at hact
    · obtain ⟨q', hq', rfl⟩ := Option.map_eq_some_iff.mp hact
      exact h.queueStep hq hq'
    · cases hact
  | formerTicket index act =>
    obtain ⟨q, hq, hact⟩ := Option.bind_eq_some_iff.mp hstep
    split at hact
    · obtain ⟨q', hq', rfl⟩ := Option.map_eq_some_iff.mp hact
      exact h.formerStep hq hq'
    · cases hact

theorem inv_inductive (capacity : Nat) (worker : ServiceWorker) (setup : RemoteSetup) :
    (hardwareServices (ρ := ρ) capacity worker setup).Inductive (OpensRig setup) Inv where
  init := by
    rintro s rfl
    exact ⟨fun _ hnone => absurd hnone (by simp), fun _ hnone => absurd hnone (by simp),
      fun _ hmem => absurd hmem List.not_mem_nil, fun _ hnone => absurd hnone (by simp),
      fun _ hmem => absurd hmem List.not_mem_nil⟩
  step _ _ _ h hopens hstep := h.step hopens hstep

/-- A queue that accepts has a worker that holds the generation or is in front of it. -/
theorem Inv.owner (h : s.Inv) (hq : s.remoteQueue = some q) (hacc : q.accepting = true) :
    ∃ w, s.worker = some w ∧ w.Owns := by
  obtain ⟨w, hw, haccepting⟩ := h.held q hq hacc
  refine ⟨w, hw, ?_⟩
  by_contra hnot
  obtain ⟨hadmitting, hgeneration⟩ := not_or.mp hnot
  have hretired := (h.managed w hw).owned (Bool.eq_false_iff.mpr hadmitting)
    (Option.not_isSome_iff_eq_none.mp hgeneration)
  rw [hretired] at haccepting
  cases haccepting

end HardwareService

/-- **No queue outlives its owner**, where every opening gets past the opening of the rig. -/
theorem retained_of_reachBy (capacity : Nat) (worker : ServiceWorker) (setup : RemoteSetup)
    (s : HardwareService ρ)
    (h : (hardwareServices capacity worker setup).ReachBy (OpensRig setup) s) : Retained capacity s := by
  have hinv := (HardwareService.inv_inductive capacity worker setup).reachBy h
  refine ⟨fun q hq hacc => hinv.owner hq hacc, fun q hq hunowned => ?_, fun q hq => ?_⟩
  · refine ended_of_retired (hinv.current q hq) (Bool.eq_false_iff.mpr fun hacc => ?_)
    obtain ⟨w, hw, howns⟩ := hinv.owner hq hacc
    exact hunowned w hw howns
  · exact ended_of_retired (hinv.queues q hq) (hinv.former q hq)

/-! ## A rig that opens, or not -/

/-- A service starts, opens its generation where the rig answers so, and gets a request. -/
def rigRequests (rig : Except CallError Unit) : List (HardwareAct Unit) :=
  [.start (OutputState.new 1 rigWorker.plan none).1 3 ⟨none, true, none⟩
      (some ⟨some (.open 0 0), none, false⟩) OutputRun.allOk (rigMoment false),
    .worker (.confirm (rigMoment false)),
    .worker (.open ⟨.ok none, OutputRun.allOk, rig, true, true, .ok (.open, false), .ok (),
      .ok ⟨0, false⟩⟩),
    .ticket (.submit 0 (.command ⟨40, 1, 1, 3, 0, 0, 0, 0⟩) false true), .ticket (.enqueue 0)]

/-- The service is stopped while the caller waits. -/
theorem retained_of_stop : ∃ (s : HardwareService Unit) (q : RemoteQueue Unit),
    s.remoteQueue = some q ∧ q.accepting = false ∧
    ((q.tickets 0).any fun t => t.lease = .held) = true ∧ Retained 4 s := by
  have hstopped : ((hardwareServices 4 rigWorker rigSetup).run ⟨none, false, none, []⟩
      (rigRequests (.ok ()) ++ [.stop])).any (fun s => s.remoteQueue.any fun q =>
        !q.accepting && (q.tickets 0).any fun t => t.lease = .held) = true := by
    decide +kernel
  obtain ⟨s, hrun, hqueue⟩ := (Option.any_eq_true _ _).mp hstopped
  obtain ⟨q, hq, hboth⟩ := (Option.any_eq_true _ _).mp hqueue
  rw [Bool.and_eq_true, Bool.not_eq_true'] at hboth
  refine ⟨s, q, hq, hboth.1, hboth.2, retained_of_reachBy 4 rigWorker rigSetup s ⟨_, _, rfl, ?_, hrun⟩⟩
  exact ⟨trivial, fun _ _ => ⟨trivial, fun _ _ => ⟨fun _ _ => ⟨⟨none, rfl, nofun⟩, fun _ => rfl⟩,
    fun _ _ => ⟨trivial, fun _ _ => ⟨trivial, fun _ _ => ⟨trivial, fun _ _ => trivial⟩⟩⟩⟩⟩⟩

/-- A rig that does not open leaves a queue that accepts to a worker without a generation. -/
theorem not_retained_of_closedRig : ∃ s : HardwareService Unit,
    (hardwareServices 4 rigWorker rigSetup).Reach s ∧ ¬ Retained 4 s := by
  have hopened : ((hardwareServices 4 rigWorker rigSetup).run ⟨none, false, none, []⟩
      (rigRequests (.error (-6)))).any (fun s => s.remoteQueue.any (·.accepting) &&
        s.worker.all fun w => !w.phase.admitting && w.generation.isNone) = true := by
    decide +kernel
  obtain ⟨s, hrun, hboth⟩ := (Option.any_eq_true _ _).mp hopened
  rw [Bool.and_eq_true] at hboth
  obtain ⟨q, hq, hacc⟩ := (Option.any_eq_true _ _).mp hboth.1
  refine ⟨s, ⟨_, _, rfl, hrun⟩, fun h => ?_⟩
  obtain ⟨w, hw, howns⟩ := h.owner q hq hacc
  have hunowned := hboth.2
  rw [hw, Option.all_some, Bool.and_eq_true, Bool.not_eq_true', Option.isNone_iff_eq_none] at hunowned
  rcases howns with hadmitting | hgeneration
  · rw [hunowned.1] at hadmitting
    cases hadmitting
  · rw [hunowned.2] at hgeneration
    cases hgeneration

end Driver
end UsbRadioPlus
