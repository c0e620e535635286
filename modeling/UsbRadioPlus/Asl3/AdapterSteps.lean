import UsbRadioPlus.Asl3.Adapter

/-!
# The steps of the adapter

`StepCase` says what a step of the adapter can do, with the accesses of the handoff folded away: all
that is left of them is what is pushed and popped. `stepCase_of_step` is the only proof that looks
at `Adapter.step`; `ControllerState.deliver_cases` is its counterpart for `deliver`. `Shape` holds
what the journal and the key edges both use: the popped packets are the delivered ones and the
pending one.
-/

namespace UsbRadioPlus
namespace Asl3

open Sys

variable {F A : Type}

/-! ## The handoff in the adapter -/

/-- The handoff is a queue that keeps the latest values. -/
def IsQueue (h : State Stamped) : Prop := ∃ q, Refines h q

theorem IsQueue.step {h h' : State Stamped} {a : Act Stamped} (hq : IsQueue h)
    (hstep : h.step a = some h') : IsQueue h' := by
  obtain ⟨q, hq⟩ := hq
  obtain ⟨_, q', -, hq'⟩ := (handoff_simulation Stamped 0).step h a h' q hq hstep
  exact ⟨q', hq'⟩

theorem IsQueue.initial {slotCount : Nat} {shared : Shared Stamped}
    (h : Shared.split Stamped slotCount = .ok shared) : IsQueue (.initial shared) := by
  obtain ⟨q, -, hq⟩ := (handoff_simulation Stamped slotCount).init _ ⟨shared, h, rfl⟩
  exact ⟨q, hq⟩

theorem IsQueue.popped_sublist {h : State Stamped} (hq : IsQueue h) :
    h.popped.Sublist h.pushed := by
  obtain ⟨q, hq⟩ := hq
  rw [hq.popped, hq.pushed]
  exact q.taken_sublist

/-- An access of `push` is seen by nobody. -/
theorem log_of_stepPush {h h' : State Stamped} (hstep : h.step .stepPush = some h') :
    h'.pushed = h.pushed ∧ h'.popped = h.popped ∧ h'.pop = h.pop := by
  obtain ⟨_, -, rfl⟩ := Option.map_eq_some_iff.mp hstep
  exact ⟨rfl, rfl, rfl⟩

theorem log_of_callPush {h h' : State Stamped} {v : Stamped}
    (hstep : h.step (.callPush v) = some h') :
    h'.pushed = h.pushed ++ [v] ∧ h'.popped = h.popped ∧ h'.pop = h.pop := by
  simp only [State.step] at hstep
  split at hstep
  · obtain rfl := Option.some.inj hstep
    exact ⟨rfl, rfl, rfl⟩
  · cases hstep

theorem log_of_callPop {h h' : State Stamped} (hstep : h.step .callPop = some h') :
    h'.pushed = h.pushed ∧ h'.popped = h.popped := by
  simp only [State.step] at hstep
  split at hstep
  · obtain rfl := Option.some.inj hstep
    exact ⟨rfl, rfl⟩
  · cases hstep

/-- The access of `pop` that returns a value is the last one. -/
theorem log_of_stepPop {h h' : State Stamped} (hstep : h.step .stepPop = some h') :
    h.pop ≠ .idle ∧ h'.pushed = h.pushed ∧ h'.popped = record h.popped h.returnedValue ∧
      (h.returnedValue ≠ none → h'.pop = .idle) := by
  obtain ⟨⟨shared, pop, returned⟩, hpop, rfl⟩ := Option.map_eq_some_iff.mp hstep
  have hret : h.returnedValue = returned.join := by simp [State.returnedValue, hpop]
  refine ⟨fun hidle => ?_, rfl, by rw [hret], fun hne => ?_⟩
  · rw [hidle] at hpop
    cases hpop
  · rw [hret] at hne
    obtain ⟨result, rfl⟩ : ∃ result, returned = some result :=
      Option.ne_none_iff_exists'.mp fun h0 => hne (by rw [h0]; rfl)
    exact idle_of_returned hpop

/-! ## The actions of the controller -/

namespace ControllerState

/-- The next action from a packet: the key edge, a status event behind the skipped ones, or the
voice. -/
inductive DeliverCase (self : ControllerState) (pending : PendingDelivery) :
    Returned × ControllerState → Prop
  | edge {next : ControllerState} : pending.phase = .receiverState →
    self.deliveredKeyed ≠ pending.packet.qualification.receiverKeyed →
    next.pending = some ⟨pending.packet, .status⟩ →
    next.deliveredKeyed = pending.packet.qualification.receiverKeyed → next.status = self.status →
    DeliverCase self pending ((if pending.packet.qualification.receiverKeyed then
      .receiverKey pending.packet.controllerCtcss else .receiverUnkey, none), next)
  | status {next : ControllerState} {status : StatusObservation} :
    (pending.phase = .receiverState →
      self.deliveredKeyed = pending.packet.qualification.receiverKeyed) →
    status = resynchronize self.status pending.packet.statuses.oldestSequence →
    status.nextSequence < pending.packet.statuses.produced →
    next.pending = some ⟨pending.packet, .status⟩ → next.deliveredKeyed = self.deliveredKeyed →
    next.status = ⟨status.nextSequence + 1, status.discarded⟩ →
    DeliverCase self pending
      ((.ofStatus (pending.packet.statuses.get status.nextSequence), none), next)
  | voice {next : ControllerState} :
    (pending.phase = .receiverState →
      self.deliveredKeyed = pending.packet.qualification.receiverKeyed) →
    next.status = resynchronize self.status pending.packet.statuses.oldestSequence →
    pending.packet.statuses.produced ≤ next.status.nextSequence →
    next.pending = none → next.deliveredKeyed = self.deliveredKeyed →
    DeliverCase self pending ((.voice, some pending.packet.frame), next)

theorem deliverStatus_cases {self self' : ControllerState} {pending : PendingDelivery}
    (hkeyed : self'.deliveredKeyed = self.deliveredKeyed) (hstatus : self'.status = self.status)
    (hphase : pending.phase = .receiverState →
      self.deliveredKeyed = pending.packet.qualification.receiverKeyed) :
    DeliverCase self pending (self'.deliverStatus pending.packet) := by
  unfold deliverStatus
  simp only [hstatus]
  split
  · rename_i hlt
    exact .status hphase rfl hlt rfl hkeyed rfl
  · rename_i hge
    exact .voice hphase rfl (Nat.le_of_not_lt hge) rfl hkeyed

theorem deliver_cases (self : ControllerState) {pending : PendingDelivery}
    (h : pending.phase ≠ .voice) : DeliverCase self pending (self.deliver pending) := by
  unfold deliver
  cases hp : pending.phase with
  | receiverState =>
    simp only [deliverReceiverState]
    split
    · rename_i hne
      exact .edge hp hne rfl rfl rfl
    · rename_i heq
      exact deliverStatus_cases rfl rfl fun _ => not_not.mp heq
  | status => exact deliverStatus_cases rfl rfl fun hc => by simp [hp] at hc
  | voice => exact absurd hp h

end ControllerState

namespace Adapter

/-- The history behind an action that leaves the packet pending. -/
theorem deliver_of_some {s : Adapter A} {pending p : PendingDelivery} {eventCount : Nat}
    {returned : ControllerState.Returned} {next : ControllerState}
    (h : s.controller.deliver pending = (returned, next)) (hn : next.pending = some p) :
    s.deliver pending eventCount = { s with
      controller := next, pendingCount := eventCount, current := s.current ++ [returned] } := by
  unfold deliver
  simp only [h, hn]

/-- The history behind the last action of a packet. -/
theorem deliver_of_none {s : Adapter A} {pending : PendingDelivery} {eventCount : Nat}
    {returned : ControllerState.Returned} {next : ControllerState}
    (h : s.controller.deliver pending = (returned, next)) (hn : next.pending = none) :
    s.deliver pending eventCount = { s with
      controller := next, current := []
      done := s.done ++ [⟨⟨pending.packet, eventCount⟩, s.current ++ [returned]⟩] } := by
  unfold deliver
  simp only [h, hn]

/-! ## The steps -/

/-- What a step of the adapter can do. -/
inductive StepCase (path : AudioPath F A) (s : Adapter A) : Adapter A → Prop
  | publish (native : List F) (metadata : ReceiveMetadata) (events : List ReceiveStatus) :
    s.toPush = [] →
    events = (if ReceivePublisher.accepts native then s.events ++ metadata.events else s.events) →
    StepCase path s { s with
      publisher := (s.publisher.publish path native metadata).2.1, events
      toPush := (s.publisher.publish path native metadata).2.2.map fun p => ⟨p, events.length⟩ }
  | push {packet : Stamped} {rest : List Stamped} {handoff : State Stamped} :
    s.toPush = packet :: rest → s.handoff.step (.callPush packet) = some handoff →
    StepCase path s { s with handoff, toPush := rest }
  | access {a : Act Stamped} {handoff : State Stamped} : s.handoff.step a = some handoff →
    handoff.pushed = s.handoff.pushed → handoff.popped = s.handoff.popped →
    (handoff.pop = s.handoff.pop ∨ s.handoff.pop ≠ .idle ∨ s.controller.pending = none) →
    StepCase path s { s with handoff }
  | receive {packet : Stamped} {handoff : State Stamped} :
    s.handoff.step .stepPop = some handoff → s.handoff.pop ≠ .idle → handoff.pop = .idle →
    handoff.pushed = s.handoff.pushed → handoff.popped = s.handoff.popped ++ [packet] →
    StepCase path s
      ({ s with handoff }.deliver ⟨packet.packet, .receiverState⟩ packet.eventCount)
  | action {pending : PendingDelivery} : s.controller.pending = some pending →
    StepCase path s (s.deliver pending s.pendingCount)
  | control (echo : LegacyEcho) (dtmf : DtmfState) (control : ControlSnapshot) :
    StepCase path s { s with controller := { s.controller with echo, dtmf, control } }
  | reload {slotCount : Nat} {shared : Shared Stamped} {state : ControllerReloadState} (audio : A)
    (echo : LegacyEcho) : Shared.split Stamped slotCount = .ok shared →
    s.controller.pending = none → state.deliveredKeyed = s.controller.deliveredKeyed →
    state.mode = s.controller.mode →
    StepCase path s { prepare s.controller.mode shared audio echo with
      controller := (ControllerState.prepare s.controller.mode echo).restoreReloadState state
      past := s.past ++ s.done }

theorem stepCase_of_step {path : AudioPath F A} {s s' : Adapter A} {a : AdapterAct F A}
    (h : step path s a = some s') : StepCase path s s' := by
  cases a with
  | publish native metadata =>
    simp only [step] at h
    split at h
    · rename_i htp _
      obtain rfl := Option.some.inj h
      exact .publish native metadata _ htp rfl
    · cases h
  | callPush =>
    simp only [step] at h
    split at h
    · cases h
    · rename_i packet rest htp
      obtain ⟨handoff, hstep, rfl⟩ := Option.map_eq_some_iff.mp h
      exact .push htp hstep
  | stepPush =>
    obtain ⟨handoff, hstep, rfl⟩ := Option.map_eq_some_iff.mp h
    obtain ⟨h1, h2, h3⟩ := log_of_stepPush hstep
    exact .access hstep h1 h2 (.inl h3)
  | nextAction =>
    simp only [step] at h
    split at h
    · rename_i pending hp
      obtain rfl := Option.some.inj h
      exact .action hp
    · rename_i hp
      obtain ⟨handoff, hstep, rfl⟩ := Option.map_eq_some_iff.mp h
      obtain ⟨h1, h2⟩ := log_of_callPop hstep
      exact .access hstep h1 h2 (.inr (.inr hp))
  | stepPop =>
    obtain ⟨handoff, hstep, hs'⟩ := Option.map_eq_some_iff.mp h
    obtain ⟨h1, h2, h3, h4⟩ := log_of_stepPop hstep
    cases hret : s.handoff.returnedValue with
    | none =>
      rw [hret] at h3 hs'
      subst hs'
      exact .access hstep h2 h3 (.inr (.inl h1))
    | some packet =>
      rw [hret] at h3 h4 hs'
      subst hs'
      exact .receive hstep h1 (h4 (by simp)) h2 h3
  | control echo dtmf control =>
    obtain rfl := Option.some.inj h
    exact .control echo dtmf control
  | reload slotCount audio echo =>
    simp only [step] at h
    split at h
    · rename_i state shared hpop hstate hsplit
      obtain rfl := Option.some.inj h
      unfold ControllerState.reloadState at hstate
      split at hstate
      · cases hstate
      · rename_i hidle
        obtain rfl := Option.some.inj hstate
        simp only [Bool.or_eq_true, not_or, Bool.not_eq_true, Option.isSome_eq_false_iff,
          Option.isNone_iff_eq_none] at hidle
        exact .reload audio echo hsplit hidle.1 rfl rfl
    · cases h

/-! ## The shape of the history -/

/-- The actions returned from packets. -/
def actionsOf (gs : List Delivered) : List ControllerState.Returned := gs.flatMap Delivered.actions

/-- The pending packet with its number of events. -/
def pendingSource (s : Adapter A) : Option Stamped :=
  s.controller.pending.map fun p => ⟨p.packet, s.pendingCount⟩

/-- The popped packets are the delivered ones and the pending one. -/
structure Shape (s : Adapter A) : Prop where
  queue : IsQueue s.handoff
  popping : s.handoff.pop = .idle ∨ s.controller.pending = none
  popped : s.handoff.popped = s.done.map (·.source) ++ s.pendingSource.toList
  phase : ∀ p, s.controller.pending = some p → p.phase = .status
  current : s.controller.pending = none → s.current = []

theorem Shape.deliver {s : Adapter A} {pending : PendingDelivery} {eventCount : Nat}
    (hq : IsQueue s.handoff) (hidle : s.handoff.pop = .idle) (hphase : pending.phase ≠ .voice)
    (hp : s.handoff.popped = s.done.map (·.source) ++ [⟨pending.packet, eventCount⟩]) :
    Shape (s.deliver pending eventCount) := by
  have hcases := s.controller.deliver_cases hphase
  cases hd : s.controller.deliver pending with
  | mk returned next =>
  rw [hd] at hcases
  have hstays : next.pending = some ⟨pending.packet, .status⟩ →
      Shape (s.deliver pending eventCount) := by
    intro hn
    rw [deliver_of_some hd hn]
    refine ⟨hq, .inl hidle, ?_, ?_, ?_⟩
    · simp only [pendingSource, hn, Option.map_some, Option.toList_some]
      exact hp
    · intro p hsome
      rw [hn] at hsome
      obtain rfl := Option.some.inj hsome
      rfl
    · intro hnone
      rw [hn] at hnone
      cases hnone
  cases hcases with
  | edge _ _ hn => exact hstays hn
  | status _ _ _ hn => exact hstays hn
  | voice _ _ _ hn =>
    rw [deliver_of_none hd hn]
    refine ⟨hq, .inl hidle, ?_, ?_, fun _ => rfl⟩
    · simp only [pendingSource, hn, Option.map_none, Option.toList_none, List.append_nil,
        List.map_append, List.map_singleton]
      exact hp
    · intro p hsome
      rw [hn] at hsome
      cases hsome

theorem restoreReloadState_eq {mode : AsteriskPcmMode} (echo : LegacyEcho)
    {state : ControllerReloadState} (h : state.mode = mode) :
    ((ControllerState.prepare mode echo).restoreReloadState state).pending = none ∧
      ((ControllerState.prepare mode echo).restoreReloadState state).status = ⟨0, 0⟩ ∧
      ((ControllerState.prepare mode echo).restoreReloadState state).deliveredKeyed =
        state.deliveredKeyed := by
  subst h
  simp [ControllerState.restoreReloadState, ControllerState.prepare]

theorem shape_inductive (path : AudioPath F A) :
    (adapter path).Inductive (fun _ _ => True) Shape where
  init := by
    rintro s ⟨mode, slotCount, shared, audio, echo, hsplit, rfl⟩
    exact ⟨.initial hsplit, .inl rfl, rfl, fun p hp => (by cases hp), fun _ => rfl⟩
  step := by
    intro s a s' h _ hstep
    cases stepCase_of_step hstep with
    | publish => exact { h with }
    | push htp hpush =>
      obtain ⟨h1, h2, h3⟩ := log_of_callPush hpush
      exact { h with queue := h.queue.step hpush, popping := h3 ▸ h.popping, popped := h2 ▸ h.popped }
    | access ha h1 h2 h3 =>
      refine { h with queue := h.queue.step ha, popping := ?_, popped := h2 ▸ h.popped }
      rcases h3 with h3 | h3 | h3
      · exact h3 ▸ h.popping
      · exact .inr (h.popping.resolve_left h3)
      · exact .inr h3
    | @receive packet handoff hpop hne hidle h1 h2 =>
      have hnone := h.popping.resolve_left hne
      refine Shape.deliver (s := { s with handoff }) (h.queue.step hpop) hidle (by simp) ?_
      have hpopped := h.popped
      rw [pendingSource, hnone, Option.map_none, Option.toList_none, List.append_nil] at hpopped
      show handoff.popped = s.done.map (·.source) ++ [packet]
      rw [h2, hpopped]
    | @action pending hp =>
      have hidle : s.handoff.pop = .idle := h.popping.resolve_right (by rw [hp]; simp)
      refine Shape.deliver h.queue hidle (by rw [h.phase pending hp]; simp) ?_
      have hpopped := h.popped
      rwa [pendingSource, hp, Option.map_some, Option.toList_some] at hpopped
    | control => exact { h with }
    | reload audio echo hsplit hnone hkeyed hmode =>
      obtain ⟨hp, -, -⟩ := restoreReloadState_eq echo hmode
      refine ⟨.initial hsplit, .inl rfl, ?_, ?_, fun _ => rfl⟩
      · simp only [pendingSource, hp]
        rfl
      · intro p hsome
        rw [hp] at hsome
        cases hsome

end Adapter

end Asl3
end UsbRadioPlus
