import UsbRadioPlus.Asl3.AdapterSteps

/-!
# The status journal

Status events reach the controller by the journal that every packet carries, so packets may be lost.
`JournalContract` numbers the events of a generation from zero: those delivered have increasing
numbers, the counter of the controller counts the delivered and the discarded ones, and an event
that the next delivered packet did not deliver had 16 newer ones behind it in that packet.

The numbers of the source are words: `produced` wraps. The contract holds for fewer than `WORD`
events (`journalContract_of_reach`) and fails where the word has wrapped
(`not_journalContract_wrapped`).
-/

namespace UsbRadioPlus
namespace Asl3

open Sys ControllerState

variable {F A : Type}

/-! ## The journal of a list of events -/

/-- The journal holds the last events of the list. -/
structure JournalOf (events : List ReceiveStatus) (journal : StatusJournal) : Prop where
  produced : journal.produced = events.length
  get : ∀ i, i < events.length → events.length ≤ i + STATUS_CAPACITY →
    events[i]? = some (journal.get i)

theorem journalOf_new : JournalOf [] .new := ⟨rfl, fun i h => absurd h (Nat.not_lt_zero i)⟩

theorem JournalOf.push {events : List ReceiveStatus} {journal : StatusJournal}
    (h : JournalOf events journal) (status : ReceiveStatus) (hlt : events.length + 1 < WORD) :
    JournalOf (events ++ [status]) (journal.push status) := by
  refine ⟨?_, fun i hi hcap => ?_⟩
  · rw [StatusJournal.push, h.produced, Nat.mod_eq_of_lt hlt, List.length_append]
    rfl
  · rw [List.length_append, List.length_singleton] at hi hcap
    rw [StatusJournal.get, StatusJournal.push, h.produced]
    simp only [STATUS_CAPACITY] at hcap ⊢
    rcases Nat.lt_or_ge i events.length with hold | hnew
    · rw [List.getElem?_append_left hold, Function.update_of_ne (by omega),
        h.get i hold (by simp only [STATUS_CAPACITY]; omega), StatusJournal.get]
      rfl
    · obtain rfl : i = events.length := by omega
      rw [List.getElem?_concat_length, Function.update_self]

theorem JournalOf.foldl {events : List ReceiveStatus} {journal : StatusJournal}
    (h : JournalOf events journal) (new : List ReceiveStatus)
    (hlt : (events ++ new).length < WORD) :
    JournalOf (events ++ new) (new.foldl .push journal) := by
  induction new generalizing events journal with
  | nil => simpa using h
  | cons status new ih =>
    rw [List.foldl_cons, ← List.singleton_append, ← List.append_assoc]
    rw [← List.singleton_append, ← List.append_assoc] at hlt
    refine ih (h.push status ?_) hlt
    rw [List.length_append, List.length_append, List.length_singleton] at hlt
    omega

/-- The packet carries the journal of the events that were pushed before it was built. -/
def Snapshot (events : List ReceiveStatus) (p : Stamped) : Prop :=
  p.eventCount ≤ events.length ∧ JournalOf (events.take p.eventCount) p.packet.statuses

theorem Snapshot.append {events : List ReceiveStatus} {p : Stamped} (h : Snapshot events p)
    (new : List ReceiveStatus) : Snapshot (events ++ new) p := by
  refine ⟨?_, ?_⟩
  · rw [List.length_append]
    exact Nat.le_add_right_of_le h.1
  · rw [List.take_append_of_le_length h.1]
    exact h.2

/-- All packets of a call carry the journal behind its events. -/
theorem statuses_publishLoop (path : AudioPath F A) (metadata : ReceiveMetadata) (fuel : Nat)
    (self : ReceivePublisher A) (native : List F) (packets : List ReceivePacket)
    (h : ∀ p ∈ packets, p.statuses = self.statuses) :
    (self.publishLoop path metadata fuel native packets).2.1.statuses = self.statuses ∧
      ∀ p ∈ (self.publishLoop path metadata fuel native packets).2.2,
        p.statuses = self.statuses := by
  induction fuel generalizing self native packets with
  | zero => exact ⟨rfl, h⟩
  | succ fuel ih =>
    rw [ReceivePublisher.publishLoop]
    split
    · exact ⟨rfl, h⟩
    · simp only
      split
      · exact ⟨rfl, h⟩
      · split
        · split
          · exact ⟨rfl, h⟩
          · refine ih _ _ _ fun p hp => ?_
            rcases List.mem_append.mp hp with hp | hp
            · exact h p hp
            · rw [List.mem_singleton.mp hp]
        · exact ih _ _ _ h

theorem statuses_publish (path : AudioPath F A) (self : ReceivePublisher A) (native : List F)
    (metadata : ReceiveMetadata) :
    (self.publish path native metadata).2.1.statuses =
        (if ReceivePublisher.accepts native then metadata.events else []).foldl .push
          self.statuses ∧
      ∀ p ∈ (self.publish path native metadata).2.2,
        p.statuses = (self.publish path native metadata).2.1.statuses := by
  unfold ReceivePublisher.publish
  cases ReceivePublisher.accepts native with
  | false => exact ⟨rfl, fun p hp => by cases hp⟩
  | true =>
    obtain ⟨h1, h2⟩ := statuses_publishLoop path metadata native.length
      { self with statuses := metadata.events.foldl .push self.statuses } native []
      fun p hp => by cases hp
    exact ⟨h1, fun p hp => (h2 p hp).trans h1.symm⟩

/-! ## The events that were delivered -/

/-- The status that an action delivers. -/
def DeliveryAction.statusEvent : DeliveryAction → Option ReceiveStatus
  | .transmitCtcssReady tone => some (.transmitCtcssReady tone)
  | .voterRssi value => some (.voterRssi value)
  | _ => none

/-- The status events among the actions. -/
def statusEvents (actions : List Returned) : List ReceiveStatus :=
  actions.filterMap fun r => r.1.statusEvent

theorem statusEvents_append (xs ys : List Returned) :
    statusEvents (xs ++ ys) = statusEvents xs ++ statusEvents ys :=
  List.filterMap_append

/-- The first packet that was built behind the event. -/
def nextPacket (packets : List Stamped) (event : Nat) : Option Stamped :=
  packets.find? fun p => event < p.eventCount

theorem nextPacket_append {packets : List Stamped} {event : Nat} {p : Stamped}
    (h : nextPacket packets event = some p) (more : List Stamped) :
    nextPacket (packets ++ more) event = some p := by
  unfold nextPacket at h ⊢
  rw [List.find?_append, h]
  rfl

/-- The events before `next` have their place: delivered, in order, or skipped by the next packet
with a full journal of newer events. -/
def Tracked (events : List ReceiveStatus) (packets : List Stamped) (next : Nat)
    (delivered : List ReceiveStatus) : Prop :=
  ∃ positions : List Nat, positions.Pairwise (· < ·) ∧ (∀ i ∈ positions, i < next) ∧
    positions.map (events[·]?) = delivered.map some ∧
    ∀ i < next, i ∈ positions ∨
      ∃ p, nextPacket packets i = some p ∧ i + STATUS_CAPACITY < p.eventCount

namespace Tracked

variable {events : List ReceiveStatus} {packets : List Stamped} {next : Nat}
  {delivered : List ReceiveStatus}

theorem nil : Tracked events packets 0 [] :=
  ⟨[], .nil, fun _ h => (by cases h), rfl, fun i h => absurd h (Nat.not_lt_zero i)⟩

theorem packets_append (h : Tracked events packets next delivered) (more : List Stamped) :
    Tracked events (packets ++ more) next delivered := by
  obtain ⟨positions, h1, h2, h3, h4⟩ := h
  refine ⟨positions, h1, h2, h3, fun i hi => (h4 i hi).imp_right ?_⟩
  rintro ⟨p, hp, hlt⟩
  exact ⟨p, nextPacket_append hp more, hlt⟩

theorem events_append (h : Tracked events packets next delivered) (hle : next ≤ events.length)
    (new : List ReceiveStatus) : Tracked (events ++ new) packets next delivered := by
  obtain ⟨positions, h1, h2, h3, h4⟩ := h
  refine ⟨positions, h1, h2, ?_, h4⟩
  rw [← h3]
  refine List.map_congr_left fun i hi => ?_
  exact List.getElem?_append_left (Nat.lt_of_lt_of_le (h2 i hi) hle)

/-- The controller skips the events that a packet no longer holds. -/
theorem skip {p : Stamped} (h : Tracked events (packets ++ [p]) next delivered)
    (hpackets : ∀ q ∈ packets, q.eventCount ≤ next) {oldest : Nat} (hle : next ≤ oldest)
    (hold : ∀ i < oldest, i + STATUS_CAPACITY < p.eventCount) :
    Tracked events (packets ++ [p]) oldest delivered := by
  obtain ⟨positions, h1, h2, h3, h4⟩ := h
  refine ⟨positions, h1, fun i hi => Nat.lt_of_lt_of_le (h2 i hi) hle, h3, fun i hi => ?_⟩
  rcases Nat.lt_or_ge i next with hlt | hge
  · exact h4 i hlt
  · refine .inr ⟨p, ?_, hold i hi⟩
    have hnone : packets.find? (fun q => i < q.eventCount) = none := by
      refine List.find?_eq_none.mpr fun q hq => ?_
      have := hpackets q hq
      simp only [decide_eq_true_eq]
      omega
    have hp : i < p.eventCount := by
      have := hold i hi
      omega
    rw [nextPacket, List.find?_append, hnone, Option.none_or, List.find?_singleton]
    simp [hp]

/-- The controller delivers the next event. -/
theorem deliver (h : Tracked events packets next delivered) {status : ReceiveStatus}
    (hs : events[next]? = some status) :
    Tracked events packets (next + 1) (delivered ++ [status]) := by
  obtain ⟨positions, h1, h2, h3, h4⟩ := h
  refine ⟨positions ++ [next], ?_, ?_, ?_, ?_⟩
  · refine List.pairwise_append.mpr ⟨h1, List.pairwise_singleton _ _, fun a ha b hb => ?_⟩
    rw [List.mem_singleton.mp hb]
    exact h2 a ha
  · intro i hi
    rcases List.mem_append.mp hi with hi | hi
    · exact Nat.lt_succ_of_lt (h2 i hi)
    · rw [List.mem_singleton.mp hi]
      exact Nat.lt_succ_self next
  · rw [List.map_append, List.map_append, h3, List.map_singleton, List.map_singleton, hs]
  · intro i hi
    rcases Nat.lt_succ_iff_lt_or_eq.mp hi with hlt | rfl
    · exact (h4 i hlt).imp_left (List.mem_append_left _)
    · exact .inl (by simp)

end Tracked

namespace Adapter

/-! ## The invariant -/

/-- The status events delivered in this generation. -/
def deliveredEvents (s : Adapter A) : List ReceiveStatus :=
  statusEvents (actionsOf s.done ++ s.current)

/-- The delivery of status events in a generation. -/
structure JournalContract (s : Adapter A) : Prop where
  /-- The counter of the controller. -/
  counted : s.controller.status.nextSequence =
    s.deliveredEvents.length + s.controller.status.discarded
  /-- The numbers of the delivered events increase; an event without a delivery had a full journal
  of newer events behind it in the next packet that was delivered. That holds of the pending packet
  too, for the events that the counter has passed. -/
  delivered : ∃ positions : List Nat, positions.Pairwise (· < ·) ∧
    positions.map (s.events[·]?) = s.deliveredEvents.map some ∧
    (∀ (i : Nat) p, nextPacket (s.done.map (·.source)) i = some p →
      i ∈ positions ∨ i + STATUS_CAPACITY < p.eventCount) ∧
    ∀ i < s.controller.status.nextSequence, i ∈ positions ∨
      ∃ p, nextPacket (s.done.map (·.source) ++ s.pendingSource.toList) i = some p ∧
        i + STATUS_CAPACITY < p.eventCount

/-- What the steps keep. -/
structure Journal (s : Adapter A) : Prop where
  journal : JournalOf s.events s.publisher.statuses
  toPush : ∀ p ∈ s.toPush, Snapshot s.events p
  pushed : ∀ p ∈ s.handoff.pushed, Snapshot s.events p
  counted : s.controller.status.nextSequence =
    s.deliveredEvents.length + s.controller.status.discarded
  next_le : s.controller.status.nextSequence ≤ s.events.length
  tracked : Tracked s.events (s.done.map (·.source) ++ s.pendingSource.toList)
    s.controller.status.nextSequence s.deliveredEvents
  caughtUp : ∀ g ∈ s.done, g.source.eventCount ≤ s.controller.status.nextSequence

/-- The events that a packet no longer holds. -/
theorem resynchronize_spec {events delivered : List ReceiveStatus} {packets : List Stamped}
    {p : Stamped} {status status' : StatusObservation}
    (hs : status' = resynchronize status p.packet.statuses.oldestSequence)
    (hp : Snapshot events p) (hnext : status.nextSequence ≤ events.length)
    (hcount : status.nextSequence = delivered.length + status.discarded)
    (ht : Tracked events (packets ++ [p]) status.nextSequence delivered)
    (hpackets : ∀ q ∈ packets, q.eventCount ≤ status.nextSequence) :
    p.packet.statuses.produced = p.eventCount ∧
      status.nextSequence ≤ status'.nextSequence ∧ status'.nextSequence ≤ events.length ∧
      p.eventCount ≤ status'.nextSequence + STATUS_CAPACITY ∧
      status'.nextSequence = delivered.length + status'.discarded ∧
      Tracked events (packets ++ [p]) status'.nextSequence delivered := by
  have hproduced : p.packet.statuses.produced = p.eventCount := by
    rw [hp.2.produced, List.length_take, Nat.min_eq_left hp.1]
  have hle := hp.1
  rw [StatusJournal.oldestSequence, hproduced] at hs
  refine ⟨hproduced, ?_⟩
  subst hs
  unfold resynchronize
  split
  · rename_i hlt
    refine ⟨by simp only; omega, by simp only; omega, by simp only; omega, by simp only; omega, ?_⟩
    refine ht.skip hpackets (Nat.le_of_lt hlt) fun i hi => ?_
    have : i < p.eventCount - STATUS_CAPACITY := hi
    omega
  · exact ⟨Nat.le_refl _, hnext, by omega, hcount, ht⟩

theorem Journal.deliver {s : Adapter A} {pending : PendingDelivery} {eventCount : Nat}
    (h : Journal s) (hphase : pending.phase ≠ .voice)
    (hp : Snapshot s.events ⟨pending.packet, eventCount⟩)
    (ht : Tracked s.events (s.done.map (·.source) ++ [⟨pending.packet, eventCount⟩])
      s.controller.status.nextSequence s.deliveredEvents) :
    Journal (s.deliver pending eventCount) := by
  have hcases := s.controller.deliver_cases hphase
  have hdone : ∀ q ∈ s.done.map (·.source), q.eventCount ≤ s.controller.status.nextSequence := by
    intro q hq
    obtain ⟨g, hg, rfl⟩ := List.mem_map.mp hq
    exact h.caughtUp g hg
  cases hd : s.controller.deliver pending with
  | mk returned next =>
  rw [hd] at hcases
  have hmore : ∀ r : Returned, statusEvents (actionsOf s.done ++ (s.current ++ [r])) =
      s.deliveredEvents ++ statusEvents [r] := by
    intro r
    rw [← List.append_assoc, statusEvents_append, deliveredEvents]
  cases hcases with
  | edge _ _ hn _ hs =>
    rw [deliver_of_some hd hn]
    have hevents : statusEvents [((if pending.packet.qualification.receiverKeyed then
        DeliveryAction.receiverKey pending.packet.controllerCtcss else .receiverUnkey), none)] =
        [] := by
      cases pending.packet.qualification.receiverKeyed <;> rfl
    refine { h with counted := ?_, next_le := ?_, tracked := ?_, caughtUp := ?_ }
    · show next.status.nextSequence = (statusEvents (actionsOf s.done ++ (s.current ++ _))).length +
        next.status.discarded
      rw [hmore, hevents, List.append_nil, hs]
      exact h.counted
    · show next.status.nextSequence ≤ s.events.length
      rw [hs]
      exact h.next_le
    · show Tracked s.events _ next.status.nextSequence
        (statusEvents (actionsOf s.done ++ (s.current ++ _)))
      rw [hmore, hevents, List.append_nil, hs]
      simpa only [pendingSource, hn, Option.map_some, Option.toList_some] using ht
    · show ∀ g ∈ s.done, g.source.eventCount ≤ next.status.nextSequence
      rw [hs]
      exact h.caughtUp
  | @status _ status _ hstatus hlt hn _ hs =>
    obtain ⟨hproduced, hmono, hle, hcap, hcount, ht'⟩ :=
      resynchronize_spec (p := ⟨pending.packet, eventCount⟩) hstatus hp h.next_le h.counted ht hdone
    rw [deliver_of_some hd hn]
    replace hlt : status.nextSequence < eventCount := Nat.lt_of_lt_of_eq hlt hproduced
    have hget : s.events[status.nextSequence]? =
        some (pending.packet.statuses.get status.nextSequence) := by
      have := hp.2.get status.nextSequence
        (by rw [List.length_take, Nat.min_eq_left hp.1]; exact hlt)
        (by rw [List.length_take, Nat.min_eq_left hp.1]; exact hcap)
      rwa [List.getElem?_take_of_lt hlt] at this
    have hevents : statusEvents [(DeliveryAction.ofStatus
        (pending.packet.statuses.get status.nextSequence), none)] =
        [pending.packet.statuses.get status.nextSequence] := by
      cases pending.packet.statuses.get status.nextSequence <;> rfl
    refine { h with counted := ?_, next_le := ?_, tracked := ?_, caughtUp := ?_ }
    · show next.status.nextSequence = (statusEvents (actionsOf s.done ++ (s.current ++ _))).length +
        next.status.discarded
      rw [hmore, hevents, hs, List.length_append, List.length_singleton]
      simp only
      omega
    · show next.status.nextSequence ≤ s.events.length
      rw [hs]
      exact Nat.lt_of_lt_of_le hlt hp.1
    · show Tracked s.events _ next.status.nextSequence
        (statusEvents (actionsOf s.done ++ (s.current ++ _)))
      rw [hmore, hevents, hs]
      simpa only [pendingSource, hn, Option.map_some, Option.toList_some] using ht'.deliver hget
    · show ∀ g ∈ s.done, g.source.eventCount ≤ next.status.nextSequence
      rw [hs]
      intro g hg
      have := h.caughtUp g hg
      simp only
      omega
  | voice _ hs hge hn _ =>
    obtain ⟨hproduced, hmono, hle, -, hcount, ht'⟩ :=
      resynchronize_spec (p := ⟨pending.packet, eventCount⟩) hs hp h.next_le h.counted ht hdone
    rw [deliver_of_none hd hn]
    rw [hproduced] at hge
    have hall : statusEvents (actionsOf (s.done ++ [⟨⟨pending.packet, eventCount⟩,
        s.current ++ [(.voice, some pending.packet.frame)]⟩]) ++ []) = s.deliveredEvents := by
      rw [List.append_nil, actionsOf, List.flatMap_append, List.flatMap_singleton, ← actionsOf,
        hmore]
      exact List.append_nil _
    refine { h with counted := ?_, next_le := hle, tracked := ?_, caughtUp := ?_ }
    · show next.status.nextSequence = (statusEvents (actionsOf (s.done ++ _) ++ [])).length +
        next.status.discarded
      rw [hall]
      exact hcount
    · show Tracked s.events _ next.status.nextSequence (statusEvents (actionsOf (s.done ++ _) ++ []))
      rw [hall]
      simpa only [pendingSource, hn, Option.map_none, Option.toList_none, List.append_nil,
        List.map_append, List.map_singleton] using ht'
    · intro g hg
      rcases List.mem_append.mp hg with hg | hg
      · exact Nat.le_trans (h.caughtUp g hg) hmono
      · rw [List.mem_singleton.mp hg]
        exact hge

theorem events_deliver (s : Adapter A) (pending : PendingDelivery) (eventCount : Nat) :
    (s.deliver pending eventCount).events = s.events := by
  unfold Adapter.deliver
  simp only
  split <;> rfl

theorem journal_inductive (path : AudioPath F A) :
    (adapter path).Inductive (fun _ _ => True)
      fun s => Shape s ∧ (s.events.length < WORD → Journal s) := by
  refine (shape_inductive path).and ?_ ?_
  · rintro s ⟨mode, slotCount, shared, audio, echo, hsplit, rfl⟩ -
    refine ⟨journalOf_new, ?_, ?_, rfl, Nat.le_refl 0, .nil, ?_⟩
    all_goals simp [prepare, State.initial]
  · intro s a s' hshape h _ hstep
    cases stepCase_of_step hstep with
    | publish native metadata events htp hevents =>
      intro hlt
      obtain ⟨hjournal, hpackets⟩ := statuses_publish path s.publisher native metadata
      obtain ⟨new, rfl, hnew⟩ : ∃ new, events = s.events ++ new ∧
          new = if ReceivePublisher.accepts native then metadata.events else [] := by
        refine ⟨_, ?_, rfl⟩
        rw [hevents]
        split <;> simp
      rw [← hnew] at hjournal
      have h := h (by
        have hlt' : (s.events ++ new).length < WORD := hlt
        rw [List.length_append] at hlt'
        omega)
      have hnext : JournalOf (s.events ++ new) (s.publisher.publish path native metadata).2.1.statuses := by
        rw [hjournal]
        exact h.journal.foldl new hlt
      refine { h with
        journal := hnext, toPush := fun p hp => ?_
        pushed := fun p hp => (h.pushed p hp).append new, next_le := ?_
        tracked := h.tracked.events_append h.next_le new }
      · obtain ⟨packet, hpacket, rfl⟩ := List.mem_map.mp hp
        refine ⟨Nat.le_refl _, ?_⟩
        show JournalOf ((s.events ++ new).take (s.events ++ new).length) packet.statuses
        rw [List.take_length, hpackets packet hpacket]
        exact hnext
      · show s.controller.status.nextSequence ≤ (s.events ++ new).length
        rw [List.length_append]
        exact Nat.le_add_right_of_le h.next_le
    | @push packet rest handoff htp hpush =>
      intro hlt
      have h := h hlt
      obtain ⟨h1, -, -⟩ := log_of_callPush hpush
      have htoPush := h.toPush
      rw [htp] at htoPush
      refine { h with
        toPush := fun p hp => htoPush p (List.mem_cons_of_mem _ hp), pushed := fun p hp => ?_ }
      rw [h1] at hp
      rcases List.mem_append.mp hp with hp | hp
      · exact h.pushed p hp
      · rw [List.mem_singleton.mp hp]
        exact htoPush packet List.mem_cons_self
    | access ha h1 _ _ =>
      intro hlt
      have h := h hlt
      exact { h with pushed := h1 ▸ h.pushed }
    | @receive packet handoff hpop hne hidle h1 h2 =>
      intro hlt
      have h := h (by rwa [events_deliver] at hlt)
      have hnone := hshape.popping.resolve_left hne
      have hmem : packet ∈ handoff.pushed := by
        refine (hshape.queue.step hpop).popped_sublist.subset ?_
        rw [h2]
        simp
      have h' : Journal { s with handoff } := { h with pushed := h1 ▸ h.pushed }
      refine h'.deliver (by simp) (h'.pushed packet hmem) ?_
      have ht := h.tracked
      rw [pendingSource, hnone, Option.map_none, Option.toList_none, List.append_nil] at ht
      exact ht.packets_append [packet]
    | @action pending hp =>
      intro hlt
      have h := h (by rwa [events_deliver] at hlt)
      have hphase := hshape.phase pending hp
      have hmem : (⟨pending.packet, s.pendingCount⟩ : Stamped) ∈ s.handoff.pushed := by
        refine hshape.queue.popped_sublist.subset ?_
        rw [hshape.popped, pendingSource, hp]
        simp
      refine h.deliver (by simp [hphase]) (h.pushed _ hmem) ?_
      have ht := h.tracked
      rwa [pendingSource, hp, Option.map_some, Option.toList_some] at ht
    | control =>
      intro hlt
      have h := h hlt
      exact { h with }
    | @reload slotCount shared state audio echo hsplit hnone hkeyed hmode =>
      intro _
      obtain ⟨hp, hs, -⟩ := restoreReloadState_eq echo hmode
      refine ⟨journalOf_new, ?_, ?_, ?_, ?_, ?_, ?_⟩
      · intro p hmem
        cases hmem
      · intro p hmem
        cases hmem
      · rw [hs]
        rfl
      · rw [hs]
        exact Nat.zero_le _
      · rw [hs]
        exact .nil
      · intro g hmem
        cases hmem

/-- The packet that a later packet stands behind has delivered the event or skipped it. -/
theorem Journal.contract {s : Adapter A} (h : Journal s) : JournalContract s := by
  obtain ⟨positions, h1, -, h3, h4⟩ := h.tracked
  refine ⟨h.counted, positions, h1, h3, fun i p hp => ?_, h4⟩
  obtain ⟨g, hg, rfl⟩ := List.mem_map.mp (List.mem_of_find?_eq_some hp)
  have hlt : i < g.source.eventCount := by simpa using List.find?_some hp
  rcases h4 i (Nat.lt_of_lt_of_le hlt (h.caughtUp g hg)) with hi | ⟨q, hq, hcap⟩
  · exact .inl hi
  · rw [nextPacket_append hp] at hq
    obtain rfl := Option.some.inj hq
    exact .inr hcap

/-- **The status journal** in every state that the adapter reaches, as long as the number of the
events of the generation is a word. -/
theorem journalContract_of_reach {path : AudioPath F A} {s : Adapter A}
    (h : (adapter path).Reach s) (hlt : s.events.length < WORD) : JournalContract s :=
  (((journal_inductive path).reach h).2 hlt).contract

/-! ## Two events, and too many -/

/-- A conversion that fails on the spans with a sample `true`. -/
def flakyAudio : AudioPath Bool Unit :=
  ⟨fun a native => (if native.contains true then .error .conversionStalled else .ok (), a),
    fun a => (.ok [], a)⟩

/-- Behind bursts only: the events, and the counter of the journal. -/
def flooded (events : List ReceiveStatus) (produced : Nat) : Adapter Unit :=
  { prepare .appRpt ⟨2, fun _ => .uninit, 0, 0, 0, 0⟩ () ⟨.disabled, [], 0, 0⟩ with
    publisher := ⟨.appRpt, (), 0, ⟨fun _ => .voterRssi 0, produced⟩⟩
    events }

theorem init_flooded : (adapter flakyAudio).init (flooded [] 0) :=
  ⟨.appRpt, 2, _, (), _, rfl, rfl⟩

/-- One frame is published, handed over and taken. -/
def takeFrame (statuses : Option ReceiveStatus × Option ReceiveStatus) :
    List (AdapterAct Bool Unit) :=
  [.publish (List.replicate NATIVE_FRAME_SAMPLES false) ⟨.default, none, statuses⟩, .callPush] ++
    List.replicate 5 .stepPush ++ [.nextAction] ++ List.replicate 7 .stepPop

set_option maxRecDepth 4000 in
/-- A packet with two status events. -/
theorem journalContract_of_twoEvents :
    ∃ s : Adapter Unit, s.deliveredEvents = [.voterRssi 7, .voterRssi 8] ∧ JournalContract s := by
  obtain ⟨s, hrun, hcount, hevents⟩ : ∃ s, (adapter flakyAudio).run (flooded [] 0)
      (takeFrame (some (.voterRssi 7), some (.voterRssi 8)) ++ [.nextAction]) = some s ∧
      s.events.length = 2 ∧ s.deliveredEvents = [.voterRssi 7, .voterRssi 8] :=
    ⟨_, rfl, rfl, rfl⟩
  exact ⟨s, hevents, journalContract_of_reach ⟨_, _, init_flooded, hrun⟩ (by rw [hcount]; decide)⟩

/-- A call of `publish` that latches two events and builds no packet. -/
def burst : AdapterAct Bool Unit :=
  .publish [true] ⟨.default, none, (some (.voterRssi 0), some (.voterRssi 0))⟩

theorem step_burst (events : List ReceiveStatus) (produced : Nat) :
    (adapter flakyAudio).step (flooded events produced) burst =
      some (flooded (events ++ [.voterRssi 0, .voterRssi 0])
        (((produced + 1) % WORD + 1) % WORD)) := by
  have hpush : ∀ n : Nat, StatusJournal.push ⟨fun _ => .voterRssi 0, n⟩ (.voterRssi 0) =
      ⟨fun _ => .voterRssi 0, (n + 1) % WORD⟩ := fun n => by
    rw [StatusJournal.push, Function.update_eq_self]
  rw [flooded, flooded, ← hpush, ← hpush]
  rfl

theorem run_bursts (k : Nat) :
    (adapter flakyAudio).run (flooded [] 0) (List.replicate k burst) =
      some (flooded (List.replicate (2 * k) (.voterRssi 0)) (2 * k % WORD)) := by
  induction k with
  | zero => rfl
  | succ k ih =>
    have hlist : List.replicate (2 * k) (ReceiveStatus.voterRssi 0) ++ [.voterRssi 0, .voterRssi 0] =
        List.replicate (2 * (k + 1)) (.voterRssi 0) :=
      List.replicate_append_replicate (n := 2 * k) (m := 2)
    have hcount : ((2 * k % WORD + 1) % WORD + 1) % WORD = 2 * (k + 1) % WORD := by
      rw [Nat.mod_add_mod, Nat.add_assoc, Nat.mod_add_mod, Nat.mul_succ]
    rw [List.replicate_succ', System.run_append]
    refine ⟨_, ih, System.run_singleton.mpr ?_⟩
    rw [step_burst, hlist, hcount]

/-- The events of bursts that wrap the counter once. -/
def wrappedEvents : List ReceiveStatus := List.replicate WORD (.voterRssi 0)

set_option maxRecDepth 4000 in
theorem run_takeFrame :
    ∃ s, (adapter flakyAudio).run (flooded wrappedEvents 0) (takeFrame (none, none)) = some s ∧
      s.deliveredEvents = [] ∧
      s.done.map (·.source.eventCount) = [(wrappedEvents ++ []).length] :=
  ⟨_, rfl, rfl, rfl⟩

/-- Behind `WORD` events the counter of the journal is zero again, and the next packet delivers none
of them: the contract fails. -/
theorem not_journalContract_wrapped :
    ∃ s : Adapter Unit, (adapter flakyAudio).Reach s ∧ ¬ JournalContract s := by
  obtain ⟨k, hk⟩ : ∃ k, 2 * k = WORD := ⟨2 ^ 63, by decide⟩
  have hbursts := run_bursts k
  rw [hk, Nat.mod_self, ← wrappedEvents] at hbursts
  obtain ⟨s, hrun, hdelivered, hdone⟩ := run_takeFrame
  rw [List.append_nil, wrappedEvents, List.length_replicate] at hdone
  refine ⟨s, ⟨_, _, init_flooded, System.run_append.mpr ⟨_, hbursts, hrun⟩⟩, fun h => ?_⟩
  obtain ⟨positions, -, hmap, hskip, -⟩ := h.delivered
  rw [hdelivered] at hmap
  obtain rfl : positions = [] := by simpa using hmap
  obtain ⟨g, hg, hcount⟩ := List.map_eq_singleton_iff.mp hdone
  have hpos : WORD - 1 < WORD := Nat.sub_lt (by decide) Nat.one_pos
  have hlast : nextPacket (s.done.map (·.source)) (WORD - 1) = some g.source := by
    rw [hg, List.map_singleton, nextPacket, List.find?_singleton, hcount]
    exact if_pos (decide_eq_true hpos)
  have hfull := (hskip _ _ hlast).resolve_left List.not_mem_nil
  rw [hcount, STATUS_CAPACITY] at hfull
  omega

end Adapter

end Asl3
end UsbRadioPlus
