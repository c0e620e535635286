import UsbRadioPlus.Asl3.AdapterSteps

/-!
# Key edges and the order of the actions

The controller sees key and unkey edges, status events and voice frames. `EdgeContract` says how
they follow each other over all the generations of an adapter: the edges alternate, within a packet
the edge stands before the status events and these before the voice, and the voice of a packet is
heard in the key state of the packet, as silence where that is unkeyed. `Edges` is the invariant
behind it: the key state that was delivered is the last edge, and the pending packet has that state.
-/

namespace UsbRadioPlus
namespace Asl3

open Sys ControllerState

variable {F A : Type}

/-! ## Edges -/

/-- The key state that an action announces. -/
def DeliveryAction.edge : DeliveryAction → Option Bool
  | .receiverKey _ => some true
  | .receiverUnkey => some false
  | _ => none

/-- The action delivers a status. -/
def DeliveryAction.isStatus : DeliveryAction → Bool
  | .transmitCtcssReady _ => true
  | .voterRssi _ => true
  | _ => false

/-- The edges among the actions. -/
def edges (actions : List Returned) : List Bool := actions.filterMap fun r => r.1.edge

/-- Every edge changes the key state. -/
def Alternates : Bool → List Bool → Prop
  | _, [] => True
  | keyed, e :: es => e = !keyed ∧ Alternates e es

/-- The key state behind the edges. -/
def keyedAfter (keyed : Bool) (es : List Bool) : Bool := es.getLast?.getD keyed

theorem edges_append (xs ys : List Returned) : edges (xs ++ ys) = edges xs ++ edges ys :=
  List.filterMap_append

theorem keyedAfter_cons (keyed e : Bool) (es : List Bool) :
    keyedAfter keyed (e :: es) = keyedAfter e es := by
  rw [keyedAfter, List.getLast?_cons, Option.getD_some, keyedAfter]

theorem keyedAfter_append (keyed : Bool) (xs ys : List Bool) :
    keyedAfter keyed (xs ++ ys) = keyedAfter (keyedAfter keyed xs) ys := by
  induction xs generalizing keyed with
  | nil => rfl
  | cons e es ih => rw [List.cons_append, keyedAfter_cons, keyedAfter_cons, ih]

theorem alternates_append {keyed : Bool} {xs ys : List Bool} (hx : Alternates keyed xs)
    (hy : Alternates (keyedAfter keyed xs) ys) : Alternates keyed (xs ++ ys) := by
  induction xs generalizing keyed with
  | nil => exact hy
  | cons e es ih =>
    rw [keyedAfter_cons] at hy
    exact ⟨hx.1, ih hx.2 hy⟩

/-- At most one edge, then status events only. -/
def EdgeFirst (actions : List Returned) : Prop :=
  ∃ edge statuses, actions = edge ++ statuses ∧ edge.length ≤ 1 ∧
    (∀ r ∈ edge, r.1.edge.isSome = true) ∧ ∀ r ∈ statuses, r.1.isStatus = true

theorem EdgeFirst.concat_status {actions : List Returned} (h : EdgeFirst actions) {r : Returned}
    (hr : r.1.isStatus = true) : EdgeFirst (actions ++ [r]) := by
  obtain ⟨edge, statuses, rfl, hlen, hedge, hst⟩ := h
  refine ⟨edge, statuses ++ [r], List.append_assoc _ _ _, hlen, hedge, fun x hx => ?_⟩
  rcases List.mem_append.mp hx with hx | hx
  · exact hst x hx
  · rw [List.mem_singleton.mp hx]
    exact hr

/-- A packet of the unkeyed receiver is silence. -/
def Silent (packet : ReceivePacket) : Prop :=
  packet.qualification.receiverKeyed = false → ∀ x ∈ packet.frame.samples, x = 0

theorem silent_frame (mode : AsteriskPcmMode) (samples : List Int) :
    ∀ x ∈ (ReceivePublisher.frame mode false samples).samples, x = 0 := by
  intro x hx
  obtain ⟨_, -, rfl⟩ := List.mem_map.mp hx
  rfl

theorem silent_publishLoop {path : AudioPath F A} {metadata : ReceiveMetadata} (fuel : Nat)
    (self : ReceivePublisher A) (native : List F) (packets : List ReceivePacket)
    (h : ∀ p ∈ packets, Silent p) :
    ∀ p ∈ (self.publishLoop path metadata fuel native packets).2.2, Silent p := by
  induction fuel generalizing self native packets with
  | zero => exact h
  | succ fuel ih =>
    rw [ReceivePublisher.publishLoop]
    split
    · exact h
    · simp only
      split
      · exact h
      · split
        · split
          · exact h
          · refine ih _ _ _ fun p hp => ?_
            rcases List.mem_append.mp hp with hp | hp
            · exact h p hp
            · rw [List.mem_singleton.mp hp]
              intro hk
              simp only at hk
              simp only [hk]
              exact silent_frame _ _
        · exact ih _ _ _ h

theorem silent_publish {path : AudioPath F A} (self : ReceivePublisher A) (native : List F)
    (metadata : ReceiveMetadata) :
    ∀ p ∈ (self.publish path native metadata).2.2, Silent p := by
  unfold ReceivePublisher.publish
  split
  · intro p hp
    cases hp
  · exact silent_publishLoop _ _ _ _ fun p hp => by cases hp

namespace Adapter

/-! ## The invariant -/

/-- The packets delivered in all generations. -/
def delivered (s : Adapter A) : List Delivered := s.past ++ s.done

/-- The actions that the controller has seen. -/
def seen (s : Adapter A) : List Returned := actionsOf s.delivered ++ s.current

/-- The key edges and the order of the actions, over all generations of the adapter. -/
structure EdgeContract (s : Adapter A) : Prop where
  /-- Key and unkey alternate, from unkeyed on. -/
  alternate : Alternates false (edges s.seen)
  /-- The edge of a packet, its status events, its voice: in this order. -/
  ordered : ∀ g ∈ s.delivered, ∃ actions, EdgeFirst actions ∧
    g.actions = actions ++ [(.voice, some g.source.packet.frame)]
  pending : EdgeFirst s.current
  /-- The voice of a packet follows an edge state equal to its `receiver_keyed`. -/
  voices : ∀ before g after, s.delivered = before ++ g :: after →
    keyedAfter false (edges (actionsOf before ++ g.actions)) =
      g.source.packet.qualification.receiverKeyed
  /-- The voice that is heard unkeyed is silence. -/
  silence : ∀ before g after, s.delivered = before ++ g :: after →
    keyedAfter false (edges (actionsOf before ++ g.actions)) = false →
    ∀ x ∈ g.source.packet.frame.samples, x = 0

/-- What the steps keep. -/
structure Edges (s : Adapter A) : Prop where
  alternate : Alternates false (edges s.seen)
  keyed : keyedAfter false (edges s.seen) = s.controller.deliveredKeyed
  ordered : ∀ g ∈ s.delivered, ∃ actions, EdgeFirst actions ∧
    g.actions = actions ++ [(.voice, some g.source.packet.frame)]
  current : EdgeFirst s.current
  voices : ∀ before g after, s.delivered = before ++ g :: after →
    keyedAfter false (edges (actionsOf before ++ g.actions)) =
      g.source.packet.qualification.receiverKeyed
  pending : ∀ p, s.controller.pending = some p →
    s.controller.deliveredKeyed = p.packet.qualification.receiverKeyed
  toPush : ∀ p ∈ s.toPush, Silent p.packet
  pushed : ∀ p ∈ s.handoff.pushed, Silent p.packet
  silent : ∀ g ∈ s.delivered, Silent g.source.packet

theorem Edges.deliver {s : Adapter A} {pending : PendingDelivery} {eventCount : Nat}
    (h : Edges s) (hphase : pending.phase ≠ .voice) (hsilent : Silent pending.packet)
    (hstart : pending.phase = .receiverState → s.current = [])
    (hstatus : pending.phase = .status →
      s.controller.deliveredKeyed = pending.packet.qualification.receiverKeyed) :
    Edges (s.deliver pending eventCount) := by
  have hcases := s.controller.deliver_cases hphase
  cases hd : s.controller.deliver pending with
  | mk returned next =>
  rw [hd] at hcases
  -- Where no edge is due the packet has the key state that was delivered.
  have hsame : (pending.phase = .receiverState →
      s.controller.deliveredKeyed = pending.packet.qualification.receiverKeyed) →
      s.controller.deliveredKeyed = pending.packet.qualification.receiverKeyed := by
    intro hkeyed
    cases hp : pending.phase with
    | receiverState => exact hkeyed hp
    | status => exact hstatus hp
    | voice => exact absurd hp hphase
  have hpending : ∀ {p : PendingDelivery}, next.pending = some ⟨pending.packet, .status⟩ →
      next.deliveredKeyed = pending.packet.qualification.receiverKeyed →
      next.pending = some p → next.deliveredKeyed = p.packet.qualification.receiverKeyed := by
    intro p hn hk hp
    rw [hn] at hp
    obtain rfl := Option.some.inj hp
    exact hk
  cases hcases with
  | edge hp hne hn hk _ =>
    have hnil := hstart hp
    have hedge : edges [((if pending.packet.qualification.receiverKeyed then
        DeliveryAction.receiverKey pending.packet.controllerCtcss else .receiverUnkey), none)] =
        [pending.packet.qualification.receiverKeyed] := by
      cases pending.packet.qualification.receiverKeyed <;> rfl
    rw [deliver_of_some hd hn]
    refine { h with
      alternate := ?_, keyed := ?_, current := ?_, pending := fun p => hpending hn hk }
    · show Alternates false (edges (actionsOf s.delivered ++ (s.current ++ _)))
      rw [← List.append_assoc, edges_append, hedge]
      refine alternates_append h.alternate ⟨?_, trivial⟩
      show pending.packet.qualification.receiverKeyed = !keyedAfter false (edges s.seen)
      rw [h.keyed]
      revert hne
      cases s.controller.deliveredKeyed <;> cases pending.packet.qualification.receiverKeyed <;>
        simp
    · show keyedAfter false (edges (actionsOf s.delivered ++ (s.current ++ _))) = _
      rw [← List.append_assoc, edges_append, hedge, keyedAfter_append, hk]
      rfl
    · refine ⟨[_], [], by rw [hnil]; rfl, Nat.le_refl 1, ?_, by simp⟩
      intro r hr
      rw [List.mem_singleton.mp hr]
      cases pending.packet.qualification.receiverKeyed <;> rfl
  | @status _ status hkeyed _ _ hn hk _ =>
    have hnone : edges [(DeliveryAction.ofStatus
        (pending.packet.statuses.get status.nextSequence), none)] = [] := by
      cases pending.packet.statuses.get status.nextSequence <;> rfl
    rw [deliver_of_some hd hn]
    refine { h with
      alternate := ?_, keyed := ?_, current := ?_
      pending := fun p => hpending hn (hk.trans (hsame hkeyed)) }
    · show Alternates false (edges (actionsOf s.delivered ++ (s.current ++ _)))
      rw [← List.append_assoc, edges_append, hnone, List.append_nil]
      exact h.alternate
    · show keyedAfter false (edges (actionsOf s.delivered ++ (s.current ++ _))) = _
      rw [← List.append_assoc, edges_append, hnone, List.append_nil, hk]
      exact h.keyed
    · refine h.current.concat_status ?_
      cases pending.packet.statuses.get status.nextSequence <;> rfl
  | voice hkeyed _ _ hn hk =>
    have hvoice : edges [(DeliveryAction.voice, some pending.packet.frame)] = [] := rfl
    have hall : s.seen ++ [(DeliveryAction.voice, some pending.packet.frame)] =
        actionsOf (s.delivered ++ [⟨⟨pending.packet, eventCount⟩,
          s.current ++ [(.voice, some pending.packet.frame)]⟩]) ++ [] := by
      simp [seen, actionsOf]
    have hlast : keyedAfter false (edges (s.seen ++ [(DeliveryAction.voice,
        some pending.packet.frame)])) = s.controller.deliveredKeyed := by
      rw [edges_append, hvoice, List.append_nil, h.keyed]
    rw [deliver_of_none hd hn]
    refine ⟨?_, ?_, ?_, ⟨[], [], rfl, Nat.zero_le 1, by simp, by simp⟩, ?_, ?_, h.toPush, h.pushed,
      ?_⟩
    · show Alternates false (edges (actionsOf (s.past ++ (s.done ++ _)) ++ []))
      rw [← List.append_assoc, ← delivered, ← hall, edges_append, hvoice, List.append_nil]
      exact h.alternate
    · show keyedAfter false (edges (actionsOf (s.past ++ (s.done ++ _)) ++ [])) = _
      rw [← List.append_assoc, ← delivered, ← hall, hlast, hk]
    · show ∀ g ∈ s.past ++ (s.done ++ _), _
      rw [← List.append_assoc]
      intro g hg
      rcases List.mem_append.mp hg with hg | hg
      · exact h.ordered g hg
      · obtain rfl := List.mem_singleton.mp hg
        exact ⟨s.current, h.current, rfl⟩
    · show ∀ before g after, s.past ++ (s.done ++ _) = before ++ g :: after → _
      rw [← List.append_assoc]
      intro before g after hsplit
      rcases List.eq_nil_or_concat after with rfl | ⟨after, last, rfl⟩
      · obtain ⟨rfl, hg⟩ := List.append_inj' hsplit rfl
        obtain rfl : _ = g := by simpa using hg
        show keyedAfter false (edges (actionsOf s.delivered ++ (s.current ++ _))) = _
        rw [← List.append_assoc]
        exact hlast.trans (hsame hkeyed)
      · have hcat : s.past ++ s.done = before ++ g :: after := by
          rw [List.concat_eq_append, ← List.cons_append, ← List.append_assoc] at hsplit
          exact (List.append_inj' hsplit rfl).1
        exact h.voices before g after hcat
    · intro p hp
      have hp' : next.pending = some p := hp
      rw [hn] at hp'
      cases hp'
    · show ∀ g ∈ s.past ++ (s.done ++ _), _
      rw [← List.append_assoc]
      intro g hg
      rcases List.mem_append.mp hg with hg | hg
      · exact h.silent g hg
      · obtain rfl := List.mem_singleton.mp hg
        exact hsilent

theorem edges_inductive (path : AudioPath F A) :
    (adapter path).Inductive (fun _ _ => True) fun s => Shape s ∧ Edges s := by
  refine (shape_inductive path).and ?_ ?_
  · rintro s ⟨mode, slotCount, shared, audio, echo, hsplit, rfl⟩
    refine ⟨trivial, rfl, ?_, ⟨[], [], rfl, Nat.zero_le 1, ?_, ?_⟩, ?_, ?_, ?_, ?_, ?_⟩
    all_goals simp [prepare, delivered, ControllerState.prepare, State.initial]
  · intro s a s' hshape h _ hstep
    cases stepCase_of_step hstep with
    | publish native metadata events =>
      refine { h with toPush := fun p hp => ?_ }
      obtain ⟨packet, hpacket, rfl⟩ := List.mem_map.mp hp
      exact silent_publish s.publisher native metadata packet hpacket
    | @push packet rest handoff htp hpush =>
      obtain ⟨h1, -, -⟩ := log_of_callPush hpush
      have htoPush := h.toPush
      rw [htp] at htoPush
      refine { h with
        toPush := fun p hp => htoPush p (List.mem_cons_of_mem _ hp), pushed := fun p hp => ?_ }
      rw [h1] at hp
      rcases List.mem_append.mp hp with hp | hp
      · exact h.pushed p hp
      · rw [List.mem_singleton.mp hp]
        exact htoPush packet List.mem_cons_self
    | access ha h1 _ _ => exact { h with pushed := h1 ▸ h.pushed }
    | @receive packet handoff hpop hne hidle h1 h2 =>
      have hnone := hshape.popping.resolve_left hne
      have hmem : packet ∈ handoff.pushed := by
        refine (hshape.queue.step hpop).popped_sublist.subset ?_
        rw [h2]
        simp
      have h' : Edges { s with handoff } := { h with pushed := h1 ▸ h.pushed }
      exact h'.deliver (by simp) (h'.pushed packet hmem) (fun _ => hshape.current hnone) (by simp)
    | @action pending hp =>
      have hphase := hshape.phase pending hp
      have hmem : (⟨pending.packet, s.pendingCount⟩ : Stamped) ∈ s.handoff.pushed := by
        refine hshape.queue.popped_sublist.subset ?_
        rw [hshape.popped, pendingSource, hp]
        simp
      exact h.deliver (by simp [hphase]) (h.pushed _ hmem) (by simp [hphase])
        fun _ => h.pending pending hp
    | control => exact { h with }
    | @reload slotCount shared state audio echo hsplit hnone hkeyed hmode =>
      obtain ⟨hp, -, hk⟩ := restoreReloadState_eq echo hmode
      have hnil := hshape.current hnone
      have hseen : s.seen = actionsOf (s.past ++ s.done) := by
        rw [seen, hnil, List.append_nil, delivered]
      refine ⟨?_, ?_, ?_, ⟨[], [], rfl, Nat.zero_le 1, by simp, by simp⟩, ?_, ?_, ?_, ?_, ?_⟩
      · show Alternates false (edges (actionsOf (s.past ++ s.done ++ []) ++ []))
        rw [List.append_nil, List.append_nil, ← hseen]
        exact h.alternate
      · show keyedAfter false (edges (actionsOf (s.past ++ s.done ++ []) ++ [])) = _
        rw [List.append_nil, List.append_nil, ← hseen, h.keyed, hk, hkeyed]
      · show ∀ g ∈ s.past ++ s.done ++ [], _
        rw [List.append_nil]
        exact h.ordered
      · show ∀ before g after, s.past ++ s.done ++ [] = before ++ g :: after → _
        rw [List.append_nil]
        exact h.voices
      · intro p hsome
        rw [hp] at hsome
        cases hsome
      · intro p hmem
        cases hmem
      · intro p hmem
        cases hmem
      · show ∀ g ∈ s.past ++ s.done ++ [], _
        rw [List.append_nil]
        exact h.silent

/-- **Key edges and order** in every state that the adapter reaches. -/
theorem edgeContract_of_reach {path : AudioPath F A} {s : Adapter A}
    (h : (adapter path).Reach s) : EdgeContract s := by
  obtain ⟨-, he⟩ := (edges_inductive path).reach h
  refine ⟨he.alternate, he.ordered, he.current, he.voices, ?_⟩
  intro before g after hsplit hkeyed
  refine he.silent g (by rw [hsplit]; simp) ?_
  rw [← he.voices before g after hsplit]
  exact hkeyed

/-- A conversion that yields two samples at every boundary. -/
def constantAudio : AudioPath Unit Unit := ⟨fun a _ => (.ok (), a), fun a => (.ok [5, 5], a)⟩

set_option maxRecDepth 4000 in
/-- A keyed packet with one status event. -/
theorem edgeContract_of_keyedPacket :
    ∃ s, (adapter constantAudio).Reach s ∧
      s.seen = [(.receiverKey none, none), (.voterRssi 7, none),
        (.voice, some ⟨.appRpt, [5, 5]⟩)] ∧ EdgeContract s := by
  obtain ⟨s, hrun, hseen⟩ : ∃ s, (adapter constantAudio).run
      (.prepare .appRpt ⟨2, fun _ => .uninit, 0, 0, 0, 0⟩ () ⟨.disabled, [], 0, 0⟩)
      ([.publish (List.replicate NATIVE_FRAME_SAMPLES ())
        ⟨⟨true, false, true, none, false⟩, none, (some (.voterRssi 7), none)⟩, .callPush] ++
        List.replicate 5 .stepPush ++ [.nextAction] ++ List.replicate 7 .stepPop ++
        [.nextAction, .nextAction]) = some s ∧
      s.seen = [(.receiverKey none, none), (.voterRssi 7, none),
        (.voice, some ⟨.appRpt, [5, 5]⟩)] := ⟨_, rfl, rfl⟩
  have hreach : (adapter constantAudio).Reach s := ⟨_, _, ⟨.appRpt, 2, _, (), _, rfl, rfl⟩, hrun⟩
  exact ⟨s, hreach, hseen, edgeContract_of_reach hreach⟩

end Adapter

end Asl3
end UsbRadioPlus
