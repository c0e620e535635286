import UsbRadioPlus.Asl3.Handoff

/-!
# The handoff is a queue that keeps the latest values

The slots from the consumer index to the producer index are the waiting values (`RingInv`). The
operations of `Sys.LatestQueue` happen at one access each: an offer at the call of `push`, the
replacement at the compare-exchange, the admission at the store of the producer index, the drop at
its count, a take at the release of the claim. All other accesses change no queue.

What makes the races harmless:

* The producer writes the slot at its own index, and only with one more slot free.
* A claim makes the compare-exchange fail, so nothing that is claimed is replaced.
* From the compare-exchange to the store of the producer index the queue is empty and the consumer
  index is the slot that is written (`PushPc.window`). The generation is odd there, and the consumer
  copies only if the generation it reads behind its claim is the even one it began with. The parity
  is all that counts, so the wrap of the generation is harmless.
-/

namespace UsbRadioPlus
namespace Asl3

open Sys

variable {T : Type}

/-! ## The slots -/

/-- The slots from the consumer index on hold the waiting values, up to the producer index. -/
structure RingInv (shared : Shared T) (ws : List T) : Prop where
  two_le : 2 ≤ shared.slotCount
  le_mask : shared.slotCount ≤ INDEX_MASK
  consumer_lt : shared.consumer < shared.slotCount
  length_lt : ws.length < shared.slotCount
  producer : shared.producer = (shared.consumer + ws.length) % shared.slotCount
  holds : Ring.Holds shared.slots shared.slotCount shared.consumer (ws.map .written)

namespace RingInv

variable {shared : Shared T} {ws : List T} (h : RingInv shared ws)
include h

theorem slotCount_lt : shared.slotCount < READING := by
  have := h.le_mask
  have : INDEX_MASK < READING := by decide
  omega

theorem producer_lt : shared.producer < shared.slotCount := by
  rw [h.producer]
  exact Nat.mod_lt _ (Nat.lt_of_lt_of_le Nat.zero_lt_two h.two_le)

theorem distance_eq : Ring.distance shared.consumer shared.producer shared.slotCount = ws.length := by
  rw [h.producer, Ring.distance_add h.consumer_lt h.length_lt]

/-- The queue is full exactly when the slot behind the producer index is the consumer's. -/
theorem next_ne_iff :
    Ring.next shared.producer shared.slotCount ≠ shared.consumer ↔
      ws.length + 1 < shared.slotCount := by
  have hlen := h.length_lt
  rw [h.producer, Ring.next_add]
  rcases Nat.lt_or_ge (ws.length + 1) shared.slotCount with hl | hl
  · refine iff_of_true (fun he => ?_) hl
    have hz : (shared.consumer + 0) % shared.slotCount = shared.consumer := by
      rw [Nat.add_zero, Nat.mod_eq_of_lt h.consumer_lt]
    have := Ring.index_inj hl (by omega) (he.trans hz.symm)
    omega
  · refine iff_of_false (fun hne => hne ?_) (by omega)
    rw [show ws.length + 1 = shared.slotCount by omega, Nat.add_mod_right,
      Nat.mod_eq_of_lt h.consumer_lt]

theorem eq_nil_iff : shared.consumer = shared.producer ↔ ws = [] := by
  rw [← List.length_eq_zero_iff, ← h.distance_eq]
  constructor
  · intro he
    rw [← he, Ring.distance, Nat.add_comm, Nat.add_sub_cancel, Nat.mod_self]
  · intro he
    have hp := h.producer
    rw [← h.distance_eq, he, Nat.add_zero, Nat.mod_eq_of_lt h.consumer_lt] at hp
    exact hp.symm

/-- Only the slots and the indices count. -/
theorem congr {shared' : Shared T} (hn : shared'.slotCount = shared.slotCount)
    (hs : shared'.slots = shared.slots) (hp : shared'.producer = shared.producer)
    (hc : shared'.consumer = shared.consumer) : RingInv shared' ws := by
  refine ⟨?_, ?_, ?_, ?_, ?_, ?_⟩
  · rw [hn]; exact h.two_le
  · rw [hn]; exact h.le_mask
  · rw [hn, hc]; exact h.consumer_lt
  · rw [hn]; exact h.length_lt
  · rw [hn, hc, hp]; exact h.producer
  · rw [hn, hc, hs]; exact h.holds

/-- The slot at the producer index is free. -/
theorem setSlot (slot : Slot T) : RingInv (shared.setSlot shared.producer slot) ws where
  two_le := h.two_le
  le_mask := h.le_mask
  consumer_lt := h.consumer_lt
  length_lt := h.length_lt
  producer := h.producer
  holds := by
    have := h.holds.update (k := ws.length) (by simp) h.length_lt slot
    rwa [← h.producer] at this

/-- The value written at the producer index joins the queue. -/
theorem enqueue {v : T} (hfree : ws.length + 1 < shared.slotCount)
    (hv : shared.slots shared.producer = .written v) :
    RingInv { shared with producer := Ring.next shared.producer shared.slotCount } (ws ++ [v]) where
  two_le := h.two_le
  le_mask := h.le_mask
  consumer_lt := h.consumer_lt
  length_lt := by simpa using hfree
  producer := by
    show Ring.next shared.producer shared.slotCount = _
    rw [h.producer, Ring.next_add]
    simp [Shared.consumer]
  holds := by
    rw [List.map_append]
    refine h.holds.concat ?_
    rw [List.length_map, ← h.producer]
    exact hv

/-- The consumer index moved to the producer index. -/
theorem evict : RingInv { shared with consumerState := shared.producer } [] := by
  have hp : shared.producer &&& INDEX_MASK = shared.producer :=
    and_indexMask (Nat.lt_trans h.producer_lt h.slotCount_lt)
  refine ⟨h.two_le, h.le_mask, ?_, ?_, ?_, Ring.holds_nil _ _ _⟩
  · show shared.producer &&& INDEX_MASK < shared.slotCount
    rw [hp]
    exact h.producer_lt
  · exact Nat.lt_of_lt_of_le Nat.zero_lt_two h.two_le
  · show shared.producer = ((shared.producer &&& INDEX_MASK) + 0) % shared.slotCount
    rw [hp, Nat.add_zero, Nat.mod_eq_of_lt h.producer_lt]

end RingInv

theorem RingInv.take {shared : Shared T} {v : T} {ws : List T} (h : RingInv shared (v :: ws)) :
    RingInv { shared with consumerState := Ring.next shared.consumer shared.slotCount } ws := by
  have hn : 0 < shared.slotCount := Nat.lt_of_lt_of_le Nat.zero_lt_two h.two_le
  have hc : Ring.next shared.consumer shared.slotCount &&& INDEX_MASK =
      Ring.next shared.consumer shared.slotCount :=
    and_indexMask (Nat.lt_trans (Ring.next_lt hn _) h.slotCount_lt)
  have hlen := h.length_lt
  rw [List.length_cons] at hlen
  refine ⟨h.two_le, h.le_mask, ?_, ?_, ?_, ?_⟩
  · show Ring.next _ _ &&& INDEX_MASK < shared.slotCount
    rw [hc]
    exact Ring.next_lt hn _
  · show ws.length < shared.slotCount
    omega
  · show shared.producer = ((Ring.next _ _ &&& INDEX_MASK) + ws.length) % shared.slotCount
    rw [hc, h.producer, Ring.next, Nat.mod_add_mod, List.length_cons]
    congr 1
    omega
  · show Ring.Holds _ _ (Ring.next _ _ &&& INDEX_MASK) _
    rw [hc]
    exact h.holds.pop

/-! ## The program counters -/

namespace PushPc

/-- The value of a call whose offer is not settled. -/
def pending : PushPc T → Option T
  | .loadProducer v => some v
  | .loadConsumer v _ => some v
  | .openGeneration v _ => some v
  | .reloadConsumer v _ => some v
  | .compareExchange v _ _ => some v
  | .addDiscarded v _ _ => some v
  | .write v _ _ => some v
  | .finishWrite v _ _ => some v
  | .storeProducer v _ _ => some v
  | .dropDiscarded v => some v
  | _ => none

/-- Between the compare-exchange and the store of the producer index. -/
def window : PushPc T → Bool
  | .addDiscarded _ _ _ => true
  | .write _ _ stale => stale
  | .finishWrite _ _ stale => stale
  | .storeProducer _ _ stale => stale
  | _ => false

/-- Between the two changes of the generation. -/
def opened : PushPc T → Bool
  | .reloadConsumer _ _ => true
  | .compareExchange _ _ _ => true
  | .closeGeneration => true
  | .dropDiscarded _ => true
  | .dropGeneration => true
  | pc => pc.window

/-- The outcome that a call with a settled offer returns. -/
def upcoming : PushPc T → List PublishOutcome
  | .closeGeneration => [.replacedStale]
  | .dropGeneration => [.droppedDuringRead]
  | _ => []

/-- Replaced values that the counter does not count yet. -/
def uncounted (slotCount : Nat) : PushPc T → Nat
  | .addDiscarded _ p c => Ring.distance c p slotCount
  | _ => 0

end PushPc

/-- The index of a claim that is held. -/
def PopPc.claimed : PopPc T → Option Nat
  | .recheck _ c => some c
  | .restore c => some c
  | .copy c => some c
  | .release c _ => some c
  | _ => none

/-- What holds of the local variables of `push`. -/
def PushLocal (shared : Shared T) (ws : List T) : PushPc T → Prop
  | .loadConsumer _ p => p = shared.producer
  | .openGeneration _ p => p = shared.producer
  | .reloadConsumer _ p => p = shared.producer
  | .compareExchange _ p c => p = shared.producer ∧ c < READING
  | .addDiscarded _ p _ => p = shared.producer ∧ ws = []
  | .write _ p stale =>
    p = shared.producer ∧ ws.length + 1 < shared.slotCount ∧ (stale = true → ws = [])
  | .finishWrite _ p stale =>
    p = shared.producer ∧ ws.length + 1 < shared.slotCount ∧ (stale = true → ws = [])
  | .storeProducer v p stale =>
    p = shared.producer ∧ ws.length + 1 < shared.slotCount ∧ (stale = true → ws = []) ∧
      shared.slots p = .written v
  | _ => True

/-- A value waits, or one will before the generation is even again. -/
def Live (ws : List T) (push : PushPc T) : Prop := ws ≠ [] ∨ push.window = true

/-- What holds of the local variables of `pop`. -/
def PopLocal (shared : Shared T) (push : PushPc T) (ws : List T) : PopPc T → Prop
  | .loadConsumer g => g % 2 = 0
  | .loadProducer g c => g % 2 = 0 ∧ (c = shared.consumer ∨ Live ws push)
  | .claim g => g % 2 = 0 ∧ Live ws push
  | .recheck g _ => g % 2 = 0 ∧ Live ws push
  | .copy _ => ws ≠ []
  | .release _ v => ws.head? = some v
  | _ => True

/-- Accesses of `pop` keep what `push` relies on: they take values out of the queue only. -/
theorem PushLocal.of_pop {shared shared' : Shared T} {ws ws' : List T} {pc : PushPc T}
    (h : PushLocal shared ws pc) (hn : shared'.slotCount = shared.slotCount)
    (hs : shared'.slots = shared.slots) (hp : shared'.producer = shared.producer)
    (hws : ws'.length ≤ ws.length) : PushLocal shared' ws' pc := by
  have hnil : ws = [] → ws' = [] := by
    rintro rfl
    exact List.eq_nil_of_length_eq_zero (Nat.le_zero.mp hws)
  cases pc <;> simp only [PushLocal, hn, hs, hp] at h ⊢
  case addDiscarded => exact ⟨h.1, hnil h.2⟩
  case write => exact ⟨h.1, by omega, fun hst => hnil (h.2.2 hst)⟩
  case finishWrite => exact ⟨h.1, by omega, fun hst => hnil (h.2.2 hst)⟩
  case storeProducer => exact ⟨h.1, by omega, fun hst => hnil (h.2.2.1 hst), h.2.2.2⟩
  all_goals exact h

/-- Accesses of `push` keep what `pop` relies on: they take nothing from under a claim. -/
theorem PopLocal.of_push {shared shared' : Shared T} {push push' : PushPc T} {ws ws' : List T}
    {pc : PopPc T} (h : PopLocal shared push ws pc) (hlive : Live ws push → Live ws' push')
    (hc : shared'.consumer = shared.consumer ∨ Live ws' push')
    (hws : pc.claimed.isSome → ws <+: ws') : PopLocal shared' push' ws' pc := by
  cases pc with
  | loadProducer g c =>
    refine ⟨h.1, ?_⟩
    rcases h.2 with rfl | hl
    · exact hc.imp_left Eq.symm
    · exact .inr (hlive hl)
  | claim g => exact ⟨h.1, hlive h.2⟩
  | recheck g c => exact ⟨h.1, hlive h.2⟩
  | copy c =>
    intro hnil
    have := hws rfl
    rw [hnil] at this
    exact h (List.prefix_nil.mp this)
  | release c v =>
    obtain ⟨t, rfl⟩ := hws rfl
    show (ws ++ t).head? = some v
    rw [List.head?_append, h]
    rfl
  | _ => exact h

/-- What the outcomes say about the settled offers. `window`: the pending offer has replaced the
values that waited. -/
structure Reported (outcomes : List PublishOutcome) (window : Bool) (es : List (T × Fate)) :
    Prop where
  length : es.length = outcomes.length
  dropped : ∀ (i : Nat) o e, outcomes[i]? = some o → es[i]? = some e →
    (o = .droppedDuringRead ↔ e.2 = .dropped)
  replaced : ∀ (i : Nat) e k, es[i]? = some e → e.2 = .replaced k →
    outcomes[k]? = some .replacedStale ∨ (k = outcomes.length ∧ window = true)

namespace Reported

variable {outcomes : List PublishOutcome} {window : Bool} {es : List (T × Fate)}

/-- A settled offer gets its outcome. -/
theorem settle (h : Reported outcomes window es) {v : T} {f : Fate} {o : PublishOutcome}
    (hf : f = .waiting ∨ f = .dropped) (hd : o = .droppedDuringRead ↔ f = .dropped)
    (hw : window = true → o = .replacedStale) :
    Reported (outcomes ++ [o]) false (es ++ [(v, f)]) := by
  have hlen := h.length
  refine ⟨by simp [hlen], ?_, ?_⟩
  · intro i o' e ho he
    rcases Nat.lt_or_ge i es.length with hi | hi
    · rw [List.getElem?_append_left (by omega)] at ho
      rw [List.getElem?_append_left hi] at he
      exact h.dropped i o' e ho he
    · rw [List.getElem?_append_right (by omega)] at ho
      rw [List.getElem?_append_right hi] at he
      obtain rfl := List.mem_singleton.mp (List.mem_of_getElem? ho)
      obtain rfl := List.mem_singleton.mp (List.mem_of_getElem? he)
      exact hd
  · intro i e k he hk
    rcases Nat.lt_or_ge i es.length with hi | hi
    · rw [List.getElem?_append_left hi] at he
      rcases h.replaced i e k he hk with hr | ⟨rfl, hr⟩
      · refine .inl ?_
        rw [List.getElem?_append_left (List.getElem?_eq_some_iff.mp hr).1]
        exact hr
      · exact .inl (by rw [List.getElem?_concat_length, hw hr])
    · rw [List.getElem?_append_right hi] at he
      obtain rfl := List.mem_singleton.mp (List.mem_of_getElem? he)
      rcases hf with rfl | rfl <;> cases hk

theorem replaceAll (h : Reported outcomes false es) :
    Reported outcomes true (Sys.replaceAll es.length es) := by
  refine ⟨by simp [Sys.replaceAll, h.length], ?_, ?_⟩
  · intro i o e ho he
    rcases getElem?_replaceAll es.length es i with hi | ⟨v, h1, h2⟩
    · exact h.dropped i o e ho (hi ▸ he)
    · rw [h2] at he
      obtain rfl := Option.some.inj he
      rw [h.dropped i o _ ho h1]
      simp
  · intro i e k he hk
    rcases getElem?_replaceAll es.length es i with hi | ⟨v, h1, h2⟩
    · rcases h.replaced i e k (hi ▸ he) hk with hr | ⟨-, hr⟩
      · exact .inl hr
      · cases hr
    · rw [h2] at he
      obtain rfl := Option.some.inj he
      obtain rfl : es.length = k := by simpa using hk
      exact .inr ⟨h.length, rfl⟩

theorem takeFirst (h : Reported outcomes window es) :
    Reported outcomes window (Sys.takeFirst es) := by
  have hlen : (Sys.takeFirst es).length = es.length := by
    have := congrArg List.length (map_fst_takeFirst es)
    simpa using this
  refine ⟨hlen.trans h.length, ?_, ?_⟩
  · intro i o e ho he
    rcases getElem?_takeFirst es i with hi | ⟨v, h1, h2⟩
    · exact h.dropped i o e ho (hi ▸ he)
    · rw [h2] at he
      obtain rfl := Option.some.inj he
      rw [h.dropped i o _ ho h1]
      simp
  · intro i e k he hk
    rcases getElem?_takeFirst es i with hi | ⟨v, h1, h2⟩
    · exact h.replaced i e k (hi ▸ he) hk
    · rw [h2] at he
      obtain rfl := Option.some.inj he
      cases hk

end Reported

/-! ## The refinement -/

/-- The state of the handoff and the queue that it is. -/
structure Refines (s : State T) (q : LatestQueue T) : Prop where
  ring : RingInv s.shared q.waiting
  packed : s.shared.consumerState =
    if s.pop.claimed.isSome then s.shared.consumer ||| READING else s.shared.consumer
  claimed : ∀ c, s.pop.claimed = some c → c = s.shared.consumer
  parity : s.shared.generation % 2 = s.push.opened.toNat
  counted : (s.shared.discarded + s.push.uncounted s.shared.slotCount) % WORD = q.lost % WORD
  discarded_lt : s.shared.discarded < WORD
  pending : q.pending = s.push.pending
  pushed : s.pushed = q.offered
  popped : s.popped = q.taken
  reported : Reported (s.outcomes ++ s.push.upcoming) s.push.window q.entries
  pushLocal : PushLocal s.shared q.waiting s.push
  popLocal : PopLocal s.shared s.push q.waiting s.pop

theorem bump_mod_two (g : Nat) : (g + 1) % WORD % 2 = (g + 1) % 2 :=
  Nat.mod_mod_of_dvd _ (by decide)

theorem offered_offer {q : LatestQueue T} (h : q.pending = none) (v : T) :
    (q.offer v).offered = q.offered ++ [v] := by
  simp [LatestQueue.offered, LatestQueue.offer, h]

theorem offered_settle {q : LatestQueue T} {v : T} (h : q.pending = some v) (f : Fate)
    (hf : f = .waiting ∨ f = .dropped) : (q.settle v f hf).offered = q.offered := by
  simp [LatestQueue.offered, LatestQueue.settle, h]

/-- The call of `push` is the offer. -/
theorem refines_callPush {s s' : State T} {q : LatestQueue T} (h : Refines s q) {v : T}
    (hstep : s.step (.callPush v) = some s') :
    q.step (.offer v) = some (q.offer v) ∧ Refines s' (q.offer v) := by
  obtain ⟨shared, push, pop, pushed, outcomes, popped⟩ := s
  cases push <;> simp only [State.step] at hstep <;> try cases hstep
  have hnone : q.pending = none := h.pending
  refine ⟨by simp [LatestQueue.step, hnone],
    { h with pending := rfl, pushed := ?_, pushLocal := trivial, popLocal := ?_ }⟩
  · show pushed ++ [v] = _
    rw [offered_offer hnone]
    exact congrArg (· ++ [v]) h.pushed
  · exact h.popLocal.of_push (fun hl => hl) (.inl rfl) fun _ => List.prefix_rfl

/-! ### The accesses of `push` -/

section Push

variable {shared : Shared T} {push : PushPc T} {pop : PopPc T} {pushed popped : List T}
  {outcomes : List PublishOutcome} {q : LatestQueue T} {v : T}

/-- An access of `push` that leaves the queue and the consumer index alone. -/
theorem PopLocal.unmoved {shared shared' : Shared T} {push push' : PushPc T} {ws : List T}
    {pc : PopPc T} (h : PopLocal shared push ws pc)
    (hwindow : push.window = true → push'.window = true)
    (hc : shared'.consumer = shared.consumer) : PopLocal shared' push' ws pc :=
  h.of_push (fun hl => hl.imp_right hwindow) (.inl hc) fun _ => List.prefix_rfl

theorem parity_bump {shared : Shared T} {opened : Bool}
    (h : shared.generation % 2 = opened.toNat) :
    shared.bumpGeneration.generation % 2 = (!opened).toNat := by
  show (shared.generation + 1) % WORD % 2 = _
  rw [bump_mod_two]
  cases opened <;> simp only [Bool.toNat_true, Bool.toNat_false, Bool.not_true, Bool.not_false] at h ⊢ <;>
    omega

/-- A compare-exchange that succeeds finds no claim. -/
theorem unclaimed_of_exchange {c : Nat}
    (h : Refines ⟨shared, push, pop, pushed, outcomes, popped⟩ q)
    (hc : c < READING) (heq : shared.consumerState = c) :
    pop.claimed = none ∧ c = shared.consumer := by
  have hpacked : shared.consumerState =
      if pop.claimed.isSome then shared.consumer ||| READING else shared.consumer := h.packed
  cases hclaimed : pop.claimed with
  | none =>
    rw [hclaimed, if_neg (by simp)] at hpacked
    exact ⟨rfl, heq.symm.trans hpacked⟩
  | some claimed =>
    rw [hclaimed, if_pos Option.isSome_some, heq] at hpacked
    exact absurd hpacked.symm (or_reading_ne (consumer_lt shared) hc)

/-- The exchange replaces what waits. -/
theorem refines_exchange {c : Nat}
    (h : Refines ⟨shared, .compareExchange v shared.producer c, pop, pushed, outcomes, popped⟩ q)
    (hc : c < READING) (heq : shared.consumerState = c) :
    Refines ⟨{ shared with consumerState := shared.producer }, .addDiscarded v shared.producer c,
      pop, pushed, outcomes, popped⟩ q.evict := by
  have hring : RingInv shared q.waiting := h.ring
  have hpop : PopLocal shared _ q.waiting pop := h.popLocal
  have hreported : Reported (outcomes ++ []) false q.entries := h.reported
  obtain ⟨hnone, hconsumer⟩ := unclaimed_of_exchange h hc heq
  have hproducer : shared.producer < READING := Nat.lt_trans hring.producer_lt hring.slotCount_lt
  refine { h with
    ring := ?_, packed := ?_, claimed := ?_, counted := ?_, pushed := ?_, popped := ?_
    reported := hreported.replaceAll, pushLocal := ⟨rfl, LatestQueue.waiting_evict q⟩, popLocal := ?_ }
  · rw [LatestQueue.waiting_evict]
    exact hring.evict
  · show shared.producer = if pop.claimed.isSome then _ else shared.producer &&& INDEX_MASK
    rw [hnone, if_neg (by simp), and_indexMask hproducer]
  · intro c' hc'
    cases hnone.symm.trans hc'
  · show (shared.discarded + Ring.distance c shared.producer shared.slotCount) % WORD = _
    have hcounted : shared.discarded % WORD = q.lost % WORD := h.counted
    rw [hconsumer, hring.distance_eq, LatestQueue.lost_evict, Nat.add_mod, hcounted, ← Nat.add_mod]
  · rw [LatestQueue.offered_evict]
    exact h.pushed
  · rw [LatestQueue.taken_evict]
    exact h.popped
  · refine hpop.of_push (fun _ => .inr rfl) (.inr (.inr rfl)) fun hsome => ?_
    rw [hnone] at hsome
    cases hsome

/-- The store of the producer index admits the value; a call that has replaced nothing returns. -/
theorem refines_store {stale : Bool}
    (h : Refines ⟨shared, .storeProducer v shared.producer stale, pop, pushed, outcomes, popped⟩ q)
    (hfree : q.waiting.length + 1 < shared.slotCount)
    (hslot : shared.slots shared.producer = .written v) :
    Refines ⟨{ shared with producer := Ring.next shared.producer shared.slotCount },
      if stale then .closeGeneration else .idle, pop, pushed,
      if stale then outcomes else outcomes ++ [.published], popped⟩
      (q.settle v .waiting (.inl rfl)) := by
  have hring : RingInv shared q.waiting := h.ring
  have hpop : PopLocal shared _ q.waiting pop := h.popLocal
  have hsome : q.pending = some v := h.pending
  have hreported : Reported outcomes stale q.entries :=
    List.append_nil outcomes ▸ h.reported
  have hring' : RingInv { shared with producer := Ring.next shared.producer shared.slotCount }
      (q.settle v .waiting (.inl rfl)).waiting := by
    rw [LatestQueue.waiting_enqueue]
    exact hring.enqueue hfree hslot
  have hpushed : pushed = (q.settle v .waiting (.inl rfl)).offered := by
    rw [offered_settle hsome]
    exact h.pushed
  have hpopped : popped = (q.settle v .waiting (.inl rfl)).taken := by
    rw [LatestQueue.taken_enqueue]
    exact h.popped
  have hcounted : (shared.discarded + 0) % WORD = (q.settle v .waiting (.inl rfl)).lost % WORD := by
    rw [LatestQueue.lost_enqueue]
    exact h.counted
  have hlive (pc : PushPc T) : Live (q.settle v .waiting (.inl rfl)).waiting pc := .inl (by simp)
  have hkeep (pc : PushPc T) : PopLocal
      { shared with producer := Ring.next shared.producer shared.slotCount } pc
      (q.settle v .waiting (.inl rfl)).waiting pop :=
    hpop.of_push (fun _ => hlive pc) (.inl rfl) fun _ => ⟨[v], by simp⟩
  cases stale with
  | true =>
    exact { h with
      ring := hring', counted := hcounted, pending := rfl, pushed := hpushed, popped := hpopped
      reported := hreported.settle (v := v) (o := .replacedStale) (.inl rfl) (by simp) fun _ => rfl
      pushLocal := trivial, popLocal := hkeep _ }
  | false =>
    exact { h with
      ring := hring', counted := hcounted, pending := rfl, pushed := hpushed, popped := hpopped
      reported := (List.append_nil (outcomes ++ [.published])).symm ▸
        hreported.settle (v := v) (.inl rfl) (by simp) fun hw => by cases hw
      pushLocal := trivial, popLocal := hkeep _ }

/-- The count of a drop. -/
theorem refines_drop
    (h : Refines ⟨shared, .dropDiscarded v, pop, pushed, outcomes, popped⟩ q) :
    Refines ⟨shared.addDiscarded 1, .dropGeneration, pop, pushed, outcomes, popped⟩
      (q.settle v .dropped (.inr rfl)) := by
  have hring : RingInv shared q.waiting := h.ring
  have hpop : PopLocal shared _ q.waiting pop := h.popLocal
  have hsome : q.pending = some v := h.pending
  have hreported : Reported outcomes false q.entries := List.append_nil outcomes ▸ h.reported
  refine { h with
    ring := ?_, counted := ?_, discarded_lt := Nat.mod_lt _ (by decide), pending := rfl
    pushed := ?_, popped := ?_, pushLocal := trivial, popLocal := ?_
    reported := hreported.settle (v := v) (o := .droppedDuringRead) (.inr rfl) (by simp)
      fun hw => by cases hw }
  · rw [LatestQueue.waiting_drop]
    exact hring.congr rfl rfl rfl rfl
  · show ((shared.discarded + 1) % WORD + 0) % WORD = _
    have hcounted : shared.discarded % WORD = q.lost % WORD := h.counted
    rw [Nat.add_zero, Nat.mod_mod, LatestQueue.lost_drop, Nat.add_mod, hcounted, ← Nat.add_mod]
  · rw [offered_settle hsome]
    exact h.pushed
  · rw [LatestQueue.taken_drop]
    exact h.popped
  · rw [LatestQueue.waiting_drop]
    exact hpop.unmoved (fun hw => hw) rfl

/-- The count of what the exchange has replaced. -/
theorem refines_addDiscarded {c : Nat}
    (h : Refines ⟨shared, .addDiscarded v shared.producer c, pop, pushed, outcomes, popped⟩ q)
    (hnil : q.waiting = []) :
    Refines ⟨shared.addDiscarded (Ring.distance c shared.producer shared.slotCount),
      .write v shared.producer true, pop, pushed, outcomes, popped⟩ q := by
  have hring : RingInv shared q.waiting := h.ring
  have hpop : PopLocal shared _ q.waiting pop := h.popLocal
  refine { h with
    ring := hring.congr rfl rfl rfl rfl, counted := ?_, discarded_lt := Nat.mod_lt _ (by decide)
    pushLocal := ⟨rfl, ?_, fun _ => hnil⟩, popLocal := hpop.unmoved (fun hw => hw) rfl }
  · show ((shared.discarded + _) % WORD + 0) % WORD = _
    rw [Nat.add_zero, Nat.mod_mod]
    exact h.counted
  · rw [hnil]
    exact hring.two_le

/-- An increment of the generation behind the value of a call. -/
theorem refines_closed {o : PublishOutcome}
    (h : Refines ⟨shared, push, pop, pushed, outcomes, popped⟩ q)
    (hopened : push.opened = true) (hpending : push.pending = none)
    (huncounted : push.uncounted shared.slotCount = 0) (hupcoming : push.upcoming = [o])
    (hwindow : push.window = false) :
    Refines ⟨shared.bumpGeneration, .idle, pop, pushed, outcomes ++ [o], popped⟩ q := by
  have hring : RingInv shared q.waiting := h.ring
  have hpop : PopLocal shared push q.waiting pop := h.popLocal
  have hparity : shared.generation % 2 = true.toNat := hopened ▸ h.parity
  have hcounted : (shared.discarded + push.uncounted shared.slotCount) % WORD = q.lost % WORD :=
    h.counted
  rw [huncounted] at hcounted
  have hreported : Reported (outcomes ++ [o]) false q.entries := hupcoming ▸ hwindow ▸ h.reported
  refine { h with
    ring := hring.congr rfl rfl rfl rfl, parity := parity_bump hparity
    counted := hcounted, pending := h.pending.trans hpending
    reported := (List.append_nil (outcomes ++ [o])).symm ▸ hreported
    pushLocal := trivial, popLocal := hpop.unmoved (fun hw => ?_) rfl }
  rw [hwindow] at hw
  cases hw

end Push

/-- The accesses of `push` are the replacement, the admission, the drop, or nothing. -/
theorem refines_stepPush {s s' : State T} {q : LatestQueue T} (h : Refines s q)
    (hstep : s.step .stepPush = some s') :
    ∃ ops q', (LatestQueue.latest T).run q ops = some q' ∧ Refines s' q' := by
  obtain ⟨shared, push, pop, pushed, outcomes, popped⟩ := s
  obtain ⟨⟨shared', push', returned⟩, hpush, rfl⟩ := Option.map_eq_some_iff.mp hstep
  have hring : RingInv shared q.waiting := h.ring
  have hpop : PopLocal shared push q.waiting pop := h.popLocal
  have hparity : shared.generation % 2 = push.opened.toNat := h.parity
  have hpending : q.pending = push.pending := h.pending
  cases push with
  | idle => cases hpush
  | loadProducer v =>
    cases hpush
    exact ⟨[], q, rfl, { h with
      pushLocal := rfl, popLocal := hpop.unmoved (fun hw => hw) rfl }⟩
  | loadConsumer v p =>
    obtain rfl : p = shared.producer := h.pushLocal
    rw [pushStep] at hpush
    split at hpush
    · next hne =>
      cases hpush
      exact ⟨[], q, rfl, { h with
        pushLocal := ⟨rfl, hring.next_ne_iff.mp hne, by simp⟩
        popLocal := hpop.unmoved (fun hw => hw) rfl }⟩
    · cases hpush
      exact ⟨[], q, rfl, { h with
        pushLocal := rfl, popLocal := hpop.unmoved (fun hw => hw) rfl }⟩
  | openGeneration v p =>
    cases hpush
    exact ⟨[], q, rfl, { h with
      ring := hring.congr rfl rfl rfl rfl, parity := parity_bump hparity
      pushLocal := h.pushLocal, popLocal := hpop.unmoved (fun hw => hw) rfl }⟩
  | reloadConsumer v p =>
    cases hpush
    exact ⟨[], q, rfl, { h with
      pushLocal := ⟨h.pushLocal, consumer_lt shared⟩
      popLocal := hpop.unmoved (fun hw => hw) rfl }⟩
  | compareExchange v p c =>
    obtain ⟨rfl, hc⟩ : p = shared.producer ∧ c < READING := h.pushLocal
    rw [pushStep] at hpush
    split at hpush
    · next heq =>
      cases hpush
      refine ⟨[.evict], q.evict, System.run_singleton.mpr ?_, refines_exchange h hc heq⟩
      simp [LatestQueue.latest, LatestQueue.step, hpending, PushPc.pending]
    · cases hpush
      exact ⟨[], q, rfl, { h with
        pushLocal := trivial, popLocal := hpop.unmoved (fun hw => hw) rfl }⟩
  | addDiscarded v p c =>
    obtain ⟨rfl, hnil⟩ : p = shared.producer ∧ q.waiting = [] := h.pushLocal
    cases hpush
    exact ⟨[], q, rfl, refines_addDiscarded h hnil⟩
  | write v p stale =>
    obtain ⟨rfl, hfree, hstale⟩ : p = shared.producer ∧ q.waiting.length + 1 < shared.slotCount ∧
      (stale = true → q.waiting = []) := h.pushLocal
    cases hpush
    exact ⟨[], q, rfl, { h with
      ring := hring.setSlot _, pushLocal := ⟨rfl, hfree, hstale⟩
      popLocal := hpop.unmoved (fun hw => hw) rfl }⟩
  | finishWrite v p stale =>
    obtain ⟨rfl, hfree, hstale⟩ : p = shared.producer ∧ q.waiting.length + 1 < shared.slotCount ∧
      (stale = true → q.waiting = []) := h.pushLocal
    cases hpush
    exact ⟨[], q, rfl, { h with
      ring := hring.setSlot _
      pushLocal := ⟨rfl, hfree, hstale, Function.update_self _ _ _⟩
      popLocal := hpop.unmoved (fun hw => hw) rfl }⟩
  | storeProducer v p stale =>
    obtain ⟨rfl, hfree, -, hslot⟩ : p = shared.producer ∧
      q.waiting.length + 1 < shared.slotCount ∧ (stale = true → q.waiting = []) ∧
      shared.slots p = .written v := h.pushLocal
    refine ⟨[.enqueue], q.settle v .waiting (.inl rfl), System.run_singleton.mpr ?_, ?_⟩
    · simp [LatestQueue.latest, LatestQueue.step, hpending, PushPc.pending]
    · have hstore := refines_store h hfree hslot
      cases stale <;>
      · cases hpush
        exact hstore
  | closeGeneration =>
    cases hpush
    exact ⟨[], q, rfl, refines_closed h rfl rfl rfl rfl rfl⟩
  | dropDiscarded v =>
    cases hpush
    refine ⟨[.drop], q.settle v .dropped (.inr rfl), System.run_singleton.mpr ?_, refines_drop h⟩
    simp [LatestQueue.latest, LatestQueue.step, hpending, PushPc.pending]
  | dropGeneration =>
    cases hpush
    exact ⟨[], q, rfl, refines_closed h rfl rfl rfl rfl rfl⟩

theorem opened_of_window {pc : PushPc T} (h : pc.window = true) : pc.opened = true := by
  cases pc <;> simp_all [PushPc.window, PushPc.opened]

/-- The call of `pop` changes no queue. -/
theorem refines_callPop {s s' : State T} {q : LatestQueue T} (h : Refines s q)
    (hstep : s.step .callPop = some s') : Refines s' q := by
  obtain ⟨shared, push, pop, pushed, outcomes, popped⟩ := s
  cases pop <;> simp only [State.step] at hstep <;> try cases hstep
  exact { h with popLocal := trivial }

/-! ### The accesses of `pop` -/

section Pop

variable {shared : Shared T} {push : PushPc T} {pushed popped : List T}
  {outcomes : List PublishOutcome} {q : LatestQueue T}

/-- The claim packs its bit into the consumer index, which it leaves alone. -/
theorem refines_claim {g : Nat}
    (h : Refines ⟨shared, push, .claim g, pushed, outcomes, popped⟩ q) :
    Refines ⟨{ shared with consumerState := shared.consumerState ||| READING }, push,
      .recheck g shared.consumer, pushed, outcomes, popped⟩ q := by
  have hring : RingInv shared q.waiting := h.ring
  have hpush : PushLocal shared q.waiting push := h.pushLocal
  have hlocal : g % 2 = 0 ∧ Live q.waiting push := h.popLocal
  have hfree : shared.consumerState = shared.consumer := h.packed
  have hsame : (shared.consumerState ||| READING) &&& INDEX_MASK = shared.consumer := by
    rw [hfree, or_reading_and_indexMask (consumer_lt shared)]
  refine { h with
    ring := hring.congr rfl rfl rfl hsame, packed := ?_, claimed := ?_
    pushLocal := hpush.of_pop rfl rfl rfl (Nat.le_refl _), popLocal := hlocal }
  · show shared.consumerState ||| READING = (_ &&& INDEX_MASK) ||| READING
    rw [hsame, hfree]
  · rintro c ⟨⟩
    exact hsame.symm

/-- Behind a generation that has not changed since it was even, no replacement is under way. -/
theorem nonempty_of_recheck {g c : Nat}
    (h : Refines ⟨shared, push, .recheck g c, pushed, outcomes, popped⟩ q)
    (hsame : shared.generation = g) : q.waiting ≠ [] := by
  obtain ⟨heven, hl⟩ : g % 2 = 0 ∧ Live q.waiting push := h.popLocal
  rcases hl with hne | hw
  · exact hne
  · have hodd : shared.generation % 2 = push.opened.toNat := h.parity
    rw [opened_of_window hw, hsame, heven] at hodd
    cases hodd

/-- The slot that a claim copies holds the oldest waiting value. -/
theorem head_of_copy {c : Nat}
    (h : Refines ⟨shared, push, .copy c, pushed, outcomes, popped⟩ q) :
    ∃ v, shared.slots c = .written v ∧ q.waiting.head? = some v := by
  have hring : RingInv shared q.waiting := h.ring
  have hholds := hring.holds
  have hne : q.waiting ≠ [] := h.popLocal
  obtain rfl : c = shared.consumer := h.claimed c rfl
  obtain ⟨v, ws, hw⟩ := List.exists_cons_of_ne_nil hne
  rw [hw, List.map_cons] at hholds
  refine ⟨v, ?_, by rw [hw, List.head?_cons]⟩
  rw [← hholds.head, Nat.mod_eq_of_lt hring.consumer_lt]

/-- The release of the claim takes the value that was copied. -/
theorem refines_release {v : T} {ws : List T}
    (h : Refines ⟨shared, push, .release shared.consumer v, pushed, outcomes, popped⟩ q)
    (hw : q.waiting = v :: ws) :
    Refines ⟨{ shared with consumerState := Ring.next shared.consumer shared.slotCount }, push,
      .idle, pushed, outcomes, popped ++ [v]⟩ q.take := by
  have hring : RingInv shared (v :: ws) := hw ▸ h.ring
  have hpush : PushLocal shared q.waiting push := h.pushLocal
  have hn : 0 < shared.slotCount := Nat.lt_of_lt_of_le Nat.zero_lt_two hring.two_le
  have hnext : Ring.next shared.consumer shared.slotCount &&& INDEX_MASK =
      Ring.next shared.consumer shared.slotCount :=
    and_indexMask (Nat.lt_trans (Ring.next_lt hn _) hring.slotCount_lt)
  refine { h with
    ring := ?_, packed := hnext.symm, claimed := fun _ hc => by cases hc
    counted := ?_, pushed := ?_, popped := ?_, reported := h.reported.takeFirst
    pushLocal := ?_, popLocal := trivial }
  · rw [LatestQueue.waiting_take hw]
    exact hring.take
  · rw [LatestQueue.lost_take]
    exact h.counted
  · rw [LatestQueue.offered_take]
    exact h.pushed
  · rw [LatestQueue.taken_take hw]
    exact congrArg (· ++ [v]) h.popped
  · refine hpush.of_pop rfl rfl rfl ?_
    rw [LatestQueue.waiting_take hw, hw, List.length_cons]
    omega

end Pop

/-- The accesses of `pop` are the take, at the release of the claim, or nothing. -/
theorem refines_stepPop {s s' : State T} {q : LatestQueue T} (h : Refines s q)
    (hstep : s.step .stepPop = some s') :
    ∃ ops q', (LatestQueue.latest T).run q ops = some q' ∧ Refines s' q' := by
  obtain ⟨shared, push, pop, pushed, outcomes, popped⟩ := s
  obtain ⟨⟨shared', pop', returned⟩, hpop, rfl⟩ := Option.map_eq_some_iff.mp hstep
  have hring : RingInv shared q.waiting := h.ring
  cases pop with
  | idle => cases hpop
  | loadGeneration =>
    rw [popStep] at hpop
    split at hpop
    · cases hpop
      exact ⟨[], q, rfl, { h with popLocal := trivial }⟩
    · next heven =>
      cases hpop
      exact ⟨[], q, rfl, { h with popLocal := not_not.mp heven }⟩
  | loadConsumer g =>
    have heven : g % 2 = 0 := h.popLocal
    cases hpop
    exact ⟨[], q, rfl, { h with popLocal := ⟨heven, .inl rfl⟩ }⟩
  | loadProducer g c =>
    obtain ⟨heven, hc⟩ : g % 2 = 0 ∧ (c = shared.consumer ∨ Live q.waiting push) := h.popLocal
    rw [popStep] at hpop
    split at hpop
    · cases hpop
      exact ⟨[], q, rfl, { h with popLocal := trivial }⟩
    · next hne =>
      cases hpop
      refine ⟨[], q, rfl, { h with popLocal := ⟨heven, ?_⟩ }⟩
      rcases hc with rfl | hl
      · exact .inl fun hnil => hne (hring.eq_nil_iff.mpr hnil)
      · exact hl
  | claim g =>
    cases hpop
    exact ⟨[], q, rfl, refines_claim h⟩
  | recheck g c =>
    rw [popStep] at hpop
    split at hpop
    · cases hpop
      exact ⟨[], q, rfl, { h with popLocal := trivial }⟩
    · next hsame =>
      cases hpop
      exact ⟨[], q, rfl, { h with popLocal := nonempty_of_recheck h (not_not.mp hsame) }⟩
  | restore c =>
    obtain rfl : c = shared.consumer := h.claimed c rfl
    have hmask : shared.consumer &&& INDEX_MASK = shared.consumer :=
      and_indexMask (consumer_lt shared)
    have hpush : PushLocal shared q.waiting push := h.pushLocal
    cases hpop
    exact ⟨[], q, rfl, { h with
      ring := hring.congr rfl rfl rfl hmask, packed := hmask.symm
      claimed := fun _ hc => by cases hc
      pushLocal := hpush.of_pop rfl rfl rfl (Nat.le_refl _)
      popLocal := trivial }⟩
  | copy c =>
    obtain ⟨v, hslot, hhead⟩ := head_of_copy h
    simp only [popStep, hslot] at hpop
    cases hpop
    exact ⟨[], q, rfl, { h with popLocal := hhead }⟩
  | release c v =>
    obtain rfl : c = shared.consumer := h.claimed c rfl
    have hhead : q.waiting.head? = some v := h.popLocal
    obtain ⟨ws, hw⟩ : ∃ ws, q.waiting = v :: ws := List.head?_eq_some_iff.mp hhead
    cases hpop
    refine ⟨[.take], q.take, System.run_singleton.mpr ?_, refines_release h hw⟩
    simp [LatestQueue.latest, LatestQueue.step, hw]

theorem refines_initial {slotCount : Nat} (h2 : 2 ≤ slotCount) (hm : slotCount ≤ INDEX_MASK) :
    Refines (T := T) (.initial ⟨slotCount, fun _ => .uninit, 0, 0, 0, 0⟩) .empty where
  ring := by
    have hpos : 0 < slotCount := Nat.lt_of_lt_of_le Nat.zero_lt_two h2
    refine ⟨h2, hm, ?_, hpos, ?_, Ring.holds_nil _ _ _⟩
    · show 0 &&& INDEX_MASK < slotCount
      rwa [Nat.zero_and]
    · show 0 = ((0 &&& INDEX_MASK) + 0) % slotCount
      rw [Nat.zero_and, Nat.zero_mod]
  packed := (Nat.zero_and INDEX_MASK).symm
  claimed := fun _ hc => by cases hc
  parity := rfl
  counted := rfl
  discarded_lt := show 0 < WORD by decide
  pending := rfl
  pushed := rfl
  popped := rfl
  reported := ⟨rfl, by simp [LatestQueue.empty], by simp [LatestQueue.empty]⟩
  pushLocal := trivial
  popLocal := trivial

/-- **The handoff refines the queue**, whatever the slot count. -/
theorem handoff_simulation (T : Type) (slotCount : Nat) :
    Simulation (handoff T slotCount) (LatestQueue.latest T) Refines where
  init := by
    rintro s ⟨shared, hsplit, rfl⟩
    unfold Shared.split at hsplit
    split at hsplit
    · rename_i hcount
      obtain rfl := Except.ok.inj hsplit
      exact ⟨.empty, rfl, refines_initial hcount.1 hcount.2⟩
    · cases hsplit
  step := by
    intro s a s' q h hstep
    cases a with
    | callPush v =>
      obtain ⟨hop, h'⟩ := refines_callPush h hstep
      exact ⟨[.offer v], _, System.run_singleton.mpr hop, h'⟩
    | stepPush => exact refines_stepPush h hstep
    | callPop => exact ⟨[], q, rfl, refines_callPop h hstep⟩
    | stepPop => exact refines_stepPop h hstep

end Asl3
end UsbRadioPlus
