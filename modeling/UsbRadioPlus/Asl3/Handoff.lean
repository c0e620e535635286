import UsbRadioPlus.Rust.Word
import UsbRadioPlus.Sys.LatestQueue
import UsbRadioPlus.Sys.Ring

/-!
# The callback handoff (`rust/asl3/src/handoff.rs`)

One producer and one consumer share the slots and four atomics. A call of `push` or `pop` is its
sequence of atomic accesses, in program order; the program counters `PushPc` and `PopPc` name the
access that comes next and carry the local variables that are still used. Writing a slot is not
atomic: it takes a step to start and a step to finish, and the slot holds no value in between.
Copying a slot that does not hold a value is undefined behaviour, and `popStep` is stuck there.

A `usize` and a `u64` are numbers below `WORD`. `consumerState` packs the index of the consumer and
the claim bit, as in the source.
-/

namespace UsbRadioPlus
namespace Asl3

open Sys

/-- The claim bit of the packed word. -/
def READING : Nat := 2 ^ 63

/-- `!READING`. -/
def INDEX_MASK : Nat := 2 ^ 63 - 1

/-- Invalid static handoff construction. -/
inductive HandoffError where
  | invalidSlotCount
  deriving DecidableEq, Repr

/-- Result of one non-waiting real-time publication. -/
inductive PublishOutcome where
  /-- The new value was retained without evicting an older value. -/
  | published
  /-- Stale idle values were evicted and the newest value was retained. -/
  | replacedStale
  /-- The consumer changed the only reusable slot, so the new value was dropped. -/
  | droppedDuringRead
  deriving DecidableEq, Repr

/-- What a slot holds: nothing yet, a value that is being written, or a value. -/
inductive Slot (T : Type) where
  | uninit
  | writing
  | written (value : T)
  deriving DecidableEq, Repr

/-- The slots and the atomics. -/
structure Shared (T : Type) where
  /-- `slots.len()`. -/
  slotCount : Nat
  slots : Nat → Slot T
  producer : Nat
  consumerState : Nat
  generation : Nat
  discarded : Nat

/-- Individually current handoff statistics. -/
structure HandoffObservation where
  available : Nat
  discarded : Nat
  resynchronizationGeneration : Nat
  deriving DecidableEq, Repr

variable {T : Type}

namespace Shared

/-- `LatestHandoff::split`. -/
def split (T : Type) (slotCount : Nat) : Except HandoffError (Shared T) :=
  if 2 ≤ slotCount ∧ slotCount ≤ INDEX_MASK then
    .ok ⟨slotCount, fun _ => .uninit, 0, 0, 0, 0⟩
  else .error .invalidSlotCount

/-- `consumer_state & INDEX_MASK`. -/
def consumer (self : Shared T) : Nat := self.consumerState &&& INDEX_MASK

/-- `fetch_add(1)` of the generation. -/
def bumpGeneration (self : Shared T) : Shared T :=
  { self with generation := (self.generation + 1) % WORD }

/-- `fetch_add` of the discarded counter. -/
def addDiscarded (self : Shared T) (count : Nat) : Shared T :=
  { self with discarded := (self.discarded + count) % WORD }

/-- A write to a slot. -/
def setSlot (self : Shared T) (index : Nat) (slot : Slot T) : Shared T :=
  { self with slots := Function.update self.slots index slot }

/-- `observe`, with no other access in between. -/
def observe (self : Shared T) : HandoffObservation where
  available := Ring.distance self.consumer self.producer self.slotCount
  discarded := self.discarded
  resynchronizationGeneration := self.generation

end Shared

/-! ## The producer -/

/-- The next access of `push`. `stale` is the path that has replaced the waiting values. -/
inductive PushPc (T : Type) where
  | idle
  | loadProducer (value : T)
  | loadConsumer (value : T) (producer : Nat)
  | openGeneration (value : T) (producer : Nat)
  | reloadConsumer (value : T) (producer : Nat)
  | compareExchange (value : T) (producer consumer : Nat)
  | addDiscarded (value : T) (producer consumer : Nat)
  | write (value : T) (producer : Nat) (stale : Bool)
  | finishWrite (value : T) (producer : Nat) (stale : Bool)
  | storeProducer (value : T) (producer : Nat) (stale : Bool)
  | closeGeneration
  | dropDiscarded (value : T)
  | dropGeneration
  deriving DecidableEq, Repr

/-- One access of `push`; the outcome where the call returns. -/
def pushStep (shared : Shared T) :
    PushPc T → Option (Shared T × PushPc T × Option PublishOutcome)
  | .idle => none
  | .loadProducer v => some (shared, .loadConsumer v shared.producer, none)
  | .loadConsumer v p =>
    if Ring.next p shared.slotCount ≠ shared.consumer then some (shared, .write v p false, none)
    else some (shared, .openGeneration v p, none)
  | .openGeneration v p => some (shared.bumpGeneration, .reloadConsumer v p, none)
  | .reloadConsumer v p => some (shared, .compareExchange v p shared.consumer, none)
  | .compareExchange v p c =>
    if shared.consumerState = c then
      some ({ shared with consumerState := p }, .addDiscarded v p c, none)
    else some (shared, .dropDiscarded v, none)
  | .addDiscarded v p c =>
    some (shared.addDiscarded (Ring.distance c p shared.slotCount), .write v p true, none)
  | .write v p stale => some (shared.setSlot p .writing, .finishWrite v p stale, none)
  | .finishWrite v p stale => some (shared.setSlot p (.written v), .storeProducer v p stale, none)
  | .storeProducer _ p stale =>
    let shared := { shared with producer := Ring.next p shared.slotCount }
    if stale then some (shared, .closeGeneration, none) else some (shared, .idle, some .published)
  | .closeGeneration => some (shared.bumpGeneration, .idle, some .replacedStale)
  | .dropDiscarded _ => some (shared.addDiscarded 1, .dropGeneration, none)
  | .dropGeneration => some (shared.bumpGeneration, .idle, some .droppedDuringRead)

/-! ## The consumer -/

/-- The next access of `pop`. -/
inductive PopPc (T : Type) where
  | idle
  | loadGeneration
  | loadConsumer (generation : Nat)
  | loadProducer (generation consumer : Nat)
  | claim (generation : Nat)
  | recheck (generation claimed : Nat)
  | restore (claimed : Nat)
  | copy (claimed : Nat)
  | release (claimed : Nat) (value : T)
  deriving DecidableEq, Repr

/-- One access of `pop`; the result where the call returns. -/
def popStep (shared : Shared T) : PopPc T → Option (Shared T × PopPc T × Option (Option T))
  | .idle => none
  | .loadGeneration =>
    if shared.generation % 2 ≠ 0 then some (shared, .idle, some none)
    else some (shared, .loadConsumer shared.generation, none)
  | .loadConsumer g => some (shared, .loadProducer g shared.consumer, none)
  | .loadProducer g c =>
    if c = shared.producer then some (shared, .idle, some none) else some (shared, .claim g, none)
  | .claim g =>
    some ({ shared with consumerState := shared.consumerState ||| READING },
      .recheck g shared.consumer, none)
  | .recheck g claimed =>
    if shared.generation ≠ g then some (shared, .restore claimed, none)
    else some (shared, .copy claimed, none)
  | .restore claimed => some ({ shared with consumerState := claimed }, .loadGeneration, none)
  | .copy claimed =>
    match shared.slots claimed with
    | .written value => some (shared, .release claimed value, none)
    | _ => none
  | .release claimed value =>
    some ({ shared with consumerState := Ring.next claimed shared.slotCount }, .idle,
      some (some value))

/-- A call of `pop` returns with its last access. -/
theorem idle_of_returned {shared shared' : Shared T} {pc pc' : PopPc T} {result : Option T}
    (h : popStep shared pc = some (shared', pc', some result)) : pc' = .idle := by
  unfold popStep at h
  grind

/-! ## The system -/

/-- The handoff with its two endpoints and what their callers see: the values of the calls of `push`,
the outcomes they return, and the values that `pop` returns. -/
structure State (T : Type) where
  shared : Shared T
  push : PushPc T
  pop : PopPc T
  pushed : List T
  outcomes : List PublishOutcome
  popped : List T

/-- An endpoint calls or takes its next access. -/
inductive Act (T : Type) where
  | callPush (value : T)
  | stepPush
  | callPop
  | stepPop
  deriving DecidableEq, Repr

/-- A log with what a step adds to it. -/
def record {A : Type} (log : List A) : Option A → List A
  | none => log
  | some a => log ++ [a]

namespace State

/-- The handoff behind `split`. -/
def initial (shared : Shared T) : State T := ⟨shared, .idle, .idle, [], [], []⟩

/-- A call, or the next access of one. -/
def step (s : State T) : Act T → Option (State T)
  | .callPush v => match s.push with
    | .idle => some { s with push := .loadProducer v, pushed := s.pushed ++ [v] }
    | _ => none
  | .stepPush => (pushStep s.shared s.push).map fun (shared, push, returned) =>
    { s with shared, push, outcomes := record s.outcomes returned }
  | .callPop => match s.pop with
    | .idle => some { s with pop := .loadGeneration }
    | _ => none
  | .stepPop => (popStep s.shared s.pop).map fun (shared, pop, returned) =>
    { s with shared, pop, popped := record s.popped returned.join }

/-- The value that the next access of `pop` returns. -/
def returnedValue (s : State T) : Option T := (popStep s.shared s.pop).bind fun r => r.2.2.join

end State

/-- All interleavings of the accesses of one producer and one consumer. -/
def handoff (T : Type) (slotCount : Nat) : System (State T) (Act T) where
  init s := ∃ shared, Shared.split T slotCount = .ok shared ∧ s = .initial shared
  step := State.step

/-! ## The packed word -/

@[simp] theorem and_indexMask {i : Nat} (h : i < READING) : i &&& INDEX_MASK = i := by
  rw [INDEX_MASK, Nat.and_two_pow_sub_one_eq_mod]
  exact Nat.mod_eq_of_lt h

theorem or_reading {i : Nat} (h : i < READING) : i ||| READING = READING + i := by
  have := Nat.two_pow_add_eq_or_of_lt (h : i < 2 ^ 63) 1
  rw [Nat.mul_one] at this
  rw [Nat.or_comm, READING, this]

@[simp] theorem or_reading_and_indexMask {i : Nat} (h : i < READING) :
    (i ||| READING) &&& INDEX_MASK = i := by
  rw [or_reading h, INDEX_MASK, Nat.and_two_pow_sub_one_eq_mod, READING, Nat.add_mod_left]
  exact Nat.mod_eq_of_lt h

theorem or_reading_ne {i j : Nat} (hi : i < READING) (hj : j < READING) : i ||| READING ≠ j := by
  rw [or_reading hi]
  omega

theorem consumer_lt (shared : Shared T) : shared.consumer < READING := by
  rw [Shared.consumer, INDEX_MASK, Nat.and_two_pow_sub_one_eq_mod]
  exact Nat.mod_lt _ (by decide)

end Asl3
end UsbRadioPlus
