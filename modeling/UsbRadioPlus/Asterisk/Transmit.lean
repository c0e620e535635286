import UsbRadioPlus.Asterisk.Reload
import UsbRadioPlus.Sys.Run
import Mathlib.Data.BitVec

/-!
# Key and unkey indications of a channel (`asterisk/src/host/channel.rs`, `delivery.rs`)

Asterisk serializes the indications of one channel. An indication goes to the driver under the
control gate. While a reload holds the gate, the intent is left in `pending_transmit`, and the
delivery worker replays it. The word is shared without a lock: the worker clears it by a
compare-exchange, indications overwrite it.

The steps are the atomic accesses and the control calls, whose status is in the label. The gate is
an `RwLock`: `try_read` may also fail while a writer waits.
-/

namespace UsbRadioPlus.Asterisk

open Sys

/-- `u64` -/
abbrev U64 := BitVec 64

/-- `URP_AST_CHANNEL_BUSY` -/
def urpAstChannelBusy : Int := -5

/-- A request of the controller: keyed, and the forced CTCSS tone in tenths of hertz. -/
structure TransmitIntent where
  keyed : Bool
  ctcssTenthsHz : BitVec 32
  deriving DecidableEq, Repr

/-- `PENDING_TRANSMIT_VALID` -/
def pendingTransmitValid : U64 := 1#64 <<< 63

/-- `PENDING_TRANSMIT_KEYED` -/
def pendingTransmitKeyed : U64 := 1#64 <<< 32

namespace PendingTransmit

/-- `PendingTransmit::NONE`. -/
def none : U64 := 0

/-- `PendingTransmit::new`. -/
def new (intent : TransmitIntent) : U64 :=
  pendingTransmitValid ||| (if intent.keyed then pendingTransmitKeyed else 0) |||
    intent.ctcssTenthsHz.setWidth 64

/-- The intent of a word. -/
def decode (raw : U64) : Option TransmitIntent :=
  if raw &&& pendingTransmitValid = 0 then Option.none
  else some ⟨raw &&& pendingTransmitKeyed ≠ 0, raw.setWidth 32⟩

theorem decode_none : decode none = Option.none := rfl

theorem new_and_valid (intent : TransmitIntent) : new intent &&& pendingTransmitValid ≠ 0 := by
  intro h
  have hbit := congrArg (fun x => BitVec.getLsbD x 63) h
  simp [new, pendingTransmitValid, pendingTransmitKeyed] at hbit

theorem getLsbD_pendingTransmitKeyed :
    ∀ i < 64, pendingTransmitKeyed.getLsbD i = decide (i = 32) := by
  decide

theorem new_and_keyed (intent : TransmitIntent) :
    new intent &&& pendingTransmitKeyed ≠ 0 ↔ intent.keyed = true := by
  obtain ⟨keyed, tone⟩ := intent
  cases keyed with
  | true =>
    refine ⟨fun _ => rfl, fun _ h => ?_⟩
    have hbit := congrArg (fun x => BitVec.getLsbD x 32) h
    simp [new, pendingTransmitValid, pendingTransmitKeyed] at hbit
  | false =>
    refine ⟨fun h => absurd ?_ h, fun h => by cases h⟩
    refine BitVec.eq_of_getLsbD_eq fun i hi => ?_
    rw [BitVec.getLsbD_and, getLsbD_pendingTransmitKeyed i hi]
    by_cases h : i = 32
    · subst h
      simp [new, pendingTransmitValid]
    · simp [h]

theorem setWidth_new (intent : TransmitIntent) :
    (new intent).setWidth 32 = intent.ctcssTenthsHz := by
  obtain ⟨keyed, tone⟩ := intent
  cases keyed <;> (ext i hi; simp [new, pendingTransmitValid, pendingTransmitKeyed])

/-- The word holds the whole intent. -/
theorem decode_new (intent : TransmitIntent) : decode (new intent) = some intent := by
  unfold decode
  rw [if_neg (new_and_valid intent), setWidth_new]
  simp only [decide_eq_decide.mpr (new_and_keyed intent), Bool.decide_eq_true]

theorem new_ne_none (intent : TransmitIntent) : new intent ≠ none := by
  intro h
  have hdecode := decode_new intent
  rw [h, decode_none] at hdecode
  cases hdecode

theorem new_injective {i j : TransmitIntent} (h : new i = new j) : i = j := by
  have hdecode := decode_new i
  rw [h, decode_new] at hdecode
  exact (Option.some.inj hdecode).symm

end PendingTransmit

/-- The control gate: a reload waits for it, holds it, or has died with it. -/
inductive Gate where
  | open | waiting | closed | poisoned
  deriving DecidableEq, Repr

/-- What `transmit` got from the gate. -/
inductive TransmitAttempt where
  | deferred
  | completed (status : Int)
  | failed
  deriving DecidableEq, Repr

/-- Where the indication in progress is. -/
inductive IndicationPc where
  | idle
  /-- In front of the load of the pending word. -/
  | load (intent : TransmitIntent)
  /-- The word was occupied: in front of its store. -/
  | store (intent : TransmitIntent)
  | tryRead (intent : TransmitIntent)
  /-- Admitted, in front of the control call. -/
  | admitted (intent : TransmitIntent)
  /-- Behind the control call, the gate still held. -/
  | called (intent : TransmitIntent) (status : Int)
  /-- `finish_transmit_attempt`. -/
  | finish (intent : TransmitIntent) (attempt : TransmitAttempt)
  deriving DecidableEq, Repr

/-- Where the delivery worker is. -/
inductive WorkerPc where
  | notStarted
  /-- In front of the check of `delivery_stop`. -/
  | top
  /-- `replay_transmit`, in front of the load. -/
  | load
  | calling (raw : U64)
  /-- Applied, in front of the compare-exchange. -/
  | clearing (raw : U64)
  | serving
  | sleeping
  | ended
  deriving DecidableEq, Repr

/-- A channel. The driver and the controller are ghosts: the intent last applied, and the intent
last accepted. -/
structure Channel where
  direct : Bool
  pendingTransmit : U64
  gate : Gate
  indication : IndicationPc
  worker : WorkerPc
  deliveryStop : Bool
  serviceFailed : Bool
  applied : Option TransmitIntent
  accepted : Option TransmitIntent
  deriving DecidableEq, Repr

/-- Who moves next; a status is the answer of a control call. -/
inductive ChannelAct where
  | setDirect
  | startMedia (status : Int) (spawned : Bool)
  | indicate (intent : TransmitIntent)
  | transmitStep (admitted : Bool) (status : Int)
  | workerStep (status : Int)
  | requestGate
  | closeGate
  | openGate
  | poisonGate
  | stopWorker
  deriving DecidableEq, Repr

namespace Channel

/-- The channel that was requested. -/
def new : Channel :=
  { direct := false, pendingTransmit := PendingTransmit.none, gate := .open, indication := .idle
    worker := .notStarted, deliveryStop := false, serviceFailed := false, applied := none
    accepted := none }

/-- The indication holds the gate. -/
def holdsGate (s : Channel) : Bool :=
  match s.indication with
  | .admitted _ | .called .. => true
  | _ => false

/-- `start_media`: a direct controller has no delivery worker. -/
def startMedia (s : Channel) (status : Int) (spawned : Bool) : Option Channel :=
  match s.worker with
  | .notStarted =>
    if status ≠ urpAstOk ∧ ¬ (s.direct = true ∧ status = urpAstReloadPending) then some s
    else if !s.direct && spawned then
      some { s with deliveryStop := false, serviceFailed := false, worker := .top }
    else some s
  | _ => none

/-- The control call of an intent: the driver has applied it if the status is OK. -/
def apply (s : Channel) (intent : TransmitIntent) (status : Int) : Channel :=
  if status = urpAstOk then { s with applied := some intent } else s

/-- The next step of `transmit`. -/
def transmitStep (s : Channel) (admitted : Bool) (status : Int) : Option Channel :=
  match s.indication with
  | .idle => none
  | .load intent =>
    if s.pendingTransmit ≠ PendingTransmit.none then some { s with indication := .store intent }
    else some { s with indication := .tryRead intent }
  | .store intent =>
    some { s with
      pendingTransmit := PendingTransmit.new intent, accepted := some intent, indication := .idle }
  | .tryRead intent => match s.gate, admitted with
    | .poisoned, _ => some { s with indication := .finish intent .failed }
    | .open, true | .waiting, true => some { s with indication := .admitted intent }
    | .waiting, false | .closed, false => some { s with indication := .finish intent .deferred }
    | .open, false | .closed, true => none
  | .admitted intent => some { s.apply intent status with indication := .called intent status }
  | .called intent status => some { s with indication := .finish intent (.completed status) }
  | .finish intent attempt => match attempt with
    | .deferred =>
      some { s with
        pendingTransmit := PendingTransmit.new intent, accepted := some intent, indication := .idle }
    | .completed status =>
      if status = urpAstOk then some { s with accepted := some intent, indication := .idle }
      else some { s with indication := .idle }
    | .failed => some { s with indication := .idle }

/-- The next step of `run_worker`, with `replay_transmit` in it. -/
def workerStep (s : Channel) (status : Int) : Option Channel :=
  match s.worker with
  | .notStarted | .ended => none
  | .top => some { s with worker := if s.deliveryStop then .ended else .load }
  | .load => match PendingTransmit.decode s.pendingTransmit with
    | none => some { s with worker := .serving }
    | some _ => some { s with worker := .calling s.pendingTransmit }
  | .calling raw => match PendingTransmit.decode raw with
    | none => none
    | some intent =>
      if status = urpAstOk then some { s.apply intent status with worker := .clearing raw }
      else if status = urpAstChannelBusy then some { s with worker := .sleeping }
      else some { s with serviceFailed := true, worker := .ended }
  | .clearing raw =>
    if s.pendingTransmit = raw then
      some { s with pendingTransmit := PendingTransmit.none, worker := .serving }
    else some { s with worker := .serving }
  | .serving =>
    if status ≠ urpAstOk ∧ status ≠ urpAstChannelBusy then
      some { s with serviceFailed := true, worker := .ended }
    else some { s with worker := .sleeping }
  | .sleeping => some { s with worker := .top }

/-- A step of the channel. -/
def step (s : Channel) : ChannelAct → Option Channel
  | .setDirect => some { s with direct := true }
  | .startMedia status spawned => s.startMedia status spawned
  | .indicate intent => match s.indication with
    | .idle => some { s with indication := .load intent }
    | _ => none
  | .transmitStep admitted status => s.transmitStep admitted status
  | .workerStep status => s.workerStep status
  | .requestGate => if s.gate = .open then some { s with gate := .waiting } else none
  | .closeGate =>
    if s.gate = .waiting ∧ s.holdsGate = false then some { s with gate := .closed } else none
  | .openGate => if s.gate = .closed then some { s with gate := .open } else none
  | .poisonGate => if s.gate = .closed then some { s with gate := .poisoned } else none
  | .stopWorker => some { s with deliveryStop := true }

end Channel

/-- The runs of one channel. -/
def channelRuns : System Channel ChannelAct where
  init s := s = .new
  step := Channel.step

end UsbRadioPlus.Asterisk
