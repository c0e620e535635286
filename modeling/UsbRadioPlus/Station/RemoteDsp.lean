import Mathlib.Logic.Function.Basic
import UsbRadioPlus.Station.Update

/-!
# Remote DSP exchanges (`rust/station/src/remote_dsp.rs`)

A physical worker asks for the signaling of an operating state (`RemoteDspPort::apply`) and waits;
the control owner of the station carries the request out piece by piece
(`RemoteDspControl::pump`), with the live update of the station. The two share the exchange: three
queues of one place, `completed` and `cancelled`. Every access to them is a step; `applyStep` is the
next step of a worker, `pumpStep` the next one of the control owner.

What a worker cannot know is an argument of its step: whether its caller cancels, and whether its
deadline has passed. The exchange table stands for the allocations of the exchanges.
-/

namespace UsbRadioPlus
namespace Station

open Sys

variable {P : StationParts}

/-- Bounded physical-owner wait or station-update failure. -/
inductive RemoteDspError (P : StationParts) where
  | busy
  | stopped
  | cancelled
  | timeout
  | update (error : StationUpdateError P)

/-! ## Exchanges -/

/-- A queue of one place; a push onto a full queue is refused. -/
def pushOne {α : Type} (queue : Option α) (value : α) : Option α := some (queue.getD value)

/-- Where a worker is in `apply`. -/
inductive ApplyPc (P : StationParts) where
  /-- Before the push onto `pending`. -/
  | submit
  /-- At the top of the loop. -/
  | poll
  | check
  | giveUp (failure : RemoteDspError P)
  | prepare
  | ready (candidate : Except (StationUpdateError P) (StationUpdate P))
  | returned (result : Except (RemoteDspError P) Unit)

/-- An exchange and the worker that waits for it. -/
structure Exchange (P : StationParts) where
  target : P.RemoteOperatingState
  externalDecode : SubaudibleSource
  carrier : CarrierSource
  preparation : Option (StationUpdatePreparation P)
  ready : Option (Except (StationUpdateError P) (StationUpdate P))
  result : Option (Except (RemoteDspError P) Unit)
  completed : Bool
  cancelled : Bool
  pc : ApplyPc P
  /-- History: the committed plan when the pump took the exchange. -/
  before : Option (StationPlan P)
  /-- History: the pump has committed the update. -/
  committed : Bool
  /-- History: the committed plan that the exchange left behind. -/
  outcome : Option (StationPlan P)

namespace Exchange

/-- An exchange in front of its submission. -/
def new (target : P.RemoteOperatingState) (externalDecode : SubaudibleSource)
    (carrier : CarrierSource) : Exchange P :=
  ⟨target, externalDecode, carrier, none, none, none, false, false, .submit, none, false, none⟩

/-- The plan that is asked for. -/
def requested (self : Exchange P) (plan : StationPlan P) :
    Except (StationPreparationError P) (StationPlan P) :=
  (plan.withRemoteCarrier self.carrier).withRemoteSignaling self.target self.externalDecode

/-- The candidate that the worker prepares. -/
def candidate (self : Exchange P) (preparation : StationUpdatePreparation P)
    (answers : Prepared P) : Except (StationUpdateError P) (StationUpdate P) :=
  match self.requested preparation.previous with
  | .error e => .error (.preparation e)
  | .ok plan => preparation.prepare plan answers

end Exchange

/-! ## The two owners -/

/-- The exchange that the pump works on. -/
structure Active where
  exchange : Nat
  prepared : Bool
  started : Bool
  reversing : Bool
  deriving DecidableEq, Repr

/-- Where the control owner is in `pump`. -/
inductive PumpPc (P : StationParts) where
  | idle
  /-- Before the load of `cancelled`. -/
  | check
  | advance
  /-- In a call of `begin_update`. -/
  | begin
  /-- In a call of `finish_update`. -/
  | finish
  /-- In `complete`, before its `compare_exchange`; `last` drops the exchange afterwards. -/
  | complete (result : Except (RemoteDspError P) Unit) (last : Bool)
  /-- In `complete`, before its push. -/
  | answer (result : Except (RemoteDspError P) Unit) (last : Bool)

/-- The station, its exchanges and the two sides that work on them. -/
structure RemoteDsp (P : StationParts) where
  station : StationRuntime P
  exchanges : Nat → Option (Exchange P)
  /-- The next free place of the table. -/
  next : Nat
  pending : Option Nat
  live : Bool
  active : Option Active
  pump : PumpPc P
  /-- History: the exchange that the pump took last. -/
  last : Option Nat

/-- What the station's environment answers to a step of the pump. -/
structure PumpAnswers (P : StationParts) where
  snapshot : Except P.ProcessingRuntimeError P.ProcessingGeneration
  forward : Except RadioError Unit
  reverse : Except RadioError Unit
  receive : Bool
  transmit : Bool

/-- What a worker's environment answers to a step. -/
structure ApplyAnswers (P : StationParts) where
  cancelled : Bool
  elapsed : Bool
  prepared : Prepared P

namespace RemoteDsp

variable (s : RemoteDsp P)

/-- The control owner's view of a new station. -/
def new (station : StationRuntime P) : RemoteDsp P :=
  ⟨station, fun _ => none, 0, none, true, none, .idle, none⟩

/-- The exchange at a place of the table. -/
def setExchange (i : Nat) (e : Exchange P) : RemoteDsp P :=
  { s with exchanges := Function.update s.exchanges i (some e) }

/-- The next step of the worker in `apply`. -/
def applyStep (i : Nat) (answers : ApplyAnswers P) : Option (RemoteDsp P) :=
  match s.exchanges i with
  | none => none
  | some e => match e.pc with
    | .submit => match s.pending with
      | none => some { s.setExchange i { e with pc := .poll } with pending := some i }
      | some _ => some (s.setExchange i { e with pc := .returned (.error .busy) })
    | .poll => match e.result with
      | some result => some (s.setExchange i { e with result := none, pc := .returned result })
      | none => some (s.setExchange i { e with pc := .check })
    | .check =>
      if !s.live then some (s.setExchange i { e with pc := .giveUp .stopped })
      else if answers.cancelled then some (s.setExchange i { e with pc := .giveUp .cancelled })
      else if answers.elapsed then some (s.setExchange i { e with pc := .giveUp .timeout })
      else some (s.setExchange i { e with pc := .prepare })
    | .giveUp failure =>
      some (s.setExchange i { e with cancelled := true, pc := .returned (.error failure) })
    | .prepare => match e.preparation with
      | none => some (s.setExchange i { e with pc := .poll })
      | some preparation => some (s.setExchange i { e with
          preparation := none, pc := .ready (e.candidate preparation answers.prepared) })
    | .ready candidate =>
      some (s.setExchange i { e with ready := pushOne e.ready candidate, pc := .poll })
    | .returned _ => none

/-- `self.active = None`. -/
def leave (i : Nat) (e : Exchange P) : RemoteDsp P :=
  { s.setExchange i { e with outcome := some s.station.plan } with active := none, pump := .idle }

/-- What follows `finish_update`. -/
def handleFinish (a : Active) (result : Except (StationUpdateError P) Unit) : RemoteDsp P :=
  match result with
  | .ok () => { s with pump := .complete (if a.reversing then .error .cancelled else .ok ()) true }
  | .error .pending => { s with pump := .idle }
  | .error e => { s with
      active := some { a with reversing := true }, pump := .complete (.error (.update e)) false }

/-- The call of `finish_update`. -/
def callFinish (a : Active) (answers : PumpAnswers P) : RemoteDsp P :=
  match s.station.finishUpdate (!a.reversing) answers.receive answers.transmit with
  | (station, none) => { s with station, pump := .finish }
  | (station, some result) => { s with station }.handleFinish a result

/-- What follows `begin_update`. -/
def handleBegin (a : Active) (result : Except (StationUpdateError P) Unit)
    (answers : PumpAnswers P) : RemoteDsp P :=
  match result with
  | .ok () => { s with active := some { a with started := true } }.callFinish
      { a with started := true } answers
  | .error .busy => { s with active := some { a with prepared := false }, pump := .idle }
  | .error e => { s with pump := .complete (.error (.update e)) true }

/-- The pump behind the load of `cancelled`. -/
def advance (a : Active) (e : Exchange P) (answers : PumpAnswers P) : RemoteDsp P :=
  if !a.prepared then
    match s.station.snapshotUpdate answers.snapshot with
    | .ok preparation =>
      { s.setExchange a.exchange { e with preparation := pushOne e.preparation preparation } with
        active := some { a with prepared := true }, pump := .idle }
    | .error .busy => { s with pump := .idle }
    | .error e => { s with pump := .complete (.error (.update e)) true }
  else if !a.started then
    match e.ready with
    | none => { s with pump := .idle }
    | some candidate =>
      let s := s.setExchange a.exchange { e with ready := none }
      match candidate with
      | .error e => s.handleBegin a (.error e) answers
      | .ok update => match s.station.beginUpdate update answers.forward answers.reverse with
        | (station, none) => { s with station, pump := .begin }
        | (station, some result) => { s with station }.handleBegin a result answers
  else s.callFinish a answers

/-- The next step of the control owner in `pump`. -/
def pumpStep (answers : PumpAnswers P) : Option (RemoteDsp P) :=
  match s.pump, s.active with
  | .idle, none => match s.pending with
    | none => some s
    | some i => match s.exchanges i with
      | none => none
      | some e => some { s.setExchange i { e with before := some s.station.plan } with
          pending := none, active := some ⟨i, false, false, false⟩, pump := .check, last := some i }
  | .idle, some _ => some { s with pump := .check }
  | _, none => none
  | pump, some a => match s.exchanges a.exchange with
    | none => none
    | some e => match pump with
      | .idle => none
      | .check =>
        if !e.cancelled then some { s with pump := .advance }
        else if !a.started then some (s.leave a.exchange e)
        else some { s with active := some { a with reversing := true }, pump := .advance }
      | .advance => some (s.advance a e answers)
      | .begin => match s.station.controlStep answers.receive answers.transmit with
        | none => none
        | some (station, none) => some { s with station }
        | some (station, some result) => some ({ s with station }.handleBegin a result answers)
      | .finish => match s.station.controlStep answers.receive answers.transmit with
        | none => none
        | some (station, none) => some { s with station }
        | some (station, some result) =>
          -- History: the commit.
          let e := match result, a.reversing with
            | .ok (), false => { e with committed := true, outcome := some station.plan }
            | _, _ => e
          some ({ s.setExchange a.exchange e with station }.handleFinish a result)
      | .complete result last =>
        if e.completed then some (if last then s.leave a.exchange e else { s with pump := .idle })
        else some { s.setExchange a.exchange { e with completed := true } with
          pump := .answer result last }
      | .answer result last =>
        let e := { e with result := pushOne e.result result }
        let s := s.setExchange a.exchange e
        some (if last then s.leave a.exchange e else { s with pump := .idle })

end RemoteDsp

/-! ## The system -/

/-- The steps of the workers, of the control owner and of the callbacks. -/
inductive RemoteDspAct (P : StationParts) where
  /-- A worker calls `apply` on the live port. -/
  | apply (target : P.RemoteOperatingState) (externalDecode : SubaudibleSource)
    (carrier : CarrierSource)
  | worker (i : Nat) (answers : ApplyAnswers P)
  | pump (answers : PumpAnswers P)
  | receive (accepts : Bool)
  | transmit (accepts : Bool)
  /-- The control owner starts or stops the stream between two calls of `pump`. -/
  | start
  | stop
  /-- The control owner is dropped. -/
  | retire

namespace RemoteDsp

/-- A step of a caller, of the pump, of the worker or of a callback. -/
def step (s : RemoteDsp P) : RemoteDspAct P → Option (RemoteDsp P)
  | .apply target externalDecode carrier =>
    if s.live then
      some { s.setExchange s.next (.new target externalDecode carrier) with next := s.next + 1 }
    else some s
  | .worker i answers => s.applyStep i answers
  | .pump answers => if s.live then s.pumpStep answers else none
  | .receive accepts =>
    if s.station.running then some { s with station := s.station.receiveStep accepts } else none
  | .transmit accepts =>
    if s.station.running then some { s with station := s.station.transmitStep accepts } else none
  | .start =>
    if s.pump matches .idle then some { s with station := { s.station with running := true } }
    else none
  | .stop => match s.pump, s.station.updates.receive.reading, s.station.updates.transmit.reading with
    | .idle, .idle, .idle => some { s with station := { s.station with running := false } }
    | _, _, _ => none
  | .retire => if s.pump matches .idle then some { s with live := false } else none

end RemoteDsp

/-- The runs of the exchanges of a station. -/
def remoteDsp (P : StationParts) : System (RemoteDsp P) (RemoteDspAct P) where
  init s := ∃ address plan tables, s = .new (.open address plan tables)
  step := RemoteDsp.step

end Station
end UsbRadioPlus
