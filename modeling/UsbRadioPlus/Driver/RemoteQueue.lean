import UsbRadioPlus.Core.RemoteOperation
import UsbRadioPlus.Sys.OneShot
import UsbRadioPlus.Sys.Run

/-!
# The command port of a radio (`driver/src/remote_base.rs`)

Submitters, the physical worker and the owner that retires share the tickets of a `RemoteQueue`.
Every atomic access is a step of its own, so a label of `remoteQueue` says who moves next.

A ticket has two sides. The work moves from the queue to the worker, which completes or abandons
it; the caller holds a lease, reads completions (in any number of threads) and may drop it. Both
end at `TicketState::complete`, the claims of a `OneShot` cell. The steps of `take` and
`dropLease` may overlap here, which the borrow checker excludes.

A request of the parallel port has no lease. Its error goes to the shared `parallel_error`. The
atomics are sequentially consistent here and a push or pop of an `ArrayQueue` is one step.
-/

namespace UsbRadioPlus.Driver

open Sys UsbRadioPlus.Core

/-- Why a request has no reply. -/
inductive RemoteRequestError where
  | busy | stopped | staleSource
  | rejected (code : Int)
  deriving DecidableEq, Repr

/-- Who submitted a request, and whether the request still counts. -/
structure RemoteSource where
  isLocal : Bool
  valid : Bool
  active : Bool
  deriving DecidableEq, Repr

/-- What is submitted; the content of a request of the parallel port does not matter here. -/
inductive RemoteInput where
  | command (operation : RemoteOperation)
  | parallel
  deriving DecidableEq

namespace RemoteInput

/-- A command that is not declared is not admitted. -/
def undeclared : RemoteInput → Bool
  | command operation => operation.kind.isNone
  | parallel => false

/-- The input goes to the urgent queue. -/
def urgent : RemoteInput → Bool
  | command operation => operation.urgent
  | parallel => false

/-- No caller waits for the result. -/
def detached : RemoteInput → Bool
  | command _ => false
  | parallel => true

end RemoteInput

/-- The parties that may complete a ticket. -/
inductive Party where
  | work
  | taker (thread : Nat)
  deriving DecidableEq, Repr

/-- Where the work of a request is. -/
inductive WorkPc (ρ : Type) where
  /-- Created, in front of the push into a queue. -/
  | created
  | queued
  /-- Dequeued by the worker. -/
  | held
  /-- `RemoteWork::complete`, in front of the load of the generation. -/
  | loadGeneration (result : Except RemoteRequestError ρ)
  /-- `source()`, in front of the load of the source bits. -/
  | loadSource (result : Except RemoteRequestError ρ)
  | loadGenerationAgain (result : Except RemoteRequestError ρ) (valid : Bool)
  /-- `TicketState::complete` of the result. -/
  | completing
  /-- `TicketState::complete` of the drop. -/
  | dropping
  | gone

/-- Where a call of `take_completion` is. -/
inductive TakePc where
  | idle
  /-- `TicketState::complete` of a stopped generation. -/
  | completing
  /-- In front of the pop; `stopped` if the generation was found stopped. -/
  | popping (stopped : Bool)
  deriving DecidableEq, Repr

/-- Where the lease of the caller is. -/
inductive Lease where
  | submitting
  | held
  /-- A request of the parallel port has none. -/
  | detached
  | refused (error : RemoteRequestError)
  | dropped
  deriving DecidableEq, Repr

variable {ρ : Type}

/-- `TicketState`, with both sides of the ticket. -/
structure Ticket (ρ : Type) where
  input : RemoteInput
  isLocal : Bool
  /-- Bit 0 of the source. -/
  valid : Bool
  /-- Bit 1 of the source. -/
  active : Bool
  cell : OneShot Party (Except RemoteRequestError ρ)
  work : WorkPc ρ
  lease : Lease
  takers : Nat → TakePc

/-- The port: `accepting` is the generation that its tickets share. -/
structure RemoteQueue (ρ : Type) where
  capacity : Nat
  ready : Bool
  parallelError : Int
  accepting : Bool
  ordinary : List Nat
  urgent : List Nat
  tickets : Nat → Option (Ticket ρ)

namespace Ticket

/-- A ticket in front of its queue. -/
def new (input : RemoteInput) (isLocal active : Bool) : Ticket ρ :=
  { input, isLocal, valid := true, active, cell := .fresh, work := .created, lease := .submitting
    takers := fun _ => .idle }

/-- `TicketState::source`, where the loads meet this state. -/
def source (t : Ticket ρ) (accepting : Bool) : RemoteSource :=
  ⟨t.isLocal, t.valid && accepting, t.active⟩

/-- A party starts `TicketState::complete`. -/
def complete (t : Ticket ρ) (p : Party) (result : Except RemoteRequestError ρ) : Ticket ρ :=
  { t with cell := t.cell.offer p result }

/-- The next access of a party of the cell. -/
def advance (t : Ticket ρ) (p : Party) : Ticket ρ := { t with cell := t.cell.advance p }

/-- The drop of `RemoteWork`. -/
def dropWork (t : Ticket ρ) : Ticket ρ :=
  { t.complete .work (.error .stopped) with work := .dropping }

/-- A call that takes the result goes on. -/
def setTaker (t : Ticket ρ) (thread : Nat) (pc : TakePc) : Ticket ρ :=
  { t with takers := Function.update t.takers thread pc }

end Ticket

/-- The code that a detached request leaves behind its error. -/
def RemoteRequestError.code : RemoteRequestError → Int
  | rejected code => code
  | busy => -9
  | stopped | staleSource => -10

namespace RemoteQueue

/-- The queue before the owner is ready. -/
def new (capacity : Nat) : RemoteQueue ρ :=
  { capacity, ready := false, parallelError := 0, accepting := true, ordinary := [], urgent := []
    tickets := fun _ => none }

/-- The ticket under a number. -/
def setTicket (s : RemoteQueue ρ) (id : Nat) (t : Ticket ρ) : RemoteQueue ρ :=
  { s with tickets := Function.update s.tickets id (some t) }

/-- The step of a party in `TicketState::complete`. The winner of a detached ticket first leaves
its error, unless an error is there. -/
def advance (s : RemoteQueue ρ) (id : Nat) (t : Ticket ρ) (p : Party) : RemoteQueue ρ :=
  let parallelError := match t.cell.party p with
    | .won (.error e) =>
      if t.input.detached && s.parallelError = 0 then e.code else s.parallelError
    | _ => s.parallelError
  { s.setTicket id (t.advance p) with parallelError }

/-- `enqueue`, up to the push. -/
def submit (s : RemoteQueue ρ) (id : Nat) (input : RemoteInput) (isLocal active : Bool) :
    Option (RemoteQueue ρ) :=
  if !s.accepting then some s
  else if input.undeclared then some s
  else match s.tickets id with
    | some _ => none
    | none => match input with
      | .command _ => some (s.setTicket id (.new input isLocal active))
      | .parallel => some (s.setTicket id (.new input true false))

/-- The queue of the request has no free slot; there is one urgent slot. -/
def full (s : RemoteQueue ρ) (urgent : Bool) : Bool :=
  if urgent then 1 ≤ s.urgent.length else s.capacity ≤ s.ordinary.length

/-- The end of the queue that the request belongs to. -/
def push (s : RemoteQueue ρ) (id : Nat) (urgent : Bool) : RemoteQueue ρ :=
  if urgent then { s with urgent := s.urgent ++ [id] }
  else { s with ordinary := s.ordinary ++ [id] }

/-- The push of `enqueue`. Work that finds no room is dropped. -/
def enqueue (s : RemoteQueue ρ) (id : Nat) (t : Ticket ρ) : Option (RemoteQueue ρ) :=
  match t.work with
  | .created =>
    if s.full t.input.urgent then some (s.setTicket id { t.dropWork with lease := .refused .busy })
    else
      some ((s.setTicket id
        { t with work := .queued, lease := if t.input.detached then .detached else .held }).push id
          t.input.urgent)
  | _ => none

/-- The worker has dequeued the work. -/
def hold (s : RemoteQueue ρ) (id : Nat) : Option (RemoteQueue ρ) :=
  (s.tickets id).map fun t => s.setTicket id { t with work := .held }

/-- `next_urgent`. -/
def nextUrgent (s : RemoteQueue ρ) : Option (RemoteQueue ρ) :=
  match s.urgent with
  | [] => some s
  | id :: rest => { s with urgent := rest }.hold id

/-- `next_ordinary`; `next` is `next_urgent`, and `next_ordinary` if that found nothing. -/
def nextOrdinary (s : RemoteQueue ρ) : Option (RemoteQueue ρ) :=
  match s.ordinary with
  | [] => some s
  | id :: rest => { s with ordinary := rest }.hold id

/-- The next step of the work in `RemoteWork::complete` or in its drop. -/
def workStep (s : RemoteQueue ρ) (id : Nat) (t : Ticket ρ) : Option (RemoteQueue ρ) :=
  let finish (result : Except RemoteRequestError ρ) :=
    s.setTicket id { t.complete .work result with work := .completing }
  match t.work with
  | .loadGeneration result =>
    if !s.accepting then some (finish (.error .stopped))
    else match result with
      | .ok _ => some (s.setTicket id { t with work := .loadSource result })
      | .error _ => some (finish result)
  | .loadSource result =>
    some (s.setTicket id { t with work := .loadGenerationAgain result t.valid })
  | .loadGenerationAgain result valid =>
    if valid && s.accepting then some (finish result) else some (finish (.error .staleSource))
  | .completing => match t.cell.party .work with
    | .idle => some (s.setTicket id t.dropWork)
    | _ => some (s.advance id t .work)
  | .dropping => match t.cell.party .work with
    | .idle => some (s.setTicket id { t with work := .gone })
    | _ => some (s.advance id t .work)
  | _ => none

/-- `take_completion`, up to the load of the generation. -/
def takeCompletion (s : RemoteQueue ρ) (id thread : Nat) (t : Ticket ρ) : Option (RemoteQueue ρ) :=
  match t.lease, t.takers thread with
  | .held, .idle =>
    if !s.accepting then
      some (s.setTicket id
        ((t.complete (.taker thread) (.error .stopped)).setTaker thread .completing))
    else some (s.setTicket id (t.setTaker thread (.popping false)))
  | _, _ => none

/-- The next step of a call of `take_completion`. -/
def takeStep (s : RemoteQueue ρ) (id thread : Nat) (t : Ticket ρ) : Option (RemoteQueue ρ) :=
  match t.takers thread with
  | .idle => none
  | .completing => match t.cell.party (.taker thread) with
    | .idle => some (s.setTicket id (t.setTaker thread (.popping true)))
    | _ => some (s.advance id t (.taker thread))
  | .popping _ => some (s.setTicket id { t.setTaker thread .idle with cell := t.cell.take })

/-- `source_state`: one `fetch_update`. -/
def sourceState (s : RemoteQueue ρ) (id : Nat) (t : Ticket ρ) (active valid : Bool) :
    Option (RemoteQueue ρ) :=
  match t.lease with
  | .held => some (s.setTicket id { t with valid := valid && t.valid, active })
  | _ => none

/-- The drop of `RemoteTicket` revokes the source. -/
def dropLease (s : RemoteQueue ρ) (id : Nat) (t : Ticket ρ) : Option (RemoteQueue ρ) :=
  match t.lease with
  | .held => some (s.setTicket id { t with valid := false, lease := .dropped })
  | _ => none

/-- The worker starts `complete`, or drops the work. -/
def endWork (s : RemoteQueue ρ) (id : Nat) (t : Ticket ρ)
    (result : Option (Except RemoteRequestError ρ)) : Option (RemoteQueue ρ) :=
  match t.work, result with
  | .held, some result => some (s.setTicket id { t with work := .loadGeneration result })
  | .held, none => some (s.setTicket id t.dropWork)
  | _, _ => none

end RemoteQueue

/-- Who moves next. -/
inductive QueueAct (ρ : Type) where
  | submit (id : Nat) (input : RemoteInput) (isLocal active : Bool)
  | enqueue (id : Nat)
  | nextUrgent
  | nextOrdinary
  | complete (id : Nat) (result : Except RemoteRequestError ρ)
  | dropWork (id : Nat)
  | workStep (id : Nat)
  | takeCompletion (id thread : Nat)
  | takeStep (id thread : Nat)
  | sourceState (id : Nat) (active valid : Bool)
  | dropLease (id : Nat)
  | markReady
  | retire

namespace RemoteQueue

/-- A step of a caller, of the owner or of a worker. -/
def step (s : RemoteQueue ρ) : QueueAct ρ → Option (RemoteQueue ρ)
  | .submit id input isLocal active => s.submit id input isLocal active
  | .enqueue id => (s.tickets id).bind (s.enqueue id)
  | .nextUrgent => s.nextUrgent
  | .nextOrdinary => s.nextOrdinary
  | .complete id result => (s.tickets id).bind fun t => s.endWork id t (some result)
  | .dropWork id => (s.tickets id).bind fun t => s.endWork id t none
  | .workStep id => (s.tickets id).bind (s.workStep id)
  | .takeCompletion id thread => (s.tickets id).bind (s.takeCompletion id thread)
  | .takeStep id thread => (s.tickets id).bind (s.takeStep id thread)
  | .sourceState id active valid => (s.tickets id).bind fun t => s.sourceState id t active valid
  | .dropLease id => (s.tickets id).bind (s.dropLease id)
  | .markReady => some { s with ready := true }
  | .retire => some { s with accepting := false }

end RemoteQueue

/-- The runs of one port of the given capacity. -/
def remoteQueue (capacity : Nat) : System (RemoteQueue ρ) (QueueAct ρ) where
  init s := s = .new capacity
  step := RemoteQueue.step

end UsbRadioPlus.Driver
