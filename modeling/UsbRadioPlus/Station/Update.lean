import UsbRadioPlus.Rust.Word
import UsbRadioPlus.Station.Plan
import UsbRadioPlus.Sys.Run
import UsbRadioPlus.Sys.Slot

/-!
# Live updates of a station (`rust/station/src/update.rs`)

The control owner publishes a prepared generation in the mailbox, each audio callback adopts or
rejects it, and the control owner commits, or rolls back with the reverse generation that was
prepared beside it. `&mut` serializes the calls of the control owner; their accesses to the atomic
slots interleave with those of the two callbacks. `controlStep`, `receiveStep` and `transmitStep`
are single accesses; a call starts with `beginUpdate`, `acceptUpdate` or `finishUpdate`.

Each direction of the mailbox is a `Sys.Slot`: `receive` and `transmit` are what is offered, the
results are the answers, the processing pointers are what is recorded, and the radio endpoint has
adopted what the slot has adopted. Whether a radio owner accepts an update, and what the processing
factory and the radio provider prepare, are arguments of the steps.

A `u64` is a number below `WORD`. Fields that are history are read by nothing but other history.
-/

namespace UsbRadioPlus
namespace Station

open Sys

variable {P : StationParts}

/-- Preparation or adoption failure. -/
inductive StationUpdateError (P : StationParts) where
  | incompatible
  | busy
  | pending
  | preparation (error : StationPreparationError P)
  | radio (error : RadioError)

/-! ## Prepared updates -/

/-- The generation that a direction adopts. -/
structure UpdateOwner (P : StationParts) where
  radio : P.PreparedUpdate
  processing : P.ProcessingGeneration
  controllerCtcss : P.CtcssTable
  voterReporting : Bool
  /-- History: the plan that it was prepared from. -/
  plan : StationPlan P
  /-- History: no two preparations have the same number. -/
  serial : Nat

/-- `prepare`: the owner of a plan that the radio accepts. -/
def UpdateOwner.prepare (plan : StationPlan P) (processing : P.ProcessingGeneration)
    (radio : Except RadioError P.PreparedUpdate) (serial : Nat) :
    Except (StationUpdateError P) (UpdateOwner P) :=
  match radio with
  | .error e => .error (.radio e)
  | .ok radio => .ok {
      radio, processing, plan, serial
      controllerCtcss := P.controllerCtcssTable plan.configuration
      voterReporting := P.voterReporting plan.configuration }

theorem UpdateOwner.plan_prepare {plan : StationPlan P} {processing : P.ProcessingGeneration}
    {radio : Except RadioError P.PreparedUpdate} {serial : Nat} {owner : UpdateOwner P}
    (h : prepare plan processing radio serial = .ok owner) : owner.plan = plan := by
  unfold prepare at h
  split at h
  · cases h
  · obtain rfl := Except.ok.inj h
    rfl

/-- Prepared forward and rollback settings. -/
structure StationUpdate (P : StationParts) where
  plan : StationPlan P
  previous : StationPlan P
  forward : UpdateOwner P
  reverse : UpdateOwner P
  source : Nat
  revision : Nat
  /-- History: the transactions that had ended at the snapshot. -/
  taken : Nat
  forward_plan : forward.plan = plan
  reverse_plan : reverse.plan = previous

/-- Stable processor leases captured briefly by the control owner. -/
structure StationUpdatePreparation (P : StationParts) where
  previous : StationPlan P
  processing : P.ProcessingGeneration
  source : Nat
  revision : Nat
  /-- History: the transactions that had ended at the snapshot. -/
  taken : Nat

/-- What the factory and the provider answer to a preparation, forward and reverse. -/
structure Prepared (P : StationParts) where
  forward : Except P.ProcessingRuntimeError P.ProcessingGeneration
  reverse : Except P.ProcessingRuntimeError P.ProcessingGeneration
  forwardRadio : Except RadioError P.PreparedUpdate
  reverseRadio : Except RadioError P.PreparedUpdate
  /-- History: the numbers of the two owners. -/
  serial : Nat

/-- Prepare forward and rollback updates without accessing a live station owner. -/
def StationUpdatePreparation.prepare (self : StationUpdatePreparation P) (plan : StationPlan P)
    (answers : Prepared P) : Except (StationUpdateError P) (StationUpdate P) :=
  match plan.retainRemoteOperating self.previous with
  | .error e => .error (.preparation e)
  | .ok plan =>
    if !plan.compatible self.previous then .error .incompatible
    else match answers.forward, answers.reverse with
      | .error e, _ => .error (.preparation (.processing e))
      | _, .error e => .error (.preparation (.processing e))
      | .ok forward, .ok reverse =>
        match hf : UpdateOwner.prepare plan forward answers.forwardRadio (2 * answers.serial),
          hr : UpdateOwner.prepare self.previous reverse answers.reverseRadio
            (2 * answers.serial + 1) with
        | .error e, _ => .error e
        | _, .error e => .error e
        | .ok forward, .ok reverse => .ok {
            plan, forward, reverse
            previous := self.previous
            source := self.source
            revision := self.revision
            taken := self.taken
            forward_plan := UpdateOwner.plan_prepare hf
            reverse_plan := UpdateOwner.plan_prepare hr }

/-! ## The mailbox and its owners -/

/-- An update that is under way. -/
structure Transaction (P : StationParts) where
  candidate : StationUpdate P
  reversing : Bool

namespace Transaction

/-- The generation that is published. -/
def owner (self : Transaction P) : UpdateOwner P :=
  if self.reversing then self.candidate.reverse else self.candidate.forward

end Transaction

/-- The plan in use and the update that is under way. -/
structure UpdateStorage (P : StationParts) where
  current : Option (UpdateOwner P)
  transaction : Option (Transaction P)
  revision : Nat

/-- The storage and the slots of the two callbacks. -/
structure UpdateMailbox (P : StationParts) where
  storage : UpdateStorage P
  receive : Slot (UpdateOwner P)
  transmit : Slot (UpdateOwner P)

/-- `UpdateMailbox::result`, from the two results that it loads. -/
def UpdateMailbox.result (receive transmit : Int) : Except (StationUpdateError P) Unit :=
  if receive = 0 ∨ transmit = 0 then .error .pending
  else if receive < 0 ∨ transmit < 0 then .error (.radio .invalidArgument)
  else .ok ()

/-- The next store of `UpdateMailbox::publish`. -/
inductive PublishStage where
  | receiveResult
  | transmitResult
  | receive
  | transmit
  deriving DecidableEq, Repr

/-- Why the control owner reads the results. -/
inductive Purpose where
  /-- `accept_update`. -/
  | accept
  /-- `finish_update` with `commit`. -/
  | commit
  /-- `finish_update` without it. -/
  | rollback
  /-- The same, behind the publication of the reverse generation. -/
  | reverse
  deriving DecidableEq, Repr

/-- Where the control owner is in a call. -/
inductive ControlPc (P : StationParts) where
  | idle
  | publish (stage : PublishStage) (owner : UpdateOwner P)
  | applyStopped
  | result (purpose : Purpose)
  | resultTransmit (purpose : Purpose) (receive : Int)

/-- The tables of the receive context. -/
structure ReceiveTables (P : StationParts) where
  controllerCtcss : P.CtcssTable
  voterReporting : Bool

/-- What the receive callback reads of a plan. -/
def UpdateOwner.tables (self : UpdateOwner P) : ReceiveTables P :=
  ⟨self.controllerCtcss, self.voterReporting⟩

/-- A runtime, its control host, and the mailbox that both share. -/
structure StationRuntime (P : StationParts) where
  /-- The address of the mailbox. -/
  address : Nat
  updates : UpdateMailbox P
  /-- `_receive_context`. -/
  tables : ReceiveTables P
  running : Bool
  /-- The plan of the control host. -/
  plan : StationPlan P
  pc : ControlPc P
  /-- History: the plan that the station was opened with. -/
  opened : StationPlan P
  /-- History: the transactions that have ended. -/
  ended : Nat
  /-- History: the updates that began. -/
  begun : List (StationUpdate P)

namespace StationRuntime

/-- A call's result, where the step ends the call. -/
abbrev Returned (P : StationParts) := Option (Except (StationUpdateError P) Unit)

variable (s : StationRuntime P)

/-- The stopped runtime with the plan that it was opened with. -/
def «open» (address : Nat) (plan : StationPlan P) (tables : ReceiveTables P) : StationRuntime P where
  address := address
  updates := ⟨⟨none, none, 0⟩, .fresh, .fresh⟩
  tables := tables
  running := false
  plan := plan
  pc := .idle
  opened := plan
  ended := 0
  begun := []

/-- The next access of the receive callback in `UpdateMailbox::receive`. -/
def receiveStep (accepts : Bool) : StationRuntime P :=
  let receive := s.updates.receive.read accepts
  match s.updates.receive.reading, accepts with
  | .deciding owner, true =>
    { s with updates := { s.updates with receive }, tables := owner.tables }
  | _, _ => { s with updates := { s.updates with receive } }

/-- The next access of the transmit callback in `UpdateMailbox::transmit`. -/
def transmitStep (accepts : Bool) : StationRuntime P :=
  { s with updates := { s.updates with transmit := s.updates.transmit.read accepts } }

/-- The callbacks' part on the control thread, while the stream is stopped. -/
def applyStoppedUpdate (receiveAccepts transmitAccepts : Bool) : StationRuntime P :=
  if s.running then s
  else
    let tables := match s.updates.receive.offered, receiveAccepts with
      | some owner, true => owner.tables
      | _, _ => s.tables
    { s with
      tables
      updates := { s.updates with
        receive := s.updates.receive.readAll receiveAccepts
        transmit := s.updates.transmit.readAll transmitAccepts } }

/-- The end of a transaction: the plan and the owner that stay. -/
def retire (plan : StationPlan P) (owner : UpdateOwner P) : StationRuntime P :=
  { s with
    plan
    updates := { s.updates with
      storage := ⟨some owner, none, (s.updates.storage.revision + 1) % WORD⟩ }
    ended := s.ended + 1 }

/-- Capture immutable policy and processor leases; `processing` is the answer of the factory. -/
def snapshotUpdate (processing : Except P.ProcessingRuntimeError P.ProcessingGeneration) :
    Except (StationUpdateError P) (StationUpdatePreparation P) :=
  if s.updates.storage.transaction.isSome then .error .busy
  else match processing with
    | .error e => .error (.preparation (.processing e))
    | .ok processing => .ok {
        previous := s.plan
        processing
        source := s.address
        revision := s.updates.storage.revision
        taken := s.ended }

/-- `begin_update` up to its call of `publish`; `forward` and `reverse` are the answers of
`validate_update`. -/
def beginUpdate (update : StationUpdate P) (forward reverse : Except RadioError Unit) :
    StationRuntime P × Returned P :=
  if update.source ≠ s.address then (s, some (.error .incompatible))
  else match forward, reverse with
    | .error e, _ => (s, some (.error (.radio e)))
    | _, .error e => (s, some (.error (.radio e)))
    | .ok (), .ok () =>
      if s.updates.storage.transaction.isSome ∨ s.updates.storage.revision ≠ update.revision then
        (s, some (.error .busy))
      else
        ({ s with
          updates := { s.updates with
            storage := { s.updates.storage with transaction := some ⟨update, false⟩ } }
          pc := .publish .receiveResult update.forward
          begun := s.begun ++ [update] }, none)

/-- `accept_update` up to its call of `result`. -/
def acceptUpdate : StationRuntime P := { s with pc := .result .accept }

/-- `finish_update` up to its call of `result`. -/
def finishUpdate (commit receiveAccepts transmitAccepts : Bool) : StationRuntime P × Returned P :=
  let s := s.applyStoppedUpdate receiveAccepts transmitAccepts
  match s.updates.storage.transaction with
  | none => (s, some (.ok ()))
  | some _ => ({ s with pc := .result (if commit then .commit else .rollback) }, none)

/-- What follows the results. -/
def conclude (purpose : Purpose) (result : Except (StationUpdateError P) Unit) :
    StationRuntime P × Returned P :=
  let s := { s with pc := .idle }
  match purpose, s.updates.storage.transaction, result with
  | .accept, _, .error e => (s, some (.error e))
  | .accept, none, .ok () => (s, some (.error .busy))
  | .accept, some transaction, .ok () =>
    if transaction.reversing then (s, some (.error .busy))
    else ({ s with plan := transaction.candidate.plan }, some (.ok ()))
  | .commit, some _, .error e => (s, some (.error e))
  | .commit, some transaction, .ok () =>
    if transaction.reversing then (s, some (.error .busy))
    else (s.retire transaction.candidate.plan transaction.candidate.forward, some (.ok ()))
  | .rollback, some _, .error .pending => (s, some (.error .pending))
  | .rollback, some transaction, result =>
    if transaction.reversing then
      match result with
      | .error e => (s, some (.error e))
      | .ok () =>
        (s.retire transaction.candidate.previous transaction.candidate.reverse, some (.ok ()))
    else
      ({ s with
        updates := { s.updates with
          storage := { s.updates.storage with
            transaction := some { transaction with reversing := true } } }
        pc := .publish .receiveResult transaction.candidate.reverse }, none)
  | .reverse, some _, .error e => (s, some (.error e))
  | .reverse, some transaction, .ok () =>
    (s.retire transaction.candidate.previous transaction.candidate.reverse, some (.ok ()))
  -- `finish_update` has returned where no transaction is open.
  | _, none, _ => (s, some (.ok ()))

/-- The next access of the control owner in its call. -/
def controlStep (receiveAccepts transmitAccepts : Bool) :
    Option (StationRuntime P × Returned P) :=
  match s.pc with
  | .idle => none
  | .publish .receiveResult owner => some ({ s with
      updates := { s.updates with receive := s.updates.receive.clear }
      pc := .publish .transmitResult owner }, none)
  | .publish .transmitResult owner => some ({ s with
      updates := { s.updates with transmit := s.updates.transmit.clear }
      pc := .publish .receive owner }, none)
  | .publish .receive owner => some ({ s with
      updates := { s.updates with receive := s.updates.receive.offer owner }
      pc := .publish .transmit owner }, none)
  | .publish .transmit owner => some ({ s with
      updates := { s.updates with transmit := s.updates.transmit.offer owner }
      pc := .applyStopped }, none)
  | .applyStopped =>
    let s := s.applyStoppedUpdate receiveAccepts transmitAccepts
    match s.updates.storage.transaction with
    | some ⟨_, true⟩ => some ({ s with pc := .result .reverse }, none)
    | _ => some ({ s with pc := .idle }, some (.ok ()))
  | .result purpose =>
    some ({ s with pc := .resultTransmit purpose s.updates.receive.answer }, none)
  | .resultTransmit purpose receive =>
    some (s.conclude purpose (UpdateMailbox.result receive s.updates.transmit.answer))

end StationRuntime

/-! ## The system -/

/-- A station and what its preparers hold. -/
structure Updating (P : StationParts) where
  station : StationRuntime P
  preparations : List (StationUpdatePreparation P)
  prepared : List (StationUpdate P)

/-- The steps of the control owner, of the callbacks and of the preparers. -/
inductive UpdateAct (P : StationParts) where
  | start
  /-- A successful stop quiesces both callbacks. -/
  | stop
  | snapshot (processing : Except P.ProcessingRuntimeError P.ProcessingGeneration)
  /-- A preparer uses one of its preparations. -/
  | prepare (i : Nat) (plan : StationPlan P) (answers : Prepared P)
  /-- An update of another station comes in. -/
  | foreign (update : StationUpdate P)
  | begin (i : Nat) (forward reverse : Except RadioError Unit)
  | accept
  | finish (commit receiveAccepts transmitAccepts : Bool)
  | control (receiveAccepts transmitAccepts : Bool)
  | receive (accepts : Bool)
  | transmit (accepts : Bool)

namespace Updating

/-- The control owner has no call. -/
def free (s : Updating P) : Bool := s.station.pc matches .idle

/-- A step of the control side or of a callback. -/
def step (s : Updating P) : UpdateAct P → Option (Updating P)
  | .start => if s.free then some { s with station := { s.station with running := true } } else none
  | .stop =>
    match s.free, s.station.updates.receive.reading, s.station.updates.transmit.reading with
    | true, .idle, .idle => some { s with station := { s.station with running := false } }
    | _, _, _ => none
  | .snapshot processing =>
    if s.free then match s.station.snapshotUpdate processing with
      | .error _ => some s
      | .ok preparation => some { s with preparations := s.preparations ++ [preparation] }
    else none
  | .prepare i plan answers => match s.preparations[i]? with
    | none => none
    | some preparation => match preparation.prepare plan answers with
      | .error _ => some { s with preparations := s.preparations.eraseIdx i }
      | .ok update => some { s with
          preparations := s.preparations.eraseIdx i, prepared := s.prepared ++ [update] }
  | .foreign update =>
    if update.source ≠ s.station.address then some { s with prepared := s.prepared ++ [update] }
    else none
  | .begin i forward reverse => match s.free, s.prepared[i]? with
    | true, some update => some { s with
        station := (s.station.beginUpdate update forward reverse).1
        prepared := s.prepared.eraseIdx i }
    | _, _ => none
  | .accept => if s.free then some { s with station := s.station.acceptUpdate } else none
  | .finish commit receiveAccepts transmitAccepts =>
    if s.free then
      some { s with station := (s.station.finishUpdate commit receiveAccepts transmitAccepts).1 }
    else none
  | .control receiveAccepts transmitAccepts =>
    (s.station.controlStep receiveAccepts transmitAccepts).map fun r => { s with station := r.1 }
  | .receive accepts =>
    if s.station.running then some { s with station := s.station.receiveStep accepts } else none
  | .transmit accepts =>
    if s.station.running then some { s with station := s.station.transmitStep accepts } else none

end Updating

/-- The runs of the update of a station. -/
def updating (P : StationParts) : System (Updating P) (UpdateAct P) where
  init s := ∃ address plan tables, s = ⟨.open address plan tables, [], []⟩
  step := Updating.step

end Station
end UsbRadioPlus
