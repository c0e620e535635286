import Mathlib.Logic.Function.Basic
import UsbRadioPlus.Runtime.GraphStage
import UsbRadioPlus.Sys.Run

/-!
# Stage chains (`rust/runtime/src/processing.rs`, `rust/station/src/update.rs`)

The successive stages of one place of the audio path share the word `audible` and one audio owner.
A control owner takes a snapshot of the current stage, prepares a replacement and its inverse from
it, publishes the replacement, and commits it or publishes the inverse. The audio owner adopts or
rejects what is published, between its callbacks; another owner has its half of the update and
answers on its own.

An update begins only if its snapshot is current: no other one began in the meantime. The station
keeps a revision for that; here a preparation that missed its turn is marked as superseded. Its
preparation goes on, but it never begins.
-/

namespace UsbRadioPlus.Runtime

open Sys

/-- The address of a stage. -/
abbrev StageAddress := Nat

/-- A preparation, from its snapshot to the update that is ready to begin. -/
structure Preparation where
  /-- The stage that the snapshot leases. -/
  base : StageAddress
  forward : Option StageAddress
  reverse : Option StageAddress
  superseded : Bool
  deriving DecidableEq, Repr

/-- The update that is under way. -/
structure ChainTransaction where
  forward : StageAddress
  reverse : StageAddress
  reversing : Bool
  /-- The answers of the owner of this chain and of the other owner; `true` accepts. -/
  own : Option Bool
  other : Option Bool
  deriving DecidableEq, Repr

/-- The stage that is published. -/
def ChainTransaction.published (self : ChainTransaction) : StageAddress :=
  if self.reversing then self.reverse else self.forward

/-- The stages, and who holds which of them. -/
structure StageChain where
  /-- The maximal number of frames of a callback. -/
  maximum : Nat
  stages : StageAddress → GraphStage
  /-- The next stage and the next graph that are allocated. -/
  allocated : StageAddress
  graphs : GraphAddress
  audible : GraphAddress
  /-- The stage that the audio owner runs. -/
  adopted : StageAddress
  /-- The stage of the current generation. -/
  current : StageAddress
  preparations : List Preparation
  transaction : Option ChainTransaction

/-- The steps of the control owner, the preparers and the two audio owners. -/
inductive ChainAct (S : Type) where
  | snapshot
  /-- `prepare_replacement` for a preparation. -/
  | replace (i : Nat) (description : Bool) (graph : Except GraphError Unit) (lookaheadFrames : Nat)
  /-- `prepare_restore` for a preparation. -/
  | restore (i : Nat) (lookaheadFrames : Nat)
  /-- `begin_update`. -/
  | begin (i : Nat)
  /-- The audio owner takes what is published. -/
  | adopt (accepts : Bool)
  /-- The other owner does. -/
  | answer (accepts : Bool)
  /-- `finish_update`. -/
  | finish (commit : Bool)
  | callback (process : GraphAddress → Except GraphError (List S)) (valid : Bool)

namespace StageChain

variable (s : StageChain)

/-- One stage that changes nothing. -/
def initial (maximum : Nat) : StageChain where
  maximum := maximum
  stages := fun _ => .flat 0
  allocated := 1
  graphs := 1
  audible := 0
  adopted := 0
  current := 0
  preparations := []
  transaction := none

/-- A new stage at the next address. -/
def allocate (stage : GraphStage) : StageChain :=
  { s with stages := Function.update s.stages s.allocated stage, allocated := s.allocated + 1 }

/-- A preparation behind a step of its own. -/
def setPreparation (i : Nat) (preparation : Preparation) : StageChain :=
  { s with preparations := s.preparations.set i preparation }

/-- A preparation that is given up. -/
def dropPreparation (i : Nat) : StageChain :=
  { s with preparations := s.preparations.eraseIdx i }

/-- The forward stage of a preparation. -/
def prepareReplacement (i : Nat) (preparation : Preparation) (description : Bool)
    (graph : Except GraphError Unit) (lookaheadFrames : Nat) : StageChain :=
  match replacementGraph s.maximum description (graph.map fun _ => s.graphs)
      (s.stages preparation.base) s.audible lookaheadFrames with
  | .error _ => { s with graphs := s.graphs + 1 }.dropPreparation i
  | .ok none => s.setPreparation i { preparation with forward := some preparation.base }
  | .ok (some stage) =>
    ({ s with graphs := s.graphs + 1 }.allocate stage).setPreparation i
      { preparation with forward := some s.allocated }

/-- The reverse stage of a preparation with a forward stage. -/
def prepareRestore (i : Nat) (preparation : Preparation) (forward : StageAddress)
    (lookaheadFrames : Nat) : StageChain :=
  match Runtime.restore s.maximum (s.stages preparation.base) (s.stages forward) s.audible
      lookaheadFrames with
  | .error _ => s.dropPreparation i
  | .ok none => s.setPreparation i { preparation with reverse := some preparation.base }
  | .ok (some stage) =>
    (s.allocate stage).setPreparation i { preparation with reverse := some s.allocated }

/-- An update is published, and every other preparation has missed its turn. -/
def publish (i : Nat) (forward reverse : StageAddress) : StageChain :=
  { s with
    preparations := (s.preparations.eraseIdx i).map fun p => { p with superseded := true }
    transaction := some ⟨forward, reverse, false, none, none⟩ }

/-- `finish_update`. -/
def finish (commit : Bool) (transaction : ChainTransaction) : StageChain :=
  match commit, transaction.own, transaction.other with
  -- pending
  | _, none, _ => s
  | _, _, none => s
  | true, some true, some true =>
    if transaction.reversing then s
    else { s with current := transaction.forward, transaction := none }
  | true, _, _ => s
  | false, some own, some other =>
    if transaction.reversing then
      if own && other then { s with current := transaction.reverse, transaction := none } else s
    else
      { s with
        transaction := some { transaction with reversing := true, own := none, other := none } }

/-- The owner's callback. -/
def callback {S : Type} (processed : Processed S) : StageChain :=
  { s with
    stages := Function.update s.stages s.adopted processed.stage, audible := processed.audible }

variable {S : Type} (blend : Nat → S → S → S)

/-- A step of the control side or of the callback. -/
def step : ChainAct S → Option StageChain
  | .snapshot =>
    if s.transaction.isSome then none
    else some { s with preparations := s.preparations ++ [⟨s.current, none, none, false⟩] }
  | .replace i description graph lookaheadFrames => match s.preparations[i]? with
    | some ⟨base, none, none, superseded⟩ => some (s.prepareReplacement i
        ⟨base, none, none, superseded⟩ description graph lookaheadFrames)
    | _ => none
  | .restore i lookaheadFrames => match s.preparations[i]? with
    | some ⟨base, some forward, none, superseded⟩ => some (s.prepareRestore i
        ⟨base, some forward, none, superseded⟩ forward lookaheadFrames)
    | _ => none
  | .begin i => match s.transaction, s.preparations[i]? with
    | none, some ⟨_, some forward, some reverse, false⟩ => some (s.publish i forward reverse)
    | _, _ => none
  | .adopt accepts => match s.transaction with
    | some ⟨forward, reverse, reversing, none, other⟩ =>
      let transaction : ChainTransaction := ⟨forward, reverse, reversing, some accepts, other⟩
      some { s with
        adopted := if accepts then transaction.published else s.adopted
        transaction := some transaction }
    | _ => none
  | .answer accepts => match s.transaction with
    | some ⟨forward, reverse, reversing, own, none⟩ =>
      some { s with transaction := some ⟨forward, reverse, reversing, own, some accepts⟩ }
    | _ => none
  | .finish commit => match s.transaction with
    | none => some s
    | some transaction => some (s.finish commit transaction)
  | .callback process valid =>
    some (s.callback (graphProcess blend process valid (s.stages s.adopted) s.audible))

end StageChain

/-- The runs of a chain, from the stage of a first preparation. -/
def stageChain {S : Type} (blend : Nat → S → S → S) : System StageChain (ChainAct S) where
  init s := ∃ maximum, s = .initial maximum
  step s := s.step blend

end UsbRadioPlus.Runtime
