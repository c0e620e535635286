import Mathlib.Data.List.Basic

/-!
# Graph stages (`rust/runtime/src/processing.rs`)

A stage of the audio path runs a prepared graph. The stage that replaces it keeps leases of the
graphs that may still be audible, primes its own graph behind the audible one and then fades. All
stages of one chain share the word `audible`, which names a graph.

A graph is known by its address. Samples have an arbitrary type; the weighted sum of two of them is
a parameter, as are the samples that a graph gives for the input of a callback.
-/

namespace UsbRadioPlus.Runtime

/-- `GRAPH_TRANSITION_FRAMES` -/
def GRAPH_TRANSITION_FRAMES : Nat := 48

/-- `LIMITER_PRIME_MARGIN_FRAMES` -/
def LIMITER_PRIME_MARGIN_FRAMES : Nat := 256

/-- `PORT_OK` -/
def PORT_OK : Int := 0

/-- `PORT_ERROR` -/
def PORT_ERROR : Int := -1

/-- What the adapter of the graphs fails with. -/
inductive GraphError where
  | incompatibleAdapter
  | invalidArgument
  | adapterFailure
  deriving DecidableEq, Repr

/-- The address of a prepared graph. -/
abbrev GraphAddress := Nat

/-- The graphs in front of a handoff. -/
structure GraphPredecessor where
  current : GraphAddress
  pending : Option GraphAddress
  deriving DecidableEq, Repr

/-- How far the way to the new graph has gone. -/
structure GraphTransition where
  primeRemaining : Nat
  faded : Nat
  usePending : Option Bool
  deriving DecidableEq, Repr

/-- A handoff with its way back. -/
structure GraphHandoff where
  previous : GraphPredecessor
  transition : GraphTransition
  deriving DecidableEq, Repr

/-- A stage, without the word `audible` that it shares. -/
structure GraphStage where
  primary : GraphAddress
  handoff : Option GraphHandoff
  complete : Bool
  deriving DecidableEq, Repr

namespace GraphStage

/-- The stage of `prepare_graph`. -/
def flat (primary : GraphAddress) : GraphStage := ⟨primary, none, true⟩

/-- `lease_for`. -/
def leaseFor (self : GraphStage) (pointer : GraphAddress) : Option GraphAddress :=
  if self.primary = pointer then some self.primary
  else match self.handoff with
    | none => none
    | some handoff =>
      if handoff.previous.current = pointer then some handoff.previous.current
      else handoff.previous.pending.filter (· = pointer)

/-- The stage holds a lease of the graph. -/
def Knows (self : GraphStage) (pointer : GraphAddress) : Prop :=
  self.primary = pointer ∨ ∃ handoff, self.handoff = some handoff ∧
    (handoff.previous.current = pointer ∨ handoff.previous.pending = some pointer)

end GraphStage

/-- `transition_graph`, with the word `audible` as it is loaded. -/
def transitionGraph (maximum : Nat) (primary : GraphAddress) (previous : GraphStage)
    (audible : GraphAddress) (lookaheadFrames : Nat) : Except GraphError GraphStage :=
  match previous.leaseFor audible with
  | none => .error .invalidArgument
  | some current =>
    -- the old owner keeps its audible graph or finishes fading to its primary
    let pending := if current ≠ previous.primary then some previous.primary else none
    .ok {
      primary
      handoff := some {
        previous := ⟨current, pending⟩
        transition := {
          primeRemaining := max (lookaheadFrames + if lookaheadFrames = 0 then
            GRAPH_TRANSITION_FRAMES else LIMITER_PRIME_MARGIN_FRAMES) maximum
          faded := 0
          usePending := none } }
      complete := false }

/-- The stage of a chain in a replacement: the same one, or a transition to a new graph.
`description` tells that the descriptions are equal. -/
def replacementGraph (maximum : Nat) (description : Bool)
    (graph : Except GraphError GraphAddress) (previous : GraphStage) (audible : GraphAddress)
    (lookaheadFrames : Nat) : Except GraphError (Option GraphStage) :=
  if description then .ok none
  else match graph with
    | .error e => .error e
    | .ok primary => (transitionGraph maximum primary previous audible lookaheadFrames).map some

/-- `restore` of `prepare_restore`: the target itself, or an inverse transition to its graph. -/
def restore (maximum : Nat) (target current : GraphStage) (audible : GraphAddress)
    (lookaheadFrames : Nat) : Except GraphError (Option GraphStage) :=
  if target.primary = current.primary then .ok none
  else (transitionGraph maximum target.primary current audible lookaheadFrames).map some

/-! ## The callback -/

/-- What a callback of a stage leaves behind. -/
structure Processed (S : Type) where
  stage : GraphStage
  audible : GraphAddress
  returned : Int
  output : Option (List S)
  /-- History: the graph that ran behind the primary. -/
  predecessor : Option GraphAddress

variable {S : Type} (blend : Nat → S → S → S)

/-- The loop over the samples of the primary and of the predecessor. -/
@[grind =] def mix : GraphTransition → List S → List S → List S × GraphTransition
  | transition, sample :: samples, prior :: priors =>
    if 0 < transition.primeRemaining then
      let rest := mix { transition with primeRemaining := transition.primeRemaining - 1 }
        samples priors
      (prior :: rest.1, rest.2)
    else if transition.faded < GRAPH_TRANSITION_FRAMES then
      let transition := { transition with faded := transition.faded + 1 }
      let rest := mix transition samples priors
      (blend transition.faded prior sample :: rest.1, rest.2)
    else
      let rest := mix transition samples priors
      (sample :: rest.1, rest.2)
  | transition, samples, _ => (samples, transition)

/-- The part of `graph_process` behind the selection of a predecessor. -/
def processHandoff (process : GraphAddress → Except GraphError (List S)) (stage : GraphStage)
    (handoff : GraphHandoff) (usePending : Bool) (audible : GraphAddress) (output : List S) :
    Processed S :=
  let transition := { handoff.transition with usePending := some usePending }
  let stage := { stage with handoff := some { handoff with transition } }
  -- a pending graph that is selected exists
  let previous := if usePending then handoff.previous.pending.getD handoff.previous.current
    else handoff.previous.current
  match process previous with
  | .error _ => ⟨stage, audible, PORT_ERROR, none, some previous⟩
  | .ok priors =>
    let mixed := mix blend transition output priors
    let stage := { stage with handoff := some { handoff with transition := mixed.2 } }
    if mixed.2.faded = GRAPH_TRANSITION_FRAMES then
      ⟨{ stage with complete := true }, stage.primary, PORT_OK, some mixed.1, some previous⟩
    else
      ⟨stage, audible, PORT_OK, some mixed.1, some previous⟩

/-- `graph_process`; `valid` tells that the spans are there and not empty. -/
def graphProcess (process : GraphAddress → Except GraphError (List S)) (valid : Bool)
    (stage : GraphStage) (audible : GraphAddress) : Processed S :=
  if !valid then ⟨stage, audible, PORT_ERROR, none, none⟩
  else match process stage.primary with
    | .error _ => ⟨stage, audible, PORT_ERROR, none, none⟩
    | .ok output =>
      if stage.complete then ⟨stage, audible, PORT_OK, some output, none⟩
      else match stage.handoff with
        -- an incomplete stage has a hand-off
        | none => ⟨stage, audible, PORT_ERROR, none, none⟩
        | some handoff => match handoff.transition.usePending with
          | some selected => processHandoff blend process stage handoff selected audible output
          | none =>
            if stage.primary = audible then
              ⟨{ stage with complete := true }, audible, PORT_OK, some output, none⟩
            else
              processHandoff blend process stage handoff
                (handoff.previous.pending = some audible) audible output

/-! ## Leases -/

namespace GraphStage

variable {self : GraphStage} {pointer : GraphAddress}

theorem leaseFor_eq_some (h : self.Knows pointer) : self.leaseFor pointer = some pointer := by
  unfold leaseFor
  split
  · next hprimary => rw [hprimary]
  · next hprimary =>
    obtain hp | ⟨handoff, hhandoff, hknown⟩ := h
    · exact absurd hp hprimary
    · rw [hhandoff]
      dsimp only
      split
      · next hcurrent => rw [hcurrent]
      · next hcurrent =>
        obtain hc | hp := hknown
        · exact absurd hc hcurrent
        · simp [hp]

theorem leaseFor_eq_none (h : ¬ self.Knows pointer) : self.leaseFor pointer = none := by
  unfold leaseFor
  rw [if_neg fun hprimary => h (.inl hprimary)]
  cases hhandoff : self.handoff with
  | none => rfl
  | some handoff =>
    have hcurrent : handoff.previous.current ≠ pointer :=
      fun hc => h (.inr ⟨handoff, hhandoff, .inl hc⟩)
    have hpending : handoff.previous.pending ≠ some pointer :=
      fun hp => h (.inr ⟨handoff, hhandoff, .inr hp⟩)
    cases hp : handoff.previous.pending with
    | none => simp [hcurrent, hp]
    | some graph =>
      have hgraph : graph ≠ pointer := fun hg => hpending (by rw [hp, hg])
      simp [hcurrent, hp, hgraph]

theorem knows_primary : self.Knows self.primary := .inl rfl

end GraphStage

/-- A stage that no callback has run: nothing is selected yet. -/
structure Waiting (stage : GraphStage) : Prop where
  incomplete : stage.complete = false
  handoff : ∃ handoff, stage.handoff = some handoff ∧ handoff.transition.usePending = none ∧
    handoff.transition.faded = 0

/-- A transition succeeds where the audible graph is known. It leases the audible graph and the
primary of its predecessor. -/
theorem transitionGraph_of_knows {previous : GraphStage} {audible : GraphAddress}
    (h : previous.Knows audible) (maximum : Nat) (primary : GraphAddress) (lookaheadFrames : Nat) :
    ∃ stage, transitionGraph maximum primary previous audible lookaheadFrames = .ok stage ∧
      stage.primary = primary ∧ stage.Knows audible ∧ stage.Knows previous.primary ∧
      Waiting stage := by
  unfold transitionGraph
  rw [GraphStage.leaseFor_eq_some h]
  refine ⟨_, rfl, rfl, .inr ⟨_, rfl, .inl rfl⟩, ?_, ⟨rfl, _, rfl, rfl, rfl⟩⟩
  by_cases hprimary : audible = previous.primary
  · exact .inr ⟨_, rfl, .inl hprimary⟩
  · exact .inr ⟨_, rfl, .inr (by simp [hprimary])⟩

theorem transitionGraph_of_not_knows {previous : GraphStage} {audible : GraphAddress}
    (h : ¬ previous.Knows audible) (maximum : Nat) (primary : GraphAddress)
    (lookaheadFrames : Nat) :
    transitionGraph maximum primary previous audible lookaheadFrames = .error .invalidArgument := by
  unfold transitionGraph
  rw [GraphStage.leaseFor_eq_none h]

end UsbRadioPlus.Runtime
