import UsbRadioPlus.Sys.Trace

/-!
# The reload coordinator (`asterisk/src/host/reload.rs`)

A reload reads the configuration, closes the control gate, stages the driver, prepares every
channel, prepares the links, activates every channel and commits the driver. A failure on the way
rolls everything back.

The coordinator only sees its host through `ReloadOperations`, so the host is an arbitrary state of
type `σ` and an operation may answer anything. The clock is part of the world: an operation says
how long it takes, and a phase that stays pending ends at its deadline. The lock that serializes
reloads is not modelled: this is one transaction.
-/

namespace UsbRadioPlus.Asterisk

open Sys

/-- `URP_AST_OK` -/
def urpAstOk : Int := 0

/-- `URP_AST_RELOAD_PENDING` -/
def urpAstReloadPending : Int := 1

/-- `URP_AST_SETUP_FAILED` -/
def urpAstSetupFailed : Int := -6

/-- The text of the configuration and where it was read. -/
structure ReloadConfiguration where
  source : String
  text : List UInt8
  deriving DecidableEq, Repr

/-- The phase that failed, with its status. -/
structure ReloadFailure where
  phase : String
  status : Int
  channel : Option Nat
  deriving DecidableEq, Repr

/-- The host and its monotonic clock, in nanoseconds. -/
structure World (σ : Type) where
  host : σ
  clock : Nat

/-- An operation of the host: its answer, the time it takes and the host behind it. -/
abbrev Operation (σ α : Type) := σ → α × Nat × σ

/-- An operation on the host, which takes its time. -/
def Operation.perform {σ α : Type} (operation : Operation σ α) (w : World σ) : α × World σ :=
  let answer := operation w.host
  (answer.1, ⟨answer.2.2, w.clock + answer.2.1⟩)

/-- The operations that the coordinator uses. -/
structure ReloadOperations (σ : Type) where
  readConfiguration : Operation σ (Except Int ReloadConfiguration)
  setControlGate : Bool → Operation σ Unit
  channelCount : σ → Nat
  driverPrepare : ReloadConfiguration → Operation σ Int
  channelPrepare : Nat → Operation σ Int
  linkPrepare : Operation σ Int
  channelActivate : Nat → Operation σ Int
  driverFinish : Bool → Operation σ Int
  linkFinish : Bool → Operation σ Unit
  channelFinish : Nat → Bool → Operation σ Int
  markJitterPending : Nat → Operation σ Unit
  logError : String → Int → Option Nat → Operation σ Unit
  /-- What the host does while the coordinator sleeps, and how much too long the sleep is. -/
  oversleep : Operation σ Unit

/-- A call of the coordinator, with the status that the host answers. -/
inductive Call where
  | readConfiguration (read : Bool)
  | setControlGate (blocked : Bool)
  | channelCount (channels : Nat)
  | driverPrepare (status : Int)
  | channelPrepare (index : Nat) (status : Int)
  | linkPrepare (status : Int)
  | channelActivate (index : Nat) (status : Int)
  | driverFinish (commit : Bool) (status : Int)
  | linkFinish (commit : Bool)
  | channelFinish (index : Nat) (commit : Bool) (status : Int)
  | markJitterPending (index : Nat)
  | logError (phase : String) (status : Int) (channel : Option Nat)
  deriving DecidableEq, Repr

variable {σ : Type}

/-- A part of a reload, with the calls it makes. -/
abbrev Coordinated (σ α : Type) := Traced Call (World σ) α

/-- `complete_phase_until`: poll until the status is not pending or the deadline has passed. -/
def completePhaseUntil (oversleep : Operation σ Unit) (event : Int → Call)
    (operation : Operation σ Int) (deadline : Nat) (w : World σ) : Int × List Call × World σ :=
  let polled := operation.perform w
  let status := polled.1
  if status ≠ urpAstReloadPending then
    (status, [event status], polled.2)
  else if deadline ≤ polled.2.clock then
    (urpAstSetupFailed, [event status], polled.2)
  else
    let slept := oversleep.perform ⟨polled.2.host, polled.2.clock + 1000000⟩
    let rest := completePhaseUntil oversleep event operation deadline slept.2
    (rest.1, event status :: rest.2.1, rest.2.2)
termination_by (deadline - w.clock, ())
decreasing_by
  -- a sleep takes its time; with a plain number the kernel would count the nanoseconds
  have hpolled : polled.2.clock = w.clock + (operation w.host).2.1 := rfl
  simp only [Operation.perform] at *
  exact Prod.Lex.left _ _ (by omega)

namespace ReloadOperations

variable (operations : ReloadOperations σ)

/-- `complete_phase`: a phase has 30 seconds. -/
def completePhase (event : Int → Call) (operation : Operation σ Int) : Coordinated σ Int := fun w =>
  completePhaseUntil operations.oversleep event operation (w.clock + 30000000000) w

/-- An operation that is called once. -/
def once {α : Type} (event : α → Call) (operation : Operation σ α) : Coordinated σ α :=
  .call operation.perform event

/-- A phase that fails ends the reload. -/
def check (phase : String) (status : Int) (channel : Option Nat) : Except ReloadFailure Unit :=
  if status = urpAstOk then .ok () else .error ⟨phase, status, channel⟩

/-- A part of the transaction whose status is checked. -/
def checked (phase : String) (channel : Option Nat) (part : Coordinated σ Int) :
    ExceptT ReloadFailure (Traced Call (World σ)) Unit :=
  ExceptT.mk do return check phase (← part) channel

/-- The part of `reload_gated` that may fail behind `driver_prepare`. -/
def stage (channels : Nat) : ExceptT ReloadFailure (Traced Call (World σ)) Unit := do
  (List.range channels).forM fun index =>
    checked "channel prepare" (some index)
      (operations.completePhase (.channelPrepare index) (operations.channelPrepare index))
  checked "link prepare" none (once .linkPrepare operations.linkPrepare)
  (List.range channels).forM fun index =>
    checked "channel activate" (some index)
      (operations.completePhase (.channelActivate index) (operations.channelActivate index))
  checked "driver commit" none (once (.driverFinish true) (operations.driverFinish true))

/-- An answer other than success is logged. -/
def logUnlessOk (phase : String) (status : Int) (channel : Option Nat) : Coordinated σ Unit :=
  if status ≠ urpAstOk then
    once (fun _ => .logError phase status channel) (operations.logError phase status channel)
  else
    pure ()

/-- The end of the reload for each channel. -/
def finishChannels (phase : String) (commit : Bool) (channels : Nat) : Coordinated σ Unit :=
  (List.range channels).forM fun index => do
    let status ← operations.completePhase (.channelFinish index commit)
      (operations.channelFinish index commit)
    operations.logUnlessOk phase status (some index)

/-- Link, channels and driver go back. -/
def rollback (channels : Nat) : Coordinated σ Unit := do
  once (fun _ => .linkFinish false) (operations.linkFinish false)
  operations.finishChannels "channel rollback" false channels
  let status ← once (.driverFinish false) (operations.driverFinish false)
  operations.logUnlessOk "driver rollback" status none

/-- Link and channels go on with what was activated, and the jitter buffers are marked. -/
def commit (channels : Nat) : Coordinated σ Unit := do
  once (fun _ => .linkFinish true) (operations.linkFinish true)
  operations.finishChannels "channel commit" true channels
  (List.range channels).forM fun index =>
    once (fun _ => .markJitterPending index) (operations.markJitterPending index)

/-- `reload_gated` -/
def reloadGated (configuration : ReloadConfiguration) (channels : Nat) :
    Coordinated σ (Except ReloadFailure Unit) := do
  let status ← once .driverPrepare (operations.driverPrepare configuration)
  if status ≠ urpAstOk then
    return .error ⟨"driver prepare", status, none⟩
  match ← (operations.stage channels).run with
  | .error failure =>
    operations.rollback channels
    return .error failure
  | .ok () =>
    operations.commit channels
    return .ok ()

/-- `reload` -/
def reload : Coordinated σ (Except ReloadFailure Unit) := do
  match ← once (fun read => .readConfiguration read.isOk) operations.readConfiguration with
  | .error status => return .error ⟨"configuration read", status, none⟩
  | .ok configuration =>
    once (fun _ => .setControlGate true) (operations.setControlGate true)
    let channels ← once .channelCount fun host => (operations.channelCount host, 0, host)
    let result ← operations.reloadGated configuration channels
    once (fun _ => .setControlGate false) (operations.setControlGate false)
    return result

end ReloadOperations
end UsbRadioPlus.Asterisk
