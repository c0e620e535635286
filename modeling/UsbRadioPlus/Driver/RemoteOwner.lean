import UsbRadioPlus.Driver.RemoteRequest
import UsbRadioPlus.Sys.Fallible
import UsbRadioPlus.Sys.Run

/-!
# The owner of a radio's commands (`rust/driver/src/remote_owner.rs`)

`service` takes at most one urgent and one ordinary command from the queue. A command is answered at
once, goes to the engine and waits for its completion there (`pending`), or sets a value of the device
outside the operating state (`auxiliary`), which waits until nothing transmits.

The engine and the device are foreign: what they answer in one call of `service` is an argument
(`ServiceAnswers`), and so is what each look at the source of a command finds, since its holder may
change it at any time. A look at the queue between two calls cannot be told from one before the second:
`submit` is a step of its own. Work that is dropped without a result ends too: its drop completes it as
stopped.
-/

namespace UsbRadioPlus.Driver

open Rust Sys UsbRadioPlus.Core

/-! ## Work -/

/-- What is submitted: a command, or a frame of the port. -/
inductive WorkInput where
  | command (operation : RemoteOperation)
  | parallel (request : ParallelRadioRequest)

namespace WorkInput

/-- The input goes to the urgent queue. -/
def urgent : WorkInput → Bool
  | command operation => operation.urgent
  | parallel _ => false

/-- A command that is not declared is not admitted. -/
def undeclared : WorkInput → Bool
  | command operation => operation.kind.isNone
  | parallel _ => false

end WorkInput

/-- A dequeued request; `id` tells requests with the same input apart. -/
structure RemoteWork where
  id : Nat
  input : WorkInput

/-- `RptAdvRemoteScanSnapshot`: the list of the scan. -/
structure ScanSnapshot where
  list : UInt32
  deriving DecidableEq

/-- `RptAdvRemoteSnapshot`; `isPending` is its flag `RPTADV_REMOTE_PENDING`. -/
structure OwnerSnapshot extends EngineSnapshot where
  isPending : Bool
  deriving DecidableEq

/-- A setting of the rig, and whether it can be read. -/
structure CatalogSetting extends Setting where
  readable : Bool

/-- A list of memories to scan. -/
structure ScanList where
  selector : UInt32
  deriving DecidableEq

/-- What a request is answered with. -/
inductive RemoteReply where
  | applied
  | value (setting : CatalogSetting) (value : Int64)
  | status (requestError : Int) (snapshot : OwnerSnapshot) (scan : Option ScanSnapshot)
  | memories (memories : List RemoteMemory)
  | scans (scans : List ScanList)
  | capabilities (settings : List CatalogSetting)
  | scan (definition : ScanList) (state : Option ScanSnapshot)

/-! ## Preparing a request -/

/-- What the owner is made with. -/
structure OwnerSetup extends RequestConfiguration where
  scanLists : List ScanList
  settings : List CatalogSetting

/-- What one admission meets. -/
structure Admission where
  source : RemoteSource
  snapshot : Except Int OwnerSnapshot
  scanSnapshot : Except Int (Option ScanSnapshot)
  parallelError : Int
  getSetting : Except Int Int64
  request : Except Int UInt64

/-- What an input is prepared to: a setting of the rig, an answer at once, or a request for the
engine. -/
inductive Ready where
  | auxiliary (selector : UInt32) (value : Int64)
  | reply (reply : RemoteReply)
  | core (request : RemoteRequest)

/-- `rejected`: the codes of the engine that have an error of their own. -/
def rejected (code : Int) : RemoteRequestError :=
  if code = -9 then .busy else if code = -10 then .staleSource else .rejected code

namespace Prepared

/-- A result that needs no answer of the rig. -/
def of {α : Type} (r : Except RemoteRequestError α) : Prepared α := ExceptT.mk (some r)

/-- An answer of the engine or the device. -/
def answer {α : Type} (r : Except Int α) : Prepared α := of (r.mapError rejected)

/-- `ok_or_else`. -/
def require {α : Type} (a : Option α) (code : Int) : Prepared α :=
  of (match a with
    | some a => .ok a
    | none => .error (rejected code))

end Prepared

/-- Five values of a page; pages count from one. -/
def page {α : Type} (values : List α) (page : UInt64) : Prepared (List α) :=
  if page = 0 ∨ 2 ^ 64 ≤ (page.toNat - 1) * 5 then Prepared.of (.error (rejected (-1003)))
  else
    let offset := (page.toNat - 1) * 5
    if values.length ≤ offset ∧ offset ≠ 0 then Prepared.of (.error (rejected (-7)))
    else pure ((values.drop offset).take 5)

/-- `signal_value`: acknowledged logical signaling. -/
def signalValue (state : RemoteState) (selector : UInt32) : Option Int64 :=
  let control (signal : RemoteSignal) (value : UInt32) : Option Int64 :=
    if signal.programming = 3 then none else some (Int64.ofNat value.toNat)
  match selector with
  | 400 => some (Int64.ofNat state.encode.source.toNat)
  | 401 => some (Int64.ofNat state.decode.source.toNat)
  | 402 => some (Int64.ofNat state.decode.controlSource.toNat)
  | 403 => some (Int64.ofNat state.encode.inverted.toNat)
  | 404 => some (Int64.ofNat state.decode.inverted.toNat)
  | 12 => control state.encode state.encode.ctcssTenthsHz
  | 13 => control state.decode state.decode.ctcssTenthsHz
  | 14 => control state.encode state.encode.dcsCode
  | 15 => control state.decode state.decode.dcsCode
  | 16 => control state.encode state.encode.enabled
  | 17 => control state.decode state.decode.enabled
  | _ => none

/-- The value of a setting: signaling that is applied, or what the device reads. -/
def settingValue (answers : Admission) (snapshot : OwnerSnapshot) (selector : UInt32) :
    Prepared Int64 :=
  match signalValue snapshot.applied selector with
  | some value => Prepared.of (if snapshot.isApplied then .ok value else .error (rejected (-6)))
  | none => Prepared.answer answers.getSetting

/-- The replies of `prepare`. -/
def query (setup : OwnerSetup) (answers : Admission) (snapshot : OwnerSnapshot)
    (scan : Option ScanSnapshot) (operation : RemoteOperation) :
    RemoteOperationKind → Option (Prepared RemoteReply)
  | .status | .currentStatus => some (pure (.status answers.parallelError snapshot scan))
  | .getSetting => some do
    let setting ← Prepared.require
      (setup.settings.find? fun setting => setting.selector = operation.selector && setting.readable)
      (-6)
    pure (.value setting (← settingValue answers snapshot operation.selector))
  | .memory => some do
    let memory ← Prepared.require
      (setup.memories.find? fun memory => memory.selector = operation.selector) (-7)
    pure (.memories [memory])
  | .catalog => some (match operation.selector with
    | 1 => .capabilities <$> page setup.settings operation.magnitude
    | 2 => .memories <$> page setup.memories operation.magnitude
    | 3 => .scans <$> page setup.scanLists operation.magnitude
    | _ => Prepared.of (.error (rejected (-1003))))
  | .scanStatus => some do
    let definition ← Prepared.require
      (setup.scanLists.find? fun list => list.selector = operation.selector) (-7)
    pure (.scan definition (scan.filter fun scan => scan.list = operation.selector))
  | _ => none

/-- `prepare`. -/
def prepare (setup : OwnerSetup) (answers : Admission) (work : RemoteWork) : Prepared Ready :=
  match work.input with
  | .parallel request => do
    let snapshot ← Prepared.answer answers.snapshot
    let request ← Prepared.of
      (prepareParallelRequest setup.toRequestConfiguration snapshot.toEngineSnapshot request)
    pure (.core request)
  | .command operation => do
    let kind ← Prepared.require operation.kind (-1003)
    let snapshot ← Prepared.answer answers.snapshot
    let scan ← Prepared.answer answers.scanSnapshot
    match query setup answers snapshot scan operation kind with
    | some reply => .reply <$> reply
    | none => do
      let snapshot := if snapshot.isApplied then snapshot.toEngineSnapshot
        else { snapshot.toEngineSnapshot with applied := snapshot.requested }
      match ← prepareRemoteOperation setup.toRequestConfiguration snapshot (scan.map (·.list))
        (setup.settings.map (·.toSetting)) operation with
      | .core request => pure (.core request)
      | .auxiliary selector value => pure (.auxiliary selector value)

/-! ## The owner -/

/-- The flags of `RptAdvRemoteActivity` that are read here. -/
structure Activity where
  physicalPtt : Bool
  renderedPtt : Bool
  commandActive : Bool
  commandCancelled : Bool
  deriving DecidableEq

/-- A setting that waits to be written to the rig. -/
structure Auxiliary where
  work : RemoteWork
  selector : UInt32
  value : Int64

/-- A request that the engine works on, under its number. -/
structure PendingWork where
  id : UInt64
  work : RemoteWork

/-- How work ends. -/
inductive Ending where
  | completed (result : Except RemoteRequestError RemoteReply)
  /-- Other auxiliary work took its place. -/
  | overwritten
  /-- Dropped by an error of the engine, or by the retirement. -/
  | abandoned

/-- History: a request and how it ended. -/
structure EndedWork where
  work : RemoteWork
  ending : Ending

/-- A call of `set_setting`, with what the owner has seen in front of it. -/
structure SettingCall where
  work : RemoteWork
  selector : UInt32
  value : Int64
  source : RemoteSource
  enginePending : Bool
  activity : Activity
  transmitIdle : Except Int Bool

/-- The queue and the owner. -/
structure OwnerState where
  capacity : Nat
  urgent : List RemoteWork
  ordinary : List RemoteWork
  auxiliary : Option Auxiliary
  pending : List PendingWork
  /-- The number of submissions. -/
  submitted : Nat
  /-- History. -/
  dequeued : List RemoteWork
  ended : List EndedWork
  settingCalls : List SettingCall

/-- A step of the owner. -/
abbrev Owning := Fallible OwnerState Int

/-- What one call of `service` meets. -/
structure ServiceAnswers where
  urgent : Admission
  /-- `pending_source`. -/
  pendingSource : RemoteSource
  advance : Except Int Unit
  /-- The completions of the engine, by the number and the result of the request. -/
  completions : List (UInt64 × Int)
  /-- The call of `take_completion` behind them. -/
  drained : Except Int Unit
  ordinary : Admission
  snapshot : Except Int OwnerSnapshot
  /-- The first two looks at the source of auxiliary work, and the one behind `transmit_idle`. -/
  validSource : RemoteSource
  activeSource : RemoteSource
  source : RemoteSource
  transmitIdle : Except Int Bool
  setSetting : Except Int Unit
  finalSnapshot : Except Int OwnerSnapshot

/-- The oldest urgent request. -/
def nextUrgent : Owning (Option RemoteWork) := fun s =>
  match s.urgent with
  | [] => some (.ok none, s)
  | work :: rest => some (.ok (some work), { s with
      urgent := rest
      dequeued := s.dequeued ++ [work] })

/-- The oldest other request. -/
def nextOrdinary : Owning (Option RemoteWork) := fun s =>
  match s.ordinary with
  | [] => some (.ok none, s)
  | work :: rest => some (.ok (some work), { s with
      ordinary := rest
      dequeued := s.dequeued ++ [work] })

/-- The end of a request. -/
def endWork (work : RemoteWork) (ending : Ending) : Owning Unit :=
  Fallible.modify fun s => { s with ended := s.ended ++ [⟨work, ending⟩] }

/-- A request that gets its result. -/
def complete (work : RemoteWork) (result : Except RemoteRequestError RemoteReply) : Owning Unit :=
  endWork work (.completed result)

/-- `self.auxiliary = Some(..)`: what was there is dropped. -/
def hold (auxiliary : Auxiliary) : Owning Unit :=
  Fallible.modify fun s => { s with
    auxiliary := some auxiliary
    ended := s.ended ++ s.auxiliary.toList.map fun old => ⟨old.work, .overwritten⟩ }

/-- A request that the engine has taken. -/
def push (pending : PendingWork) : Owning Unit :=
  Fallible.modify fun s => { s with pending := s.pending ++ [pending] }

/-- `admit`. -/
def admitWork (setup : OwnerSetup) (answers : Admission) (work : RemoteWork) : Owning Unit :=
  if !answers.source.valid then complete work (.error .staleSource)
  else
    match (prepare setup answers work).run with
    | none => Fallible.panicked
    | some (.ok (.reply reply)) => complete work (.ok reply)
    | some (.ok (.auxiliary selector value)) => hold ⟨work, selector, value⟩
    | some (.ok (.core _)) =>
      match answers.request with
      | .ok id => push ⟨id, work⟩
      | .error e => complete work (.error (rejected e))
    | some (.error e) => complete work (.error e)

/-- `admit` of what the queue has. -/
def admitNext (setup : OwnerSetup) (answers : Admission) (next : Owning (Option RemoteWork)) :
    Owning Unit := do
  match ← next with
  | some work => admitWork setup answers work
  | none => pure ()

/-- `Vec::swap_remove`. -/
def swapRemove {α : Type} (values : List α) (index : Nat) : List α :=
  match values.getLast? with
  | none => []
  | some last => if index + 1 = values.length then values.dropLast else values.dropLast.set index last

/-- One completion of the loop. -/
def finish (completion : UInt64 × Int) : Owning Unit := do
  let s ← Fallible.get
  match s.pending.findIdx? fun pending => pending.id = completion.1 with
  | none => pure ()
  | some index =>
    match s.pending[index]? with
    | none => Fallible.panicked
    | some pending => do
      Fallible.modify fun s => { s with pending := swapRemove s.pending index }
      complete pending.work
        (if completion.2 = 0 then .ok .applied else .error (rejected completion.2))

/-- The activity for the engine: the source of the first command that is not urgent. -/
def withSource (pending : List PendingWork) (source : RemoteSource) (activity : Activity) : Activity :=
  if pending.any fun pending => !pending.work.input.urgent then
    { activity with
      commandActive := activity.commandActive || source.active
      commandCancelled := activity.commandCancelled || !source.valid }
  else activity

/-- The auxiliary work that has been taken. -/
def serviceTaken (answers : ServiceAnswers) (activity : Activity) (waiting : Auxiliary) :
    Owning Unit :=
  match answers.snapshot with
  | .error e => do
    endWork waiting.work .abandoned
    Fallible.fail e
  | .ok snapshot =>
    if !answers.validSource.valid then complete waiting.work (.error .staleSource)
    else if answers.activeSource.active || snapshot.isPending || activity.physicalPtt ||
        activity.renderedPtt then hold waiting
    else
      match answers.transmitIdle with
      | .ok false => hold waiting
      | .ok true =>
        if !answers.source.valid then complete waiting.work (.error .staleSource)
        else if answers.source.active then hold waiting
        else do
          Fallible.modify fun s => { s with
            settingCalls := s.settingCalls ++ [⟨waiting.work, waiting.selector, waiting.value,
              answers.source, snapshot.isPending, activity, answers.transmitIdle⟩] }
          complete waiting.work
            ((answers.setSetting.map fun () => .applied).mapError rejected)
      | .error e => complete waiting.work (.error (rejected e))

/-- The setting that waits is written, or waits on. -/
def serviceAuxiliary (answers : ServiceAnswers) (activity : Activity) : Owning Unit := do
  let s ← Fallible.get
  match s.auxiliary with
  | none => pure ()
  | some waiting => do
    Fallible.modify fun s => { s with auxiliary := none }
    serviceTaken answers activity waiting

/-- The next other request, where no setting is being written. -/
def admitOrdinary (setup : OwnerSetup) (answers : Admission) : Owning Unit := do
  let s ← Fallible.get
  Fallible.whenever s.auxiliary.isNone (admitNext setup answers nextOrdinary)

/-- `service`. -/
def service (setup : OwnerSetup) (answers : ServiceAnswers) (activity : Activity) :
    Owning OwnerSnapshot := do
  admitNext setup answers.urgent nextUrgent
  let s ← Fallible.get
  let activity := withSource s.pending answers.pendingSource activity
  answers.completions.forM finish
  Fallible.of answers.drained
  admitOrdinary setup answers.ordinary
  Fallible.whenever answers.advance.isOk (serviceAuxiliary answers activity)
  Fallible.of answers.advance
  Fallible.of answers.finalSnapshot

/-- `retire`: the work that is left is dropped. -/
def OwnerState.retire (s : OwnerState) : OwnerState :=
  { s with
    auxiliary := none
    pending := []
    ended := s.ended ++ s.auxiliary.toList.map (fun held => ⟨held.work, .abandoned⟩) ++
      s.pending.map fun pending => ⟨pending.work, .abandoned⟩ }

/-! ## Runs -/

/-- What happens to the owner. -/
inductive OwnerAct where
  | submit (input : WorkInput)
  | service (answers : ServiceAnswers) (activity : Activity)
  | retire

/-- The queue takes the request, or has no room for it. -/
def OwnerState.submit (s : OwnerState) (input : WorkInput) : OwnerState :=
  let work : RemoteWork := ⟨s.submitted, input⟩
  let s := { s with submitted := s.submitted + 1 }
  if input.undeclared then s
  else if input.urgent then
    if s.urgent.isEmpty then { s with urgent := [work] } else s
  else if s.ordinary.length < s.capacity then { s with ordinary := s.ordinary ++ [work] }
  else s

/-- A step of the owner. -/
def OwnerState.step (setup : OwnerSetup) (s : OwnerState) : OwnerAct → Option OwnerState
  | .submit input => some (s.submit input)
  | .service answers activity => (service setup answers activity s).map (·.2)
  | .retire => some s.retire

/-- The owner without work. -/
def OwnerState.initial (capacity : Nat) : OwnerState := ⟨capacity, [], [], none, [], 0, [], [], []⟩

/-- The runs of an owner. -/
def remoteOwner (setup : OwnerSetup) (capacity : Nat) : System OwnerState OwnerAct where
  init s := s = .initial capacity
  step := OwnerState.step setup

end UsbRadioPlus.Driver
