import Mathlib.Algebra.Ring.Int.Defs
import Mathlib.Algebra.Ring.Nat
import UsbRadioPlus.Core.Signaling
import UsbRadioPlus.Driver.RemoteQueue

/-!
# Requests to the operating engine (`rust/driver/src/remote_request.rs`)

An operand of an interface becomes one typed request: a copy of the applied state with some fields
edited, and a mask that names them. The engine takes over the fields of the mask only. A generic setting
outside that state is passed on with its scalar.

The records of the engine are those of its header, with the fields that requests use. Arithmetic of
`i128` panics where it overflows (`Prepared`).
-/

namespace UsbRadioPlus.Driver

open Rust UsbRadioPlus.Core

/-! ## Records -/

/-- `RptAdvRemoteSignal`. -/
structure RemoteSignal where
  source : UInt32
  controlSource : UInt32
  enabled : UInt32
  ctcssTenthsHz : UInt32
  dcsCode : UInt32
  inverted : UInt32
  deriving DecidableEq

/-- `RptAdvRemoteState`. -/
structure RemoteState where
  receiveHz : UInt64
  transmitHz : UInt64
  offsetHz : Int64
  ritHz : Int64
  xitHz : Int64
  flags : BitVec 32
  mode : UInt32
  bandwidthHz : UInt32
  receiveVfo : UInt32
  transmitVfo : UInt32
  powerMw : UInt32
  channel : UInt32
  encode : RemoteSignal
  decode : RemoteSignal
  deriving DecidableEq

/-- `RptAdvRemoteSnapshot`; `isApplied` is its flag `RPTADV_REMOTE_APPLIED`. -/
structure EngineSnapshot where
  isApplied : Bool
  applied : RemoteState
  requested : RemoteState
  deriving DecidableEq

/-- `RptAdvRemoteRequestKind`. -/
inductive RemoteRequestKind where
  | set | recall | inhibit | tune
  | scanStart | scanPause | scanResume | scanStop | scanDirection | scanSkip | scanDwell
  | scanResumeDelay | scanPriority
  deriving DecidableEq, Repr

/-- `RptAdvRemoteRequest`. -/
structure RemoteRequest where
  kind : RemoteRequestKind
  state : RemoteState
  fields : BitVec 64
  selector : UInt32
  valueMs : UInt64
  direction : UInt32
  deriving DecidableEq

/-- One adapter-neutral operating capability. -/
structure Setting where
  selector : UInt32
  writable : Bool
  valueKind : UInt32
  units : UInt32
  decimalPlaces : UInt32
  minimum : Int64
  maximum : Int64
  choices : List Int64
  deriving DecidableEq

/-- A configured memory: its selector and the channel of its state. -/
structure RemoteMemory where
  selector : UInt32
  channel : Option UInt8
  deriving DecidableEq

/-- What requests read of `ResolvedRemoteConfiguration`. -/
structure RequestConfiguration where
  memories : List RemoteMemory
  offsetMagnitudeHz : Option UInt64
  powerPresetsMw : Vector (Option UInt32) 3
  scanPresetsMs : Vector (Option UInt64) 3
  tuneDurationMs : UInt64

/-- What an operation is prepared to. -/
inductive PreparedRemoteOperation where
  | core (request : RemoteRequest)
  | auxiliary (selector : UInt32) (value : Int64)
  deriving DecidableEq

/-- A result, or a panic. -/
abbrev Prepared (α : Type) : Type := ExceptT RemoteRequestError Option α

/-- An argument that is out of range. -/
def invalid : RemoteRequestError := .rejected (-1003)

/-- An operation that the rig does not have. -/
def unsupported : RemoteRequestError := .rejected (-6)

/-! ## Parallel frames -/

/-- A signal with the tone of a frame. -/
def RemoteSignal.withTone (signal : RemoteSignal) (tone : Option CtcssTone) : RemoteSignal :=
  match tone with
  | none => { signal with enabled := 0 }
  | some tone => { signal with
      enabled := 1
      ctcssTenthsHz := tone.tenthsHz.toUInt32
      dcsCode := 0
      inverted := 0 }

/-- A request in front of its edits. -/
def RemoteRequest.zeroed (state : RemoteState) : RemoteRequest := ⟨.set, state, 0, 0, 0, 0⟩

/-- A request that recalls a memory leaves its state zero, which the engine does not read. -/
def RemoteState.zero : RemoteState :=
  ⟨0, 0, 0, 0, 0, 0, 0, 0, 0, 0, 0, 0, ⟨0, 0, 0, 0, 0, 0⟩, ⟨0, 0, 0, 0, 0, 0⟩⟩

/-- `prepare_parallel_request` -/
def prepareParallelRequest (config : RequestConfiguration) (snapshot : EngineSnapshot) :
    ParallelRadioRequest → Except RemoteRequestError RemoteRequest
  | .selectChannel channel => do
    if channel > 15 then throw invalid
    match config.memories.find? (·.channel = some channel) with
    | none => throw unsupported
    | some memory =>
      pure { RemoteRequest.zeroed .zero with kind := .recall, selector := memory.selector }
  | .configure input =>
    let state := if snapshot.isApplied then snapshot.applied else snapshot.requested
    pure { RemoteRequest.zeroed state with
      state := { state with
        receiveHz := input.receiveHz.toUInt64
        transmitHz := input.transmitHz.toUInt64
        flags := (state.flags &&& ~~~1#32) ||| if input.transmitHz ≠ 0 then 1#32 else 0#32
        offsetHz := 0
        mode := 1
        encode := state.encode.withTone input.transmitCtcss
        decode := state.decode.withTone input.receiveCtcss }
      fields := 1#64 ||| 2#64 ||| 4#64 ||| 64#64 ||| 1024#64 ||| 2048#64 }

/-! ## Scalars -/

/-- A result of `i128` arithmetic. -/
def i128 (x : Int) : Prepared Int := if -2 ^ 127 ≤ x ∧ x < 2 ^ 127 then pure x else ExceptT.mk none

/-- `i64::try_from`. -/
def tryI64 (x : Int) : Prepared Int64 :=
  if -2 ^ 63 ≤ x ∧ x < 2 ^ 63 then pure (Int64.ofInt x) else throw invalid

/-- `u64::try_from`. -/
def tryU64 (x : Int) : Prepared UInt64 :=
  if 0 ≤ x ∧ x < 2 ^ 64 then pure (UInt64.ofNat x.toNat) else throw invalid

/-- `u32::try_from`. -/
def tryU32 (x : UInt64) : Prepared UInt32 :=
  if x.toNat < 2 ^ 32 then pure x.toUInt32 else throw invalid

/-- The magnitude with its sign. -/
def signedMagnitude (operation : RemoteOperation) : Int :=
  if operation.flags &&& 1 ≠ 0 then -(operation.magnitude.toNat : Int) else operation.magnitude.toNat

/-- The value in the decimal places of the setting. -/
def rescale (value : Int) (places entered : UInt32) : Prepared Int := do
  if entered ≤ places then
    let factor ← i128 (10 ^ (places.toNat - entered.toNat))
    i128 (value * factor)
  else
    let divisor ← i128 (10 ^ (entered.toNat - places.toNat))
    if value.tmod divisor ≠ 0 then throw invalid
    i128 (value.tdiv divisor)

/-- The value of the entered digits as a DCS code. -/
def octal (value : Int64) : Prepared Int64 :=
  match DcsCode.parse (formatWidth 3 value.toInt ++ ['N']) with
  | none => throw invalid
  | some code => pure (Int64.ofNat code.value)

/-- The value of a setting that can be written. -/
def scalar (setting : Setting) (operation : RemoteOperation) : Prepared Int64 := do
  if !setting.writable || !(1 ≤ setting.valueKind && setting.valueKind ≤ 5) then throw unsupported
  if operation.flags &&& ~~~1 ≠ 0 || 6 < operation.decimalPlaces || 6 < setting.decimalPlaces ||
      (operation.flags &&& 1 ≠ 0 &&
        (setting.valueKind = 1 || setting.valueKind = 2 || setting.valueKind = 5)) then
    throw invalid
  let value ← i128 (signedMagnitude operation)
  let value ← rescale value setting.decimalPlaces operation.decimalPlaces
  let value ← tryI64 value
  let value ←
    if setting.units = 3 then
      if operation.decimalPlaces ≠ 0 then throw invalid
      else octal value
    else pure value
  if value < setting.minimum || setting.maximum < value ||
      (!setting.choices.isEmpty && !setting.choices.contains value) then
    throw invalid
  pure value

/-! ## Operations -/

/-- A preset, of which there are three. -/
def preset {α : Type} (presets : Vector (Option α) 3) (selector : UInt32) : Prepared α :=
  match presets[selector.toNat]?.join with
  | none => throw unsupported
  | some value => pure value

/-- The configured magnitude of the offset. -/
def offsetMagnitude (config : RequestConfiguration) : Prepared Int64 :=
  match config.offsetMagnitudeHz with
  | none => throw unsupported
  | some value => tryI64 value.toNat

/-- The source that programs a signal. -/
def RemoteSignal.programming (signal : RemoteSignal) : UInt32 :=
  if signal.controlSource = 0 then signal.source else signal.controlSource

/-- The signal that an operation edits, with its bit. -/
def RemoteState.signal (state : RemoteState) (encode : Bool) : RemoteSignal :=
  if encode then state.encode else state.decode

/-- The state with a new signal of one direction. -/
def RemoteState.setSignal (state : RemoteState) (encode : Bool) (signal : RemoteSignal) :
    RemoteState :=
  if encode then { state with encode := signal } else { state with decode := signal }

/-- An edit of one signal. -/
def RemoteRequest.edit (request : RemoteRequest) (encode : Bool)
    (change : RemoteSignal → Prepared RemoteSignal) : Prepared RemoteRequest := do
  let signal ← change (request.state.signal encode)
  pure { request with
    state := request.state.setSignal encode signal
    fields := if encode then 1024 else 2048 }

/-- The offset of the flags: minus, simplex or plus. -/
def frequencyOffset (config : RequestConfiguration) (flags : UInt32) : Prepared Int64 :=
  match flags with
  | 1 => (- ·) <$> offsetMagnitude config
  | 2 => pure 0
  | 3 => offsetMagnitude config
  | _ => throw invalid

/-- `Kind::Frequency`. -/
def prepareFrequency (config : RequestConfiguration) (operation : RemoteOperation)
    (request : RemoteRequest) : Prepared RemoteRequest := do
  let offsetHz ← frequencyOffset config operation.flags
  pure { request with
    state := { request.state with
      offsetHz
      receiveHz := operation.magnitude
      transmitHz := if request.state.flags &&& 1 ≠ 0 then operation.magnitude
        else request.state.transmitHz
      flags := request.state.flags &&& ~~~8#32 }
    fields := 1#64 ||| 2#64 ||| 64#64 ||| 1#64 <<< 13 }

/-- `Kind::Step`. -/
def prepareStep (operation : RemoteOperation) (request : RemoteRequest) : Prepared RemoteRequest := do
  let shifted (value : UInt64) : Prepared UInt64 := do
    tryU64 (← i128 (value.toNat + operation.signedValue.toInt))
  let receiveHz ← shifted request.state.receiveHz
  if request.state.flags &&& 1 ≠ 0 then
    let transmitHz ← shifted request.state.transmitHz
    pure { request with
      state := { request.state with receiveHz, transmitHz }
      fields := 1#64 ||| 2#64 }
  else pure { request with state := { request.state with receiveHz }, fields := 1 }

/-- `Kind::Tone` and `Kind::ToneEnabled`. -/
def prepareTone (enable : Bool) (operation : RemoteOperation) (request : RemoteRequest) :
    Prepared RemoteRequest := do
  if operation.flags &&& ~~~3 ≠ 0 then throw invalid
  request.edit (operation.flags &&& 1 ≠ 0) fun signal => do
    if enable then pure { signal with enabled := if operation.flags &&& 2 ≠ 0 then 1 else 0 }
    else
      if signal.controlSource = 2 || (signal.controlSource = 0 && signal.source = 2) then
        throw unsupported
      if !(500 ≤ operation.magnitude && operation.magnitude ≤ 3000) then throw invalid
      pure { signal with
        ctcssTenthsHz := operation.magnitude.toUInt32
        dcsCode := 0
        inverted := 0 }

/-- The edit of a signal by the selectors 12 to 17. -/
def programSignal (selector : UInt32) (value : Int64) (signal : RemoteSignal) :
    Prepared RemoteSignal := do
  if (selector ≤ 15 && signal.programming = 2) ||
      ((selector = 14 || selector = 15) && signal.programming = 3) then
    throw unsupported
  let value ← tryU32 (← tryU64 value.toInt)
  if selector = 12 || selector = 13 then
    pure { signal with ctcssTenthsHz := value, dcsCode := 0, inverted := 0 }
  else if selector = 14 || selector = 15 then
    pure { signal with dcsCode := value, ctcssTenthsHz := 0 }
  else pure { signal with enabled := value }

/-- The edit of a signal by the selectors 400 to 404. -/
def routeSignal (selector : UInt32) (value : Int64) (signal : RemoteSignal) :
    Prepared RemoteSignal := do
  let value ← tryU32 (← tryU64 value.toInt)
  if selector = 400 || selector = 401 then pure { signal with source := value }
  else if selector = 402 then pure { signal with controlSource := value }
  else pure { signal with inverted := value }

/-- A flag of the state. -/
def RemoteState.setFlag (state : RemoteState) (flag : BitVec 32) (value : Int64) : RemoteState :=
  { state with flags := (state.flags &&& ~~~flag) ||| if value ≠ 0 then flag else 0 }

/-- The value of a setting in the state of the request. -/
def prepareValue (selector : UInt32) (value : Int64) (request : RemoteRequest) :
    Prepared PreparedRemoteOperation := do
  let positive := tryU64 value.toInt
  let core (state : RemoteState) (fields : BitVec 64) : Prepared PreparedRemoteOperation :=
    pure (.core { request with state, fields })
  match selector with
  | 1 => core { request.state with receiveHz := ← positive } 1
  | 2 => core { request.state with
      transmitHz := ← positive
      flags := request.state.flags ||| 1 } 2
  | 3 => core { request.state with mode := ← tryU32 (← positive) } 4
  | 4 => core { request.state with bandwidthHz := ← tryU32 (← positive) } 8
  | 5 => core { request.state with receiveVfo := ← tryU32 (← positive) } 16
  | 6 => core { request.state with transmitVfo := ← tryU32 (← positive) } 32
  | 7 => core (request.state.setFlag 8 value) (1#64 <<< 13)
  | 20 => throw unsupported
  | 8 => core { request.state with offsetHz := value } 64
  | 9 => core { request.state with ritHz := value } 128
  | 10 => core { request.state with xitHz := value } 256
  | 307 => core (request.state.setFlag 16 value) (1#64 <<< 14)
  | 308 => core (request.state.setFlag 32 value) (1#64 <<< 15)
  | 22 | 23 => throw unsupported
  | 11 => core { request.state with
      powerMw := ← tryU32 (← positive)
      flags := request.state.flags ||| 2 } 512
  | 12 | 14 | 16 => .core <$> request.edit true (programSignal selector value)
  | 13 | 15 | 17 => .core <$> request.edit false (programSignal selector value)
  | 400 | 403 => .core <$> request.edit true (routeSignal selector value)
  | 401 | 402 | 404 => .core <$> request.edit false (routeSignal selector value)
  | _ => pure (.auxiliary selector value)

/-- `Kind::SetSetting`. -/
def prepareSetting (settings : List Setting) (operation : RemoteOperation) (request : RemoteRequest) :
    Prepared PreparedRemoteOperation :=
  match settings.find? (·.selector = operation.selector) with
  | none => throw unsupported
  | some setting => do prepareValue operation.selector (← scalar setting operation) request

/-- The list of a scan, where there is one (`scan`). -/
def prepareRemoteOperation (config : RequestConfiguration) (current : EngineSnapshot)
    (scan : Option UInt32) (settings : List Setting) (operation : RemoteOperation) :
    Prepared PreparedRemoteOperation :=
  let request := { RemoteRequest.zeroed current.applied with
    selector := operation.selector
    valueMs := operation.magnitude }
  match operation.kind with
  | none => throw invalid
  | some .recall => pure (.core { request with kind := .recall })
  | some .frequency => .core <$> prepareFrequency config operation request
  | some .mode => pure (.core { request with
      state := { request.state with mode := operation.selector, bandwidthHz := 0 }
      fields := 12 })
  | some .step => .core <$> prepareStep operation request
  | some .powerPreset => do
    let powerMw ← preset config.powerPresetsMw operation.selector
    pure (.core { request with
      state := { request.state with powerMw, flags := request.state.flags ||| 2 }
      fields := 1#64 <<< 9 })
  | some .tone => .core <$> prepareTone false operation request
  | some .toneEnabled => .core <$> prepareTone true operation request
  | some .startScan => pure (.core { request with kind := .scanStart, direction := 1 })
  | some .scanPreset =>
    match scan with
    | none => throw unsupported
    | some list => do
      let valueMs ← preset config.scanPresetsMs operation.selector
      pure (.core { request with
        kind := .scanStart
        direction := operation.flags &&& 1
        selector := list
        valueMs })
  | some .pauseScan => pure (.core { request with kind := .scanPause })
  | some .resumeScan => pure (.core { request with kind := .scanResume })
  | some .stopScan => pure (.core { request with kind := .scanStop })
  | some .scanDirection => do
    if 1 < operation.flags then throw invalid
    pure (.core { request with kind := .scanDirection, direction := operation.flags })
  | some .skip => pure (.core { request with kind := .scanSkip })
  | some .dwell => pure (.core { request with kind := .scanDwell })
  | some .resumeDelay => pure (.core { request with kind := .scanResumeDelay })
  | some .priority => pure (.core { request with kind := .scanPriority })
  | some .inhibit => do
    if 1 < operation.flags then throw invalid
    pure (.core { request with kind := .inhibit, selector := operation.flags })
  | some .tune => pure (.core { request with kind := .tune, valueMs := config.tuneDurationMs })
  | some .setSetting => prepareSetting settings operation request
  | _ => throw unsupported

end UsbRadioPlus.Driver
