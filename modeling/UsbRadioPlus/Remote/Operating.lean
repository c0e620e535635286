import UsbRadioPlus.Remote.Configuration
import UsbRadioPlus.Rust.Checked
import UsbRadioPlus.Sys.Exchange

/-!
# Operating a rig (`rust/remote/src/operating.rs`)

A requested state is checked against the settings that the rig declares (`validate`) and then written in
a fixed order (`apply`). Between two exchanges the owner may cancel; the rig may fail each of them.

The rig is foreign: which exchanges are cancelled or fail are the answers of `Sys.Exchange`. The
reading of a setting is left out, as no function here reads.
-/

namespace UsbRadioPlus
namespace Remote

open Rust Sys Sys.Exchange
open Driver (CallError Setting)

/-- An exchange with the rig (`HamlibRig`). -/
inductive RigExchange where
  | set (selector : UInt32) (value : Int)
  | setModeWidth (mode : Int) (width : UInt32)
  | setSplitVfos (receive : Int) (enabled : Bool) (transmit : Int)
  | setPowerMw (power : UInt32) (transmitHz : Nat) (mode : Int)
  | setSplitModeWidth (mode : Int) (width : UInt32)
  deriving DecidableEq, Repr

/-- The settings of the rig and what was read back last. -/
structure HamlibOperating where
  settings : List Setting
  lastObserved : Option RptAdvRemoteState

/-- `state.flags & flag != 0`. -/
def flagged (state : RptAdvRemoteState) (flag : BitVec 32) : Bool := state.flags &&& flag ≠ 0#32

/-- The state is split. -/
def split (state : RptAdvRemoteState) : Bool := flagged state 8#32

/-- The power is set where it and the transmit frequency are there. -/
def powered (state : RptAdvRemoteState) : Bool := state.flags &&& 3#32 = 3#32

/-- The rig programs the signal. -/
def isRig (signal : RptAdvRemoteSignal) : Bool :=
  signal.controlSource == 3 || signal.controlSource == 0 && signal.source == 3

/-- The rig is to send, or to expect, the signal. -/
def armed (signal : RptAdvRemoteSignal) : Bool := isRig signal && signal.enabled ≠ 0

/-- The signals, with the selectors of their code and enablement. -/
def signals (state : RptAdvRemoteState) : List (RptAdvRemoteSignal × UInt32 × UInt32) :=
  [(state.encode, 12, 16), (state.decode, 13, 17)]

/-- The error of a state that the rig cannot take. -/
def refuse (c : Bool) : Except CallError Unit := if c then .error (-6) else .ok ()

/-- `i64::try_from`. -/
def toI64 (value : UInt64) : Except CallError Int :=
  if value.toNat < 2 ^ 63 then .ok value.toNat else .error (-1003)

/-- The frequency that is transmitted. -/
def effectiveTransmit (state : RptAdvRemoteState) : Except CallError Nat :=
  match (checkedAddSigned (2 ^ 64) state.transmitHz.toNat state.offsetHz.toInt).bind fun value =>
      checkedAddSigned (2 ^ 64) value (if flagged state 32#32 then state.xitHz.toInt else 0) with
  | some transmit => .ok transmit
  | none => .error (-1003)

/-- `sort_by_key` with a key of type `bool`: stable. -/
def sortByKey {α : Type} (key : α → Bool) (l : List α) : List α :=
  l.filter (!key ·) ++ l.filter key

/-- The exchange, unless the owner cancels it. -/
def call (answers : Answers CallError) (operation : Except CallError RigExchange) :
    Exchanging CallError RigExchange Unit := Exchange.call (-10) answers operation

namespace HamlibOperating

/-- The rig has the setting, and it can be written. -/
def writable (self : HamlibOperating) (selector : UInt32) : Bool :=
  self.settings.any fun setting => setting.selector == selector && setting.writable

/-- A setting that the state needs. -/
def require (self : HamlibOperating) (selector : UInt32) (needed : Bool) : Except CallError Unit :=
  refuse (needed && !self.writable selector)

/-- The rig can take a signal. -/
def validateSignal (self : HamlibOperating) (s : RptAdvRemoteSignal × UInt32 × UInt32) :
    Except CallError Unit :=
  -- Code writes alone do not establish independent DCS arm/disarm.
  if armed s.1 then do
    refuse (s.1.dcsCode ≠ 0 || s.1.inverted ≠ 0)
    self.require s.2.1 true
    self.require s.2.2 true
  else .ok ()

/-- `validate`: the rig can take the whole state. -/
def validate (self : HamlibOperating) (state : RptAdvRemoteState) : Except CallError Unit := do
  self.require 1 true
  self.require 3 true
  self.require 4 true
  self.require 5 (state.receiveVfo ≠ 0)
  self.require 7 (split state)
  self.require 2 (split state)
  self.require 22 (split state)
  self.require 23 (split state)
  self.require 8 (state.offsetHz ≠ 0)
  self.require 9 (state.ritHz ≠ 0)
  self.require 10 (state.xitHz ≠ 0)
  self.require 307 (flagged state 16#32)
  self.require 308 (flagged state 32#32)
  refuse (flagged state 4#32)
  self.require 11 (powered state)
  refuse (!split state && flagged state 1#32 && state.receiveHz ≠ state.transmitHz)
  (signals state).forM self.validateSignal

/-- The offsets: selector, value, flag of enablement and last observed value. -/
def offsets (self : HamlibOperating) (state : RptAdvRemoteState) :
    List (UInt32 × Int64 × BitVec 32 × Option Int64) :=
  [(9, state.ritHz, 16#32, self.lastObserved.map (·.ritHz)),
    (10, state.xitHz, 32#32, self.lastObserved.map (·.xitHz))]

/-- The offset is written: it is active, or not known to be there already. -/
def writesOffset (self : HamlibOperating) (state : RptAdvRemoteState)
    (o : UInt32 × Int64 × BitVec 32 × Option Int64) : Bool :=
  self.writable o.1 && (flagged state o.2.2.1 || o.2.2.2.all (· ≠ o.2.1))

/-- `apply`: the calls in their order, up to the first that fails. -/
def apply (self : HamlibOperating) (answers : Answers CallError) (state : RptAdvRemoteState) :
    Exchanging CallError RigExchange Unit := do
  Fallible.of (self.validate state)
  Fallible.whenever (state.receiveVfo ≠ 0) (call answers (.ok (.set 5 state.receiveVfo.toNat)))
  Fallible.whenever (self.writable 7)
    (call answers (.ok (.setSplitVfos state.receiveVfo.toNat (split state) state.transmitVfo.toNat)))
  call answers (.ok (.setModeWidth state.mode.toNat state.bandwidthHz))
  call answers ((toI64 state.receiveHz).map (.set 1))
  Fallible.whenever (split state) do
    call answers ((toI64 state.transmitHz).map (.set 2))
    call answers (.ok (.setSplitModeWidth state.mode.toNat state.bandwidthHz))
  Fallible.whenever (self.writable 8) (call answers (.ok (.set 8 state.offsetHz.toInt)))
  -- An active register wins when only one side is enabled.
  (sortByKey (flagged state ·.2.2.1) (self.offsets state)).forM fun o =>
    Fallible.whenever (self.writesOffset state o) (call answers (.ok (.set o.1 o.2.1.toInt)))
  [(307, 16#32), (308, 32#32)].forM fun e =>
    Fallible.whenever (self.writable e.1)
      (call answers (.ok (.set e.1 (if flagged state e.2 then 1 else 0))))
  Fallible.whenever (powered state) do
    let transmit ← Fallible.of (effectiveTransmit state)
    call answers (.ok (.setPowerMw state.powerMw transmit state.mode.toNat))
  (signals state).forM fun s => do
    Fallible.whenever (isRig s.1 && s.1.ctcssTenthsHz ≠ 0)
      (call answers (.ok (.set s.2.1 s.1.ctcssTenthsHz.toNat)))
    Fallible.whenever (self.writable s.2.2)
      (call answers (.ok (.set s.2.2 (if armed s.1 then 1 else 0))))

/-! ## The program of a state -/

/-- A check or a call of the rig. -/
abbrev RigStep : Type := Step CallError RigExchange

/-- One exchange, where a condition holds. -/
def when (c : Bool) (x : Except CallError RigExchange) : List RigStep := if c then [.call x] else []

/-- The calls that set the power. -/
def powerSteps (state : RptAdvRemoteState) : List RigStep :=
  if powered state then
    match effectiveTransmit state with
    | .error e => [.check (.error e)]
    | .ok transmit => [.call (.ok (.setPowerMw state.powerMw transmit state.mode.toNat))]
  else []

/-- The calls that set the transmit frequency. -/
def splitSteps (state : RptAdvRemoteState) : List RigStep :=
  if split state then
    [.call ((toI64 state.transmitHz).map (.set 2)),
      .call (.ok (.setSplitModeWidth state.mode.toNat state.bandwidthHz))]
  else []

/-- The calls that set the offsets, those first that are switched off. -/
def offsetSteps (self : HamlibOperating) (state : RptAdvRemoteState) : List RigStep :=
  (sortByKey (flagged state ·.2.2.1) (self.offsets state)).flatMap fun o =>
    when (self.writesOffset state o) (.ok (.set o.1 o.2.1.toInt))

/-- The calls that switch RIT and XIT. -/
def enableSteps (self : HamlibOperating) (state : RptAdvRemoteState) : List RigStep :=
  [(307, 16#32), (308, 32#32)].flatMap fun e =>
    when (self.writable e.1) (.ok (.set e.1 (if flagged state e.2 then 1 else 0)))

/-- The calls that set the signal of one direction. -/
def signalSteps (self : HamlibOperating) (s : RptAdvRemoteSignal × UInt32 × UInt32) : List RigStep :=
  when (isRig s.1 && s.1.ctcssTenthsHz ≠ 0) (.ok (.set s.2.1 s.1.ctcssTenthsHz.toNat)) ++
    when (self.writable s.2.2) (.ok (.set s.2.2 (if armed s.1 then 1 else 0)))

/-- The calls in front of the signals. -/
def tuningSteps (self : HamlibOperating) (state : RptAdvRemoteState) : List RigStep :=
  when (state.receiveVfo ≠ 0) (.ok (.set 5 state.receiveVfo.toNat)) ++
  when (self.writable 7)
    (.ok (.setSplitVfos state.receiveVfo.toNat (split state) state.transmitVfo.toNat)) ++
  [.call (.ok (.setModeWidth state.mode.toNat state.bandwidthHz))] ++
  [.call ((toI64 state.receiveHz).map (.set 1))] ++
  splitSteps state ++ when (self.writable 8) (.ok (.set 8 state.offsetHz.toInt))

/-- The steps behind an accepted validation. -/
def program (self : HamlibOperating) (state : RptAdvRemoteState) : List RigStep :=
  self.tuningSteps state ++ self.offsetSteps state ++ self.enableSteps state ++ powerSteps state ++
    (signals state).flatMap self.signalSteps

theorem whenever_call {c : Bool} {x : Except CallError RigExchange} {answers : Answers CallError} :
    Fallible.whenever c (call answers x) = perform (-10) answers (when c x) := by
  rw [when, ← whenever_perform, perform_singleton]
  rfl

theorem whenever_split {answers : Answers CallError} {state : RptAdvRemoteState} :
    (Fallible.whenever (split state) do
      call answers ((toI64 state.transmitHz).map (.set 2))
      call answers (.ok (.setSplitModeWidth state.mode.toNat state.bandwidthHz))) =
      perform (-10) answers (splitSteps state) := by
  rw [splitSteps, ← whenever_perform, perform_pair]
  rfl

theorem whenever_power {answers : Answers CallError} {state : RptAdvRemoteState} :
    (Fallible.whenever (powered state) do
      let transmit ← Fallible.of (effectiveTransmit state)
      call answers (.ok (.setPowerMw state.powerMw transmit state.mode.toNat))) =
      perform (-10) answers (powerSteps state) := by
  rw [powerSteps, ← whenever_perform]
  cases effectiveTransmit state <;> rw [perform_singleton] <;> rfl

theorem whenever_signal {self : HamlibOperating} {answers : Answers CallError}
    (s : RptAdvRemoteSignal × UInt32 × UInt32) :
    (do
      Fallible.whenever (isRig s.1 && s.1.ctcssTenthsHz ≠ 0)
        (call answers (.ok (.set s.2.1 s.1.ctcssTenthsHz.toNat)))
      Fallible.whenever (self.writable s.2.2)
        (call answers (.ok (.set s.2.2 (if armed s.1 then 1 else 0))))) =
      perform (-10) answers (self.signalSteps s) := by
  rw [signalSteps, perform_append, whenever_call, whenever_call]

theorem apply_eq (self : HamlibOperating) (answers : Answers CallError) (state : RptAdvRemoteState) :
    self.apply answers state =
      Fallible.of (self.validate state) >>= fun _ => perform (-10) answers (self.program state) := by
  simp only [program, tuningSteps, List.append_assoc, perform_append, perform_singleton, ← whenever_split,
    ← whenever_power, ← whenever_call, offsetSteps, enableSteps, ← forM_eq_perform whenever_signal,
    ← forM_eq_perform (fun _ => whenever_call)]
  rfl

end HamlibOperating
end Remote
end UsbRadioPlus
