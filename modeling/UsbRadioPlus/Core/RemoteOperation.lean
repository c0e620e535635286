/-!
# Remote operations (`core/src/remote_operation.rs`)
-/

namespace UsbRadioPlus.Core

/-- The operations of a remote radio. -/
inductive RemoteOperationKind where
  | recall | frequency | tone | toneEnabled | powerPreset | status | mode | step | scanPreset | tune
  | getSetting | setSetting | startScan | pauseScan | resumeScan | stopScan | scanDirection | skip
  | memory | catalog | scanStatus | inhibit | dwell | resumeDelay | priority | currentStatus
  | invoke
  deriving DecidableEq, Repr

/-- `from_selector`: the identifiers are 1 to 27. -/
def RemoteOperationKind.fromSelector (value : UInt32) : Option RemoteOperationKind :=
  match value with
  | 1 => some .recall
  | 2 => some .frequency
  | 3 => some .tone
  | 4 => some .toneEnabled
  | 5 => some .powerPreset
  | 6 => some .status
  | 7 => some .mode
  | 8 => some .step
  | 9 => some .scanPreset
  | 10 => some .tune
  | 11 => some .getSetting
  | 12 => some .setSetting
  | 13 => some .startScan
  | 14 => some .pauseScan
  | 15 => some .resumeScan
  | 16 => some .stopScan
  | 17 => some .scanDirection
  | 18 => some .skip
  | 19 => some .memory
  | 20 => some .catalog
  | 21 => some .scanStatus
  | 22 => some .inhibit
  | 23 => some .dwell
  | 24 => some .resumeDelay
  | 25 => some .priority
  | 26 => some .currentStatus
  | 27 => some .invoke
  | _ => none

/-- An operation as the interface carries it. -/
structure RemoteOperation where
  structSize : UInt32
  abiVersion : UInt32
  operation : UInt32
  selector : UInt32
  signedValue : Int64
  magnitude : UInt64
  decimalPlaces : UInt32
  flags : UInt32
  deriving DecidableEq

namespace RemoteOperation

/-- The size of the C layout: six words of 32 bits and two of 64 bits. -/
def size : UInt32 := 40

/-- Only the exact layout and a declared operation are admitted. -/
def kind (o : RemoteOperation) : Option RemoteOperationKind :=
  if o.structSize ≠ size ∨ o.abiVersion ≠ 1 then none
  else RemoteOperationKind.fromSelector o.operation

/-- A stop of the scan, and an inhibit that is set, bypass the ordinary queue. -/
def urgent (o : RemoteOperation) : Bool :=
  o.kind = some .stopScan || (o.kind = some .inhibit && o.flags = 1)

end RemoteOperation
end UsbRadioPlus.Core
