import UsbRadioPlus.Rust.Word
import UsbRadioPlus.Sys.Mask

/-!
# Spare pins of a bank (`rust/driver/src/hardware_site.rs`)

A site claims spare output pins of a bank of GPIO pins, sets their levels, and says which level a
pin gets when the site lets it go. Every command carries the generation that the site owns; the
generations are tokens of the whole process (`next` is `NEXT_GENERATION`, an atomic counter).
-/

namespace UsbRadioPlus
namespace Driver

open Sys

/-- `u8` -/
abbrev U8 := BitVec 8

/-- `u32` -/
abbrev U32 := BitVec 32

/-- `NEXT_GENERATION.fetch_update`: the token and the counter behind it. -/
def nextGeneration (next : Nat) : Nat × Nat :=
  if next + 1 < WORD then (next, next + 1) else (0, next)

/-- Physical bank already owned by the station's GPIO service. -/
inductive SiteBank where
  | cm119
  | parallel
  deriving DecidableEq, Repr

/-- Result of the most recent physical input acquisition. -/
inductive SiteReadQuality where
  | unavailable
  | valid
  | fault
  deriving DecidableEq, Repr

/-- Invalid or superseded spare-pin command. -/
inductive SiteError where
  | unavailable
  | staleGeneration
  | invalidMask
  | busy
  | fault
  deriving DecidableEq, Repr

/-- A claim of pins. -/
structure SiteDigitalBinding where
  generation : Nat
  /-- The pins that are claimed. -/
  outputMask : U32
  /-- Levels of newly claimed pins. -/
  initialHighMask : U32
  /-- Levels of the pins when they are released. -/
  safeHighMask : U32
  deriving DecidableEq, Repr

/-- Levels for claimed outputs. -/
structure SiteDigitalRequest where
  generation : Nat
  outputMask : U32
  highMask : U32
  deriving DecidableEq, Repr

/-- Cached bank state. -/
structure SiteDigitalSnapshot where
  generation : Nat
  inputMask : U32
  outputMask : U32
  reservedMask : U32
  claimedMask : U32
  requestedHighMask : U32
  submittedHighMask : U32
  submittedGeneration : Nat
  servicedGeneration : Nat
  servicedHighMask : U32
  readbackValidMask : U32
  inputHighMask : U32
  inputQuality : SiteReadQuality
  observedAtMs : Option Nat
  snapshotAtMs : Nat
  rejectedCommands : Nat
  lastCommandError : Option SiteError
  deriving DecidableEq, Repr

/-- A bank with its claims. -/
structure SiteBankState where
  snapshot : SiteDigitalSnapshot
  safeHighMask : U32
  deriving DecidableEq, Repr

namespace SiteBankState

variable (self : SiteBankState)

/-- A bank without claims, under the next generation; and the counter. -/
def new (next : Nat) (inputs outputs reserved initial : U32) : SiteBankState × Nat :=
  let (generation, next) := nextGeneration next
  ({ snapshot := {
      generation
      inputMask := inputs
      outputMask := outputs
      reservedMask := reserved
      claimedMask := 0
      requestedHighMask := initial
      submittedHighMask := 0
      submittedGeneration := 0
      servicedGeneration := 0
      servicedHighMask := 0
      readbackValidMask := 0
      inputHighMask := 0
      inputQuality := .unavailable
      observedAtMs := none
      snapshotAtMs := 0
      rejectedCommands := 0
      lastCommandError := none }
     safeHighMask := 0 }, next)

/-- `validate_generation` -/
def validateGeneration (generation : Nat) : Except SiteError Unit :=
  if generation ≠ 0 ∧ generation = self.snapshot.generation then .ok ()
  else .error .staleGeneration

/-- `validate_binding` -/
def validateBinding (binding : SiteDigitalBinding) : Except SiteError Unit :=
  match self.validateGeneration binding.generation with
  | .error e => .error e
  | .ok () =>
    if binding.outputMask &&& (~~~self.snapshot.outputMask ||| self.snapshot.reservedMask) ≠ 0 then
      .error .unavailable
    else if (binding.initialHighMask ||| binding.safeHighMask) &&& ~~~binding.outputMask ≠ 0 then
      .error .invalidMask
    else .ok ()

/-- The bank, the output byte and the counter behind a binding. -/
def bind (next : Nat) (binding : SiteDigitalBinding) (output : U8) :
    Except SiteError (SiteBankState × U8 × Nat) :=
  match self.validateBinding binding with
  | .error e => .error e
  | .ok () =>
    let (generation, next) := nextGeneration next
    if generation = 0 then .error .staleGeneration
    else
      let removed := self.snapshot.claimedMask &&& ~~~binding.outputMask
      let added := binding.outputMask &&& ~~~self.snapshot.claimedMask
      let value := (output.setWidth 32 &&& ~~~(removed ||| added)) |||
        (self.safeHighMask &&& removed) ||| (binding.initialHighMask &&& added)
      .ok ({
        snapshot := { self.snapshot with
          requestedHighMask := value, claimedMask := binding.outputMask, generation }
        safeHighMask := (self.safeHighMask &&& ~~~binding.outputMask) ||| binding.safeHighMask },
        value.setWidth 8, next)

/-- `validate_request` -/
def validateRequest (request : SiteDigitalRequest) : Except SiteError Unit :=
  match self.validateGeneration request.generation with
  | .error e => .error e
  | .ok () =>
    if request.outputMask &&& ~~~self.snapshot.claimedMask ≠ 0 then .error .unavailable
    else if request.highMask &&& ~~~request.outputMask ≠ 0 then .error .invalidMask
    else .ok ()

/-- The outputs behind a request. -/
def apply (request : SiteDigitalRequest) (output : U8) : Except SiteError (SiteBankState × U8) :=
  match self.validateRequest request with
  | .error e => .error e
  | .ok () =>
    let value := (output.setWidth 32 &&& ~~~request.outputMask) ||| request.highMask
    .ok ({ self with snapshot := { self.snapshot with requestedHighMask := value } },
      value.setWidth 8)

/-- `reject`: a command that changes nothing is counted. -/
def reject (error : SiteError) : SiteBankState :=
  { self with snapshot := { self.snapshot with
      rejectedCommands := min (self.snapshot.rejectedCommands + 1) (WORD - 1)
      lastCommandError := some error } }

/-- `false`: a pin is claimed. -/
def reserve (mask : U32) : SiteBankState × Bool :=
  if self.snapshot.claimedMask &&& mask ≠ 0 then (self.reject .unavailable, false)
  else
    ({ snapshot := { self.snapshot with reservedMask := self.snapshot.reservedMask ||| mask }
       safeHighMask := self.safeHighMask &&& ~~~mask }, true)

/-- Site ownership only excludes pins it has claimed. -/
def permitsOrdinary (mask : U32) : Bool :=
  mask &&& (~~~self.snapshot.outputMask ||| self.snapshot.claimedMask) = 0

/-- Substitute safe levels for site intent. -/
def retiredOutput (output : U8) : U8 :=
  ((output.setWidth 32 &&& ~~~self.snapshot.claimedMask) ||| self.safeHighMask).setWidth 8

/-- End this ownership epoch before safe-output I/O or device replacement. -/
def retire (output : U8) : SiteBankState × U8 :=
  let output := self.retiredOutput output
  ({ self with snapshot := { self.snapshot with
      requestedHighMask := output.setWidth 32, generation := 0, inputQuality := .unavailable } },
    output)

/-- The outputs that are safe when they are high. -/
def safeHigh : U8 := self.safeHighMask.setWidth 8

/-- Restore only unclaimed, available safe levels; keep current bindings intact. -/
def restoreSafeHigh (high : U8) : SiteBankState :=
  let retained := high.setWidth 32 &&& self.snapshot.outputMask &&& ~~~self.snapshot.reservedMask
  { self with safeHighMask := (self.safeHighMask &&& self.snapshot.claimedMask) |||
      (retained &&& ~~~self.snapshot.claimedMask) }

/-- An accepted ordinary command supersedes any retired site's safe level. -/
def releaseSafeHigh (mask : U8) : SiteBankState :=
  { self with safeHighMask := self.safeHighMask &&& ~~~mask.setWidth 32 }

/-- `observe` -/
def observe (value : Option U32) (nowMs : Nat) : SiteBankState :=
  match value with
  | some value => { self with snapshot := { self.snapshot with
      inputHighMask := value &&& self.snapshot.inputMask
      observedAtMs := some nowMs
      inputQuality := .valid } }
  | none => { self with snapshot := { self.snapshot with inputQuality := .fault } }

/-- `submitted` -/
def submitted (value : U32) : SiteBankState :=
  { self with snapshot := { self.snapshot with
      submittedHighMask := value &&& self.snapshot.outputMask
      submittedGeneration := self.snapshot.generation } }

/-- `serviced` -/
def serviced (success : Bool) : SiteBankState :=
  { self with snapshot := { self.snapshot with
      servicedGeneration := if success then self.snapshot.submittedGeneration else 0
      servicedHighMask :=
        if success then self.snapshot.submittedHighMask else self.snapshot.servicedHighMask } }

end SiteBankState
end Driver
end UsbRadioPlus
