import Mathlib.Data.List.Nodup
import UsbRadioPlus.Rust.Str

/-!
# Order of the optional stages (`rust/core/src/stage_order.rs`)

A `StageOrder` names no stage twice.
-/

namespace UsbRadioPlus
namespace Core

open Rust Rust.Str

/-- Reorderable stage in one source processing chain. -/
inductive ProcessingStage where
  | expander | agc | compressor | limiter | equalizer | deesser
  deriving DecidableEq, Repr

namespace ProcessingStage

/-- The name of a stage in the configuration. -/
def name : ProcessingStage → Str
  | .expander => "expander".toList
  | .agc => "agc".toList
  | .compressor => "compressor".toList
  | .limiter => "limiter".toList
  | .equalizer => "equalizer".toList
  | .deesser => "deesser".toList

/-- One case-insensitive configuration token. -/
def parse (text : Str) : Option ProcessingStage :=
  [expander, agc, compressor, limiter, equalizer, deesser].find? fun stage =>
    asciiKey (trim text) = stage.name

end ProcessingStage

/-- What is wrong with an order of stages. -/
inductive StageOrderError where
  | tooLong
  | unknownStage (stage : Str)
  | duplicateStage (stage : ProcessingStage)
  | missingEnabledStage (stage : ProcessingStage)
  deriving DecidableEq, Repr

/-- `Display` -/
def StageOrderError.text : StageOrderError → Str
  | .tooLong => "stage order is too long".toList
  | .unknownStage stage => "unknown, empty, or fixed stage '".toList ++ stage ++ ['\'']
  | .duplicateStage stage => "duplicate stage '".toList ++ stage.name ++ ['\'']
  | .missingEnabledStage stage => "enabled stage '".toList ++ stage.name ++ "' is missing".toList

/-- Ordered, non-repeating optional processing stages. -/
structure StageOrder where
  stages : List ProcessingStage
  nodup : stages.Nodup
  deriving DecidableEq, Repr

namespace StageOrder

/-- The shipped order. -/
def standard : StageOrder where
  stages := [.equalizer, .expander, .agc, .deesser, .compressor, .limiter]
  nodup := by decide

/-- `stages.push(stage)` behind the check of a duplicate. -/
def push (self : StageOrder) (stage : ProcessingStage) : Except StageOrderError StageOrder :=
  if h : stage ∈ self.stages then .error (.duplicateStage stage)
  else .ok ⟨self.stages ++ [stage], List.nodup_append_comm.mp (List.nodup_cons.mpr ⟨h, self.nodup⟩)⟩

/-- The loop over the tokens. -/
def parseTokens : StageOrder → List Str → Except StageOrderError StageOrder
  | self, [] => .ok self
  | self, token :: rest =>
    match ProcessingStage.parse token with
    | none => .error (.unknownStage (trim token))
    | some stage =>
      match self.push stage with
      | .error e => .error e
      | .ok self => parseTokens self rest

/-- Every enabled stage is in the order. -/
def requireEnabled (self : StageOrder) (enabled : List ProcessingStage) :
    Except StageOrderError Unit :=
  match enabled.find? fun stage => stage ∉ self.stages with
  | some stage => .error (.missingEnabledStage stage)
  | none => .ok ()

/-- `parse(text, &[])` -/
def parse (text : Str) : Except StageOrderError StageOrder :=
  if 128 ≤ byteLen text then .error .tooLong
  else parseTokens ⟨[], .nil⟩ (text.splitOn ',')

/-- `format_stage_order` of `profile_resolution.rs`. -/
def text (self : StageOrder) : Str := List.intercalate [','] (self.stages.map ProcessingStage.name)

end StageOrder

end Core
end UsbRadioPlus
