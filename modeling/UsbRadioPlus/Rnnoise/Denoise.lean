import Mathlib.Algebra.Notation.Defs
import UsbRadioPlus.Rust.Checked
import UsbRadioPlus.Rust.Slice

/-!
# The denoiser (`rust/rnnoise/src/lib.rs`)

The model denoises frames of `RNNOISE_FRAME_COUNT` samples; a stream takes blocks of any length. It fills a
frame and gives the samples of the last denoised one as it does so.
-/

namespace UsbRadioPlus
namespace Rnnoise

open Rust

/-- `RNNOISE_FRAME_COUNT` -/
def RNNOISE_FRAME_COUNT : Nat := 480

/-- The model behind a handle: a state machine on frames. -/
structure DenoiseModel (H F : Type) where
  process : H → List F → List F × H
  /-- The adapter writes a whole frame. -/
  length_process : ∀ handle frame, (process handle frame).1.length = RNNOISE_FRAME_COUNT

/-- Prepared denoiser plus callback-independent input/output assembly. -/
structure DenoiseStream (H F : Type) where
  handle : H
  input : List F
  inputCount : Nat
  output : List F
  outputIndex : Nat
  outputCount : Nat
  active : Bool
  primed : Bool

variable {H F : Type}

/-- A frame of zeros. -/
def silence [Zero F] : List F := List.replicate RNNOISE_FRAME_COUNT 0

namespace DenoiseStream

/-- `prepare`: two warm-up frames on a new handle. -/
def prepare [Zero F] (model : DenoiseModel H F) (handle : H) : DenoiseStream H F where
  handle := (model.process (model.process handle silence).2 silence).2
  input := silence
  inputCount := 0
  output := silence
  outputIndex := 0
  outputCount := 0
  active := false
  primed := false

/-- A frame that is complete. `scratch` is the first part of the result of the model. -/
def processCompleteFrame (model : DenoiseModel H F) (self : DenoiseStream H F) : DenoiseStream H F :=
  let (scratch, handle) := model.process self.handle self.input
  let self := { self with handle, inputCount := 0 }
  if self.primed then
    { self with output := scratch, outputIndex := 0, outputCount := RNNOISE_FRAME_COUNT }
  else { self with primed := true }

/-- The output half of a turn: pending samples, or silence where there are not enough. -/
def emitSpan [Zero F] (self : DenoiseStream H F) (samples : List F) (offset span : Nat) :
    Option (List F × DenoiseStream H F) :=
  if span ≤ self.outputCount then do
    let samples ← writeSpan samples offset (← readSpan self.output self.outputIndex span)
    pure (samples, { self with
      outputIndex := self.outputIndex + span
      outputCount := self.outputCount - span })
  else do
    let samples ← writeSpan samples offset (List.replicate span 0)
    pure (samples, self)

/-- The end of a turn. -/
def countSpan (model : DenoiseModel H F) (self : DenoiseStream H F) (span : Nat) : DenoiseStream H F :=
  let self := { self with inputCount := self.inputCount + span }
  if self.inputCount = RNNOISE_FRAME_COUNT then self.processCompleteFrame model else self

/-- One turn of the loop of `process`: the samples and the stream behind a span. -/
def processSpan [Zero F] (model : DenoiseModel H F) (self : DenoiseStream H F) (samples : List F)
    (offset span : Nat) : Option (List F × DenoiseStream H F) := do
  let input ← writeSpan self.input self.inputCount (← readSpan samples offset span)
  let (samples, self) ← { self with input }.emitSpan samples offset span
  pure (samples, self.countSpan model span)

/-- The loop of `process` from `offset` on; `none` where an index is out of range or the fuel is used up. -/
@[grind =] def processLoop [Zero F] (model : DenoiseModel H F) :
    (fuel : Nat) → DenoiseStream H F → List F → (offset : Nat) → Option (List F × DenoiseStream H F)
  | 0, _, _, _ => none
  | fuel + 1, self, samples, offset =>
    if offset < samples.length then do
      let span := min (← checkedSub RNNOISE_FRAME_COUNT self.inputCount) (samples.length - offset)
      let (samples, self) ← self.processSpan model samples offset span
      processLoop model fuel self samples (offset + span)
    else some (samples, self)

/-- Process an arbitrary native callback partition in place. A turn takes a sample at least. -/
def process [Zero F] (model : DenoiseModel H F) (self : DenoiseStream H F) (samples : List F) :
    Option (List F × DenoiseStream H F) :=
  processLoop model (samples.length + 1) { self with active := true } samples 0

/-- Bypass live framing while retaining the prepared `RNNoise` model history. -/
def bypass (self : DenoiseStream H F) : DenoiseStream H F :=
  if self.active then
    { self with
      inputCount := 0
      outputIndex := 0
      outputCount := 0
      active := false
      primed := false }
  else self

end DenoiseStream

end Rnnoise
end UsbRadioPlus
