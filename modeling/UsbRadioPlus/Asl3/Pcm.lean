import UsbRadioPlus.Asl3.Adapter

/-!
# Frames of signed 16-bit samples (`rust/asl3/src/pcm.rs`)

The assembler collects converted samples up to two native frames, and gives a padded frame at every
boundary of 20 ms.
-/

namespace UsbRadioPlus
namespace Asl3

/-- `APP_RPT_FRAME_SAMPLES` -/
def APP_RPT_FRAME_SAMPLES : Nat := 160

/-- `ADVANCED_FRAME_SAMPLES` -/
def ADVANCED_FRAME_SAMPLES : Nat := 960

/-- `ASSEMBLY_CAPACITY` -/
def ASSEMBLY_CAPACITY : Nat := ADVANCED_FRAME_SAMPLES * 2

namespace AsteriskPcmMode

/-- Samples in one complete 20 ms Asterisk frame. -/
def frameSamples : AsteriskPcmMode → Nat
  | appRpt => APP_RPT_FRAME_SAMPLES
  | advanced => ADVANCED_FRAME_SAMPLES

end AsteriskPcmMode

/-- A frame as its constructors build it. -/
structure WholeFrame extends ControllerPcmFrame where
  whole : samples.length = mode.frameSamples

/-! ## Assembly -/

/-- The samples that wait for a complete frame. -/
structure FrameAssembler where
  mode : AsteriskPcmMode
  samples : List Int
  bound : samples.length ≤ ASSEMBLY_CAPACITY

namespace FrameAssembler

/-- The assembler without samples. -/
def new (mode : AsteriskPcmMode) : FrameAssembler := ⟨mode, [], Nat.zero_le _⟩

/-- `None`: the assembly overflows. -/
def append (self : FrameAssembler) (samples : List Int) : Option FrameAssembler :=
  if h : self.samples.length + samples.length ≤ ASSEMBLY_CAPACITY then
    some ⟨self.mode, self.samples ++ samples, by rwa [List.length_append]⟩
  else none

/-- All available samples of one frame, padded with zeros, into an output of `size` samples; `None`:
that is not the size of a frame. -/
def takePadded (self : FrameAssembler) (size : Nat) : Option (List Int × FrameAssembler) :=
  if size ≠ self.mode.frameSamples then none
  else
    let copied := min self.samples.length self.mode.frameSamples
    some (self.samples.take copied ++ List.replicate (self.mode.frameSamples - copied) 0,
      ⟨self.mode, self.samples.drop copied, by
        rw [List.length_drop]
        exact (Nat.sub_le _ _).trans self.bound⟩)

end FrameAssembler
end Asl3
end UsbRadioPlus
