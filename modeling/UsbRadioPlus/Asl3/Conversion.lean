import UsbRadioPlus.Asl3.Pcm

/-!
# Conversion of native spans (`rust/asl3/src/adapter.rs`)

`convertSpan` quantizes a span, through the converter of the 8 kHz interface, and appends it to the
assembler. The converter is foreign: it may report any progress and leave anything in the output
buffer. The loop around it takes fuel; `convertLoop_isSome` is its termination.

`receiveFraming` is the publisher of one channel with the calls of `publish`. Its history has the native
samples that were published and the packets, and whether a call has failed.
-/

namespace UsbRadioPlus
namespace Asl3

open Sys

/-- Counts returned by one streaming 48-to-8-kHz conversion operation. -/
structure ConversionProgress where
  inputUsed : Nat
  outputGenerated : Nat
  deriving DecidableEq, Repr

/-- The output buffer of the converter. -/
abbrev Converted (F : Type) : Type := Vector F NATIVE_FRAME_SAMPLES

/-- A prepared mono sample-rate converter: what `process` returns and leaves behind. -/
structure AppRptConverter (C F : Type) where
  process : C → List F → Converted F → Except Unit ConversionProgress × C × Converted F

/-- Where the receiver's audio goes: through a converter, or as it is. -/
inductive ReceiveEgress (C : Type) where
  | appRpt (converter : C)
  | advanced

/-- What the publisher converts with. -/
structure ReceiveAudio (C F : Type) where
  egress : ReceiveEgress C
  assembler : FrameAssembler
  converted : Converted F

namespace ReceiveAudio

variable {C F : Type}

/-- `self.assembler.append(..)?`. -/
def append (self : ReceiveAudio C F) (samples : List Int) :
    Except AdapterError Unit × ReceiveAudio C F :=
  match self.assembler.append samples with
  | none => (.error .assemblyOverflow, self)
  | some assembler => (.ok (), { self with assembler })

/-- The loop of `convert_span`, from the rest of the input; `none`: the fuel is used up. -/
def convertLoop (port : AppRptConverter C F) (f32ToS16 : F → Int) :
    Nat → ReceiveAudio C F → C → List F → Option (Except AdapterError Unit × ReceiveAudio C F)
  | 0, _, _, _ => none
  | fuel + 1, self, converter, input =>
    if input.isEmpty then some (.ok (), self)
    else
      match port.process converter input self.converted with
      | (.error (), converter, converted) =>
        some (.error .sampleRate, { self with egress := .appRpt converter, converted })
      | (.ok result, converter, converted) =>
        let self := { self with egress := .appRpt converter, converted }
        if input.length < result.inputUsed ∨ NATIVE_FRAME_SAMPLES < result.outputGenerated then
          some (.error .invalidConversionResult, self)
        else if result.inputUsed = 0 ∧ result.outputGenerated = 0 then
          some (.error .conversionStalled, self)
        else
          match self.append ((converted.toList.take result.outputGenerated).map f32ToS16) with
          | (.error e, self) => some (.error e, self)
          | (.ok (), self) => convertLoop port f32ToS16 fuel self converter
              (input.drop result.inputUsed)

/-- Every round takes input, or room of the assembler. -/
def roundsLeft (self : ReceiveAudio C F) (input : List F) : Nat :=
  input.length + (ASSEMBLY_CAPACITY - self.assembler.samples.length) + 1

theorem append_ok {self self' : ReceiveAudio C F} {samples : List Int}
    (h : self.append samples = (.ok (), self')) :
    self'.assembler.samples = self.assembler.samples ++ samples ∧
      self'.assembler.mode = self.assembler.mode ∧ self'.egress = self.egress := by
  rw [append] at h
  cases hassembler : self.assembler.append samples with
  | none =>
    rw [hassembler] at h
    cases h
  | some assembler =>
    rw [hassembler] at h
    obtain rfl := (Prod.mk.inj h).2
    rw [FrameAssembler.append] at hassembler
    split at hassembler
    · obtain rfl := Option.some.inj hassembler
      exact ⟨rfl, rfl, rfl⟩
    · cases hassembler

/-- The loop terminates, whatever the converter reports. -/
theorem convertLoop_isSome (port : AppRptConverter C F) (f32ToS16 : F → Int) {fuel : Nat}
    {self : ReceiveAudio C F} {converter : C} {input : List F}
    (h : self.roundsLeft input ≤ fuel) :
    (convertLoop port f32ToS16 fuel self converter input).isSome := by
  induction fuel generalizing self converter input with
  | zero => exact absurd h (Nat.not_succ_le_zero _)
  | succ fuel ih =>
    rw [convertLoop]
    by_cases hempty : input.isEmpty
    · rw [if_pos hempty]
      rfl
    · rw [if_neg hempty]
      obtain ⟨result, converter', converted⟩ := port.process converter input self.converted
      cases result with
      | error e => rfl
      | ok result =>
        simp only
        split
        · rfl
        · split
          · rfl
          next hcounts hprogress =>
            cases happend : append { self with egress := .appRpt converter', converted }
                ((converted.toList.take result.outputGenerated).map f32ToS16) with
            | mk outcome self' =>
              cases outcome with
              | error e => rfl
              | ok _ =>
                obtain ⟨hsamples, -, -⟩ := append_ok happend
                have hlength := congrArg List.length hsamples
                have hbound := self'.assembler.bound
                rw [List.length_append, List.length_map, List.length_take,
                  Vector.length_toList] at hlength
                refine ih ?_
                rw [roundsLeft] at h ⊢
                rw [List.length_drop]
                simp only at hlength
                omega

/-- More fuel changes nothing. -/
theorem convertLoop_more {port : AppRptConverter C F} {f32ToS16 : F → Int} {fuel : Nat}
    {self : ReceiveAudio C F} {converter : C} {input : List F}
    {r : Except AdapterError Unit × ReceiveAudio C F}
    (h : convertLoop port f32ToS16 fuel self converter input = some r) (more : Nat) :
    convertLoop port f32ToS16 (fuel + more) self converter input = some r := by
  induction fuel generalizing self converter input with
  | zero => cases h
  | succ fuel ih =>
    rw [Nat.succ_add]
    rw [convertLoop] at h ⊢
    by_cases hempty : input.isEmpty
    · rwa [if_pos hempty] at h ⊢
    · rw [if_neg hempty] at h ⊢
      generalize port.process converter input self.converted = processed at h ⊢
      obtain ⟨result, converter', converted⟩ := processed
      cases result with
      | error e => exact h
      | ok result =>
        simp only at h ⊢
        by_cases hcounts : input.length < result.inputUsed ∨
            NATIVE_FRAME_SAMPLES < result.outputGenerated
        · rwa [if_pos hcounts] at h ⊢
        · rw [if_neg hcounts] at h ⊢
          by_cases hstalled : result.inputUsed = 0 ∧ result.outputGenerated = 0
          · rwa [if_pos hstalled] at h ⊢
          · rw [if_neg hstalled] at h ⊢
            generalize append { self with egress := .appRpt converter', converted }
              ((converted.toList.take result.outputGenerated).map f32ToS16) = appended at h ⊢
            obtain ⟨outcome, self'⟩ := appended
            cases outcome with
            | error e => exact h
            | ok _ => exact ih h

/-- `convert_span`. -/
def convertSpan (port : AppRptConverter C F) (f32ToS16 : F → Int) (self : ReceiveAudio C F)
    (input : List F) : Except AdapterError Unit × ReceiveAudio C F :=
  match self.egress with
  | .advanced => self.append (input.map f32ToS16)
  | .appRpt converter =>
    (convertLoop port f32ToS16 (self.roundsLeft input) self converter input).get
      (convertLoop_isSome port f32ToS16 le_rfl)

/-- The call of `take_padded` in `take_frame`. -/
def takePadded (mode : AsteriskPcmMode) (self : ReceiveAudio C F) :
    Except AdapterError (List Int) × ReceiveAudio C F :=
  match self.assembler.takePadded mode.frameSamples with
  | none => (.error .invalidFrameSize, self)
  | some (samples, assembler) => (.ok samples, { self with assembler })

/-- The conversion and the assembly of a publisher. -/
def path (port : AppRptConverter C F) (f32ToS16 : F → Int) (mode : AsteriskPcmMode) :
    AudioPath F (ReceiveAudio C F) where
  convertSpan := convertSpan port f32ToS16
  takePadded := takePadded mode

end ReceiveAudio

/-! ## The system -/

/-- The publisher of a channel, and its history. -/
structure ReceiveFraming (C F : Type) where
  publisher : ReceivePublisher (ReceiveAudio C F)
  /-- The native samples of the calls that were accepted. -/
  native : List F
  packets : List ReceivePacket
  /-- The most packets that one call has pushed. -/
  mostAtOnce : Nat
  /-- A call was accepted and has failed. -/
  failed : Bool

namespace ReceiveFraming

variable {C F : Type}

/-- The publisher of `prepare`. -/
def prepare (mode : AsteriskPcmMode) (egress : ReceiveEgress C) (converted : Converted F) :
    ReceiveFraming C F where
  publisher := ⟨mode, ⟨egress, .new mode, converted⟩, 0, .new⟩
  native := []
  packets := []
  mostAtOnce := 0
  failed := false

/-- One call of `publish`. -/
def publish (port : AppRptConverter C F) (f32ToS16 : F → Int) (s : ReceiveFraming C F)
    (samples : List F) (metadata : ReceiveMetadata) : ReceiveFraming C F :=
  let path := ReceiveAudio.path port f32ToS16 s.publisher.mode
  let (result, publisher, packets) := s.publisher.publish path samples metadata
  let accepted := ReceivePublisher.accepts samples
  { publisher
    native := if accepted then s.native ++ samples else s.native
    packets := s.packets ++ packets
    mostAtOnce := max s.mostAtOnce packets.length
    failed := s.failed || (accepted && !result.isOk) }

end ReceiveFraming

/-- Every sequence of calls of a prepared publisher. -/
def receiveFraming {C F : Type} (port : AppRptConverter C F) (f32ToS16 : F → Int) :
    System (ReceiveFraming C F) (List F × ReceiveMetadata) where
  init s := ∃ converted, (∃ converter, s = .prepare .appRpt (.appRpt converter) converted) ∨
    s = .prepare .advanced .advanced converted
  step s call := some (s.publish port f32ToS16 call.1 call.2)

end Asl3
end UsbRadioPlus
