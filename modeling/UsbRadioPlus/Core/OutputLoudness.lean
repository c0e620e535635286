import UsbRadioPlus.Sys.SeqLock

/-!
# Published output loudness (`Published` of `rust/core/src/loudness_meter.rs`)

The meter publishes its measurement in four words of a sequence lock. A value that is not measured is
published as a NaN.

A floating-point number is its bits. The meter publishes finite values only: the integrated loudness
is filtered, and the peak is the logarithm of a positive finite amplitude (`Measured`).
-/

namespace UsbRadioPlus
namespace Core

open Sys SeqLock

/-- `f64::is_finite`, on the bits. -/
def isFinite (bits : BitVec 64) : Bool := (bits >>> 52) &&& 0x7ff#64 != 0x7ff#64

/-- `f64::NAN.to_bits()`. -/
def nanBits : BitVec 64 := 0x7ff8000000000000#64

/-- The bits of a finite number. -/
structure Measured where
  bits : BitVec 64
  finite : isFinite bits = true
  deriving DecidableEq, Repr

/-- One coherent published measurement epoch; absent values are not measured. -/
structure OutputLoudnessSnapshot where
  epoch : Nat
  sampleCount : Nat
  integratedLufs : Option Measured
  truePeakDbtp : Option Measured
  deriving DecidableEq, Repr

namespace OutputLoudness

/-- `value.unwrap_or(f64::NAN).to_bits()`. -/
def measureBits (value : Option Measured) : Nat := (value.elim nanBits (·.bits)).toNat

/-- `value.is_finite().then_some(value)`. -/
def ofBits (word : Nat) : Option Measured :=
  if h : isFinite (.ofNat 64 word) = true then some ⟨.ofNat 64 word, h⟩ else none

/-- The words of a snapshot. -/
def encode (snapshot : OutputLoudnessSnapshot) : List Nat :=
  [snapshot.epoch, snapshot.sampleCount, measureBits snapshot.integratedLufs,
    measureBits snapshot.truePeakDbtp]

/-- The snapshot of the words. -/
def decode (words : List Nat) : OutputLoudnessSnapshot where
  epoch := words.getD 0 0
  sampleCount := words.getD 1 0
  integratedLufs := ofBits (words.getD 2 0)
  truePeakDbtp := ofBits (words.getD 3 0)

theorem ofBits_measureBits (value : Option Measured) : ofBits (measureBits value) = value := by
  unfold ofBits measureBits
  simp only [BitVec.ofNat_toNat, BitVec.setWidth_eq]
  cases value with
  | none => rfl
  | some value => exact dif_pos value.finite

theorem decode_encode (snapshot : OutputLoudnessSnapshot) : decode (encode snapshot) = snapshot := by
  unfold decode
  simp only [encode, List.getD_cons_zero, List.getD_cons_succ, ofBits_measureBits]

/-- Snapshots as words. -/
def codec : Codec OutputLoudnessSnapshot Nat where
  encode := encode
  width := 4
  length_encode _ := rfl

/-- `Published::new`. -/
def unmeasured (epoch : Nat) : OutputLoudnessSnapshot := ⟨epoch, 0, none, none⟩

/-- What `snapshot` returns; `none` stands for an unmeasured state, whose epoch is one more load. -/
def outcome : SeqReader 64 Nat → Option (Option OutputLoudnessSnapshot)
  | .returned words _ => some (words.map decode)
  | _ => none

/-- A published measurement and its observers. -/
abbrev State (R : Type) := SeqLock 64 OutputLoudnessSnapshot Nat R

/-- All interleavings of publications and reads. -/
def runs (R : Type) [DecidableEq R] (epoch : Nat) :
    System (State R) (SeqAct OutputLoudnessSnapshot R) :=
  seqLocks 64 R codec 3 (unmeasured epoch)

variable {R : Type} [DecidableEq R] {epoch : Nat} {s : State R} {r : R}

/-- A coherent snapshot, or unmeasured state if the writer stays busy. -/
theorem mem_published_of_reachBy (h : (runs R epoch).ReachBy Timely s)
    {result : Option OutputLoudnessSnapshot} (hr : outcome (s.reader r) = some result) :
    result = none ∨ ∃ snapshot ∈ s.published, result = some snapshot := by
  cases hreader : s.reader r with
  | returned words since =>
    rw [hreader] at hr
    obtain rfl := Option.some.inj hr
    cases words with
    | none => exact .inl rfl
    | some words =>
      obtain ⟨snapshot, hpublished, rfl⟩ := eq_encode_of_reachBy (by decide) h hreader
      exact .inr ⟨snapshot, List.mem_of_getElem? hpublished, congrArg some (decode_encode snapshot)⟩
  | idle | trying _ | copying _ _ _ _ =>
    rw [hreader] at hr
    cases hr

end OutputLoudness
end Core
end UsbRadioPlus
