import UsbRadioPlus.Core.OutputLoudness
import UsbRadioPlus.Driver.Site

/-!
# The site cache (`SiteCache` of `rust/driver/src/hardware_site.rs`)

The hardware worker publishes a bank's snapshot in 18 words of a sequence lock; control callers read
it without a wait. A read makes three attempts. The measurements of `OutputLoudness` are published in
the same way.
-/

namespace UsbRadioPlus
namespace Driver

open Sys SeqLock

namespace SiteReadQuality

/-- The word of a quality. -/
def word : SiteReadQuality → Nat
  | .unavailable => 0
  | .valid => 1
  | .fault => 2

/-- The quality of a word. -/
def ofWord : Nat → SiteReadQuality
  | 1 => .valid
  | 2 => .fault
  | _ => .unavailable

end SiteReadQuality

namespace SiteError

/-- The word of the last error; zero stands for none. -/
def word : Option SiteError → Nat
  | none => 0
  | some .unavailable => 1
  | some .staleGeneration => 2
  | some .invalidMask => 3
  | some .busy => 4
  | some .fault => 5

/-- The error of a word. -/
def ofWord : Nat → Option SiteError
  | 1 => some .unavailable
  | 2 => some .staleGeneration
  | 3 => some .invalidMask
  | 4 => some .busy
  | 5 => some .fault
  | _ => none

end SiteError

namespace SiteCache

/-- The words of a snapshot that is published at a time. -/
def encode (snapshot : SiteDigitalSnapshot) (nowMs : Nat) : List Nat :=
  [snapshot.generation,
    snapshot.inputMask.toNat,
    snapshot.outputMask.toNat,
    snapshot.reservedMask.toNat,
    snapshot.claimedMask.toNat,
    snapshot.requestedHighMask.toNat,
    snapshot.submittedHighMask.toNat,
    snapshot.readbackValidMask.toNat,
    snapshot.inputHighMask.toNat,
    snapshot.inputQuality.word,
    snapshot.observedAtMs.getD 0,
    if snapshot.observedAtMs.isSome then 1 else 0,
    nowMs,
    snapshot.rejectedCommands,
    SiteError.word snapshot.lastCommandError,
    snapshot.submittedGeneration,
    snapshot.servicedGeneration,
    snapshot.servicedHighMask.toNat]

/-- `words[i] as u32`. -/
def mask (words : List Nat) (i : Nat) : U32 := .ofNat 32 (words.getD i 0)

/-- The snapshot of the words. -/
def decode (words : List Nat) : SiteDigitalSnapshot where
  generation := words.getD 0 0
  inputMask := mask words 1
  outputMask := mask words 2
  reservedMask := mask words 3
  claimedMask := mask words 4
  requestedHighMask := mask words 5
  submittedHighMask := mask words 6
  readbackValidMask := mask words 7
  inputHighMask := mask words 8
  inputQuality := .ofWord (words.getD 9 0)
  observedAtMs := if words.getD 11 0 ≠ 0 then some (words.getD 10 0) else none
  snapshotAtMs := words.getD 12 0
  rejectedCommands := words.getD 13 0
  lastCommandError := SiteError.ofWord (words.getD 14 0)
  submittedGeneration := words.getD 15 0
  servicedGeneration := words.getD 16 0
  servicedHighMask := mask words 17

theorem ofWord_word (quality : SiteReadQuality) : .ofWord quality.word = quality := by
  cases quality <;> rfl

theorem errorOfWord_word (error : Option SiteError) :
    SiteError.ofWord (SiteError.word error) = error := by
  cases error with
  | none => rfl
  | some error => cases error <;> rfl

/-- The words give every field back, with the time of the publication. -/
theorem decode_encode (snapshot : SiteDigitalSnapshot) (nowMs : Nat) :
    decode (encode snapshot nowMs) = { snapshot with snapshotAtMs := nowMs } := by
  have hobserved : (if (if snapshot.observedAtMs.isSome then 1 else 0) ≠ 0
      then some (snapshot.observedAtMs.getD 0) else none) = snapshot.observedAtMs := by
    cases snapshot.observedAtMs <;> rfl
  unfold decode
  simp only [encode, mask, List.getD_cons_zero, List.getD_cons_succ, BitVec.ofNat_toNat,
    BitVec.setWidth_eq, ofWord_word, errorOfWord_word, hobserved]

/-- Snapshots as words, with the time of their publication. -/
def codec : Codec (SiteDigitalSnapshot × Nat) Nat where
  encode published := encode published.1 published.2
  width := 18
  length_encode _ := rfl

/-- `SiteCache::default()`: every word is zero. -/
def unpublished : SiteDigitalSnapshot where
  generation := 0
  inputMask := 0
  outputMask := 0
  reservedMask := 0
  claimedMask := 0
  requestedHighMask := 0
  submittedHighMask := 0
  submittedGeneration := 0
  servicedGeneration := 0
  servicedHighMask := 0
  readbackValidMask := 0
  inputHighMask := 0
  inputQuality := .unavailable
  observedAtMs := none
  snapshotAtMs := 0
  rejectedCommands := 0
  lastCommandError := none

example : encode unpublished 0 = List.replicate 18 0 := rfl

/-- What `read` returns. -/
def outcome : SeqReader 64 Nat → Option (Except SiteError SiteDigitalSnapshot)
  | .returned (some words) _ => some (.ok (decode words))
  | .returned none _ => some (.error .busy)
  | _ => none

/-- A cache and its readers. -/
abbrev State (R : Type) := SeqLock 64 (SiteDigitalSnapshot × Nat) Nat R

/-- All interleavings of publications and reads. -/
def runs (R : Type) [DecidableEq R] : System (State R) (SeqAct (SiteDigitalSnapshot × Nat) R) :=
  seqLocks 64 R codec 3 (unpublished, 0)

variable {R : Type} [DecidableEq R] {s : State R} {r : R}

theorem mem_published_of_reachBy (h : (runs R).ReachBy Timely s)
    {result : Except SiteError SiteDigitalSnapshot} (hr : outcome (s.reader r) = some result) :
    result = .error .busy ∨ ∃ published ∈ s.published,
      result = .ok { published.1 with snapshotAtMs := published.2 } := by
  cases hreader : s.reader r with
  | returned words since =>
    rw [hreader] at hr
    cases words with
    | none => exact .inl (Option.some.inj hr).symm
    | some words =>
      obtain rfl := Option.some.inj hr
      obtain ⟨published, hpublished, rfl⟩ := eq_encode_of_reachBy (by decide) h hreader
      exact .inr ⟨published, List.mem_of_getElem? hpublished,
        congrArg Except.ok (decode_encode published.1 published.2)⟩
  | idle | trying _ | copying _ _ _ _ =>
    rw [hreader] at hr
    cases hr

/-- **Sequence-locked snapshots**: a read that is timely returns one published snapshot, with every
field, or reports busy. So does a read of the output loudness. -/
theorem coherent_of_reachBy (R : Type) [DecidableEq R] :
    (∀ (s : State R) (r : R) (result : Except SiteError SiteDigitalSnapshot),
      (runs R).ReachBy Timely s → outcome (s.reader r) = some result →
      result = .error .busy ∨ ∃ published ∈ s.published,
        result = .ok { published.1 with snapshotAtMs := published.2 }) ∧
    ∀ (epoch : Nat) (s : Core.OutputLoudness.State R) (r : R)
      (result : Option Core.OutputLoudnessSnapshot),
      (Core.OutputLoudness.runs R epoch).ReachBy Timely s →
      Core.OutputLoudness.outcome (s.reader r) = some result →
      result = none ∨ ∃ snapshot ∈ s.published, result = some snapshot :=
  ⟨fun _ _ _ h hr => mem_published_of_reachBy h hr,
    fun _ _ _ _ h hr => Core.OutputLoudness.mem_published_of_reachBy h hr⟩

/-! ## Runs -/

/-- A bound bank with a claimed pin. -/
def bound : SiteDigitalSnapshot := { unpublished with generation := 5, claimedMask := 1 }

/-- The same bank behind a cycle that drove the pin and read it back. -/
def serviced : SiteDigitalSnapshot := { bound with
  outputMask := 1
  requestedHighMask := 1
  submittedHighMask := 1
  readbackValidMask := 1
  submittedGeneration := 2
  servicedGeneration := 2
  servicedHighMask := 1
  observedAtMs := some 8 }

/-- The accesses of a read that a publication overtakes in the middle of its words. It copies the other
words, finds the sequence changed, and reads them all again. -/
def overtaken {A : Type} (c : Codec A Nat) (first second : A) : List (SeqAct A Unit) :=
  publication Unit c first ++ .start () :: List.replicate (1 + c.width / 2) (.read ()) ++
    publication Unit c second ++ List.replicate (c.width - c.width / 2 + 1 + c.width + 2) (.read ())

/-- A measurement of -23 LUFS and -1.5 dBTP. -/
def measured : Core.OutputLoudnessSnapshot where
  epoch := 3
  sampleCount := 19200
  integratedLufs := some ⟨0xc037000000000000#64, by decide⟩
  truePeakDbtp := some ⟨0xbff8000000000000#64, by decide⟩

theorem coherent_of_publication :
    (∃ s : State Unit, s.published = [(unpublished, 0), (bound, 7), (serviced, 9)] ∧
      outcome (s.reader ()) = some (.ok { serviced with snapshotAtMs := 9 }) ∧
      ((.ok { serviced with snapshotAtMs := 9 } : Except SiteError SiteDigitalSnapshot) =
          .error .busy ∨
        ∃ published ∈ s.published, (.ok { serviced with snapshotAtMs := 9 } :
          Except SiteError SiteDigitalSnapshot) =
            .ok { published.1 with snapshotAtMs := published.2 })) ∧
    ∃ s : Core.OutputLoudness.State Unit,
      s.published = [Core.OutputLoudness.unmeasured 3, { measured with sampleCount := 9600 },
        measured] ∧
      Core.OutputLoudness.outcome (s.reader ()) = some (some measured) ∧
      (some measured = none ∨ ∃ snapshot ∈ s.published, some measured = some snapshot) := by
  constructor
  · obtain ⟨s, hrun, hpublished, hr⟩ : ∃ s : State Unit,
        (runs Unit).run (.fresh codec (unpublished, 0)) (overtaken codec (bound, 7) (serviced, 9)) =
          some s ∧ s.published = [(unpublished, 0), (bound, 7), (serviced, 9)] ∧
        outcome (s.reader ()) = some (.ok { serviced with snapshotAtMs := 9 }) := ⟨_, rfl, rfl, rfl⟩
    exact ⟨s, hpublished, hr, (coherent_of_reachBy Unit).1 s () _
      ⟨_, _, rfl, meets_of_short (by decide), hrun⟩ hr⟩
  · obtain ⟨s, since, hrun, hpublished, hreader⟩ : ∃ s : Core.OutputLoudness.State Unit, ∃ since,
        (Core.OutputLoudness.runs Unit 3).run (.fresh Core.OutputLoudness.codec
            (Core.OutputLoudness.unmeasured 3))
          (overtaken Core.OutputLoudness.codec { measured with sampleCount := 9600 } measured) =
            some s ∧
        s.published = [Core.OutputLoudness.unmeasured 3, { measured with sampleCount := 9600 },
          measured] ∧
        s.reader () = .returned (some (Core.OutputLoudness.encode measured)) since :=
      ⟨_, _, rfl, rfl, rfl⟩
    have hr : Core.OutputLoudness.outcome (s.reader ()) = some (some measured) := by
      rw [hreader]
      exact congrArg (some ∘ some) (Core.OutputLoudness.decode_encode _)
    exact ⟨s, hpublished, hr, (coherent_of_reachBy Unit).2 3 s () _
      ⟨_, _, rfl, meets_of_short (by decide), hrun⟩ hr⟩

/-- A read that 2^63 publications overtake returns a mixture, and one in front of all publications the
initial words. -/
theorem not_published :
    (∃ s : State Unit, ∃ result, (runs Unit).Reach s ∧ outcome (s.reader ()) = some (.ok result) ∧
      ∀ published ∈ s.published, result ≠ { published.1 with snapshotAtMs := published.2 }) ∧
    ∃ s : State Unit, (runs Unit).Reach s ∧ s.published = [(unpublished, 0)] ∧
      outcome (s.reader ()) = some (.ok unpublished) := by
  constructor
  · obtain ⟨acts, s, hrun, hpublished, hreader⟩ :=
      @run_wrapped _ _ _ 2 _ codec (by decide) (unpublished, 0) (bound, 7) () 63
    refine ⟨s, decode (mixed codec (unpublished, 0) (bound, 7) 1), ⟨_, acts, rfl, hrun⟩, ?_, ?_⟩
    · rw [hreader]
      rfl
    · rw [hpublished]
      intro published hmem
      obtain rfl | hmem := List.mem_cons.mp hmem
      · decide
      · obtain rfl := List.eq_of_mem_replicate hmem
        decide
  · obtain ⟨s, hrun, hpublished, hr⟩ : ∃ s : State Unit,
        (runs Unit).run (.fresh codec (unpublished, 0)) (.start () :: List.replicate 20 (.read ())) =
          some s ∧ s.published = [(unpublished, 0)] ∧
        outcome (s.reader ()) = some (.ok unpublished) := ⟨_, rfl, rfl, rfl⟩
    exact ⟨s, ⟨_, _, rfl, hrun⟩, hpublished, hr⟩

end SiteCache
end Driver
end UsbRadioPlus
