import Mathlib.Data.BitVec
import Mathlib.Tactic.ByContra
import UsbRadioPlus.Sys.Run

/-!
# A sequence lock

One writer publishes values to any number of readers. A value is spread over several words, and every
access to a word is a step of its own. The writer increments a sequence before and behind its stores.
A reader loads the sequence, the words, and the sequence again; it tries again where the sequence
was odd or has changed, and gives up (`none`) when its attempts are used up.

`Inv` counts the increments: an even count stands for a value that is complete. As long as the counts
of a reader's two loads differ by less than the sequence wraps (`Timely`), equal sequences are equal
counts, and the words of the reader are those of the value that was published last
(`eq_encode_of_reachBy`). `run_publications` is a run over any number of publications.
-/

namespace Sys

/-- Values that are spread over words. -/
structure Codec (A V : Type) where
  encode : A → List V
  width : Nat
  length_encode : ∀ a, (encode a).length = width

/-- What the writer does. -/
inductive SeqWriter (A : Type) where
  | idle
  /-- It stores the words of a value; the sequence is odd. -/
  | storing (a : A) (next : Nat)
  deriving DecidableEq, Repr

/-- What a reader does. -/
inductive SeqReader (w : Nat) (V : Type) where
  | idle
  | trying (left : Nat)
  /-- It has loaded some words; `since` is history, the count at its load of the sequence. -/
  | copying (left : Nat) (sequence : BitVec w) (since : Nat) (copied : List V)
  | returned (words : Option (List V)) (since : Nat)
  deriving DecidableEq, Repr

/-- A lock with its writer, its readers and what was published. -/
structure SeqLock (w : Nat) (A V R : Type) where
  sequence : BitVec w
  words : List V
  writer : SeqWriter A
  reader : R → SeqReader w V
  /-- History: the number of increments of the sequence. -/
  count : Nat
  /-- History: the first value and what was published behind it. -/
  published : List A

/-- `publish` begins a publication, `store` goes on with it; `start` begins a read, `read` goes on
with it. -/
inductive SeqAct (A R : Type) where
  | publish (a : A)
  | store
  | start (r : R)
  | read (r : R)
  deriving DecidableEq, Repr

namespace SeqLock

variable {w : Nat} {A V R : Type}

/-- An increment of the sequence. -/
def increment (s : SeqLock w A V R) : SeqLock w A V R :=
  { s with sequence := s.sequence + 1, count := s.count + 1 }

/-- A reader behind one of its accesses. -/
def setReader [DecidableEq R] (s : SeqLock w A V R) (r : R) (reader : SeqReader w V) : SeqLock w A V R :=
  { s with reader := Function.update s.reader r reader }

/-- The next access of the writer. -/
def store (c : Codec A V) (s : SeqLock w A V R) : Option (SeqLock w A V R) :=
  match s.writer with
  | .idle => none
  | .storing a next => match (c.encode a)[next]? with
    | some v => some { s with words := s.words.set next v, writer := .storing a (next + 1) }
    | none => some { s.increment with writer := .idle }

/-- The next access of a reader. -/
def read [DecidableEq R] (s : SeqLock w A V R) (r : R) : Option (SeqLock w A V R) :=
  match s.reader r with
  | .idle => none
  | .trying 0 => some (s.setReader r (.returned none s.count))
  | .trying (left + 1) =>
    if s.sequence &&& 1 ≠ 0 then some (s.setReader r (.trying left))
    else some (s.setReader r (.copying left s.sequence s.count []))
  | .copying left sequence since copied => match s.words[copied.length]? with
    | some v => some (s.setReader r (.copying left sequence since (copied ++ [v])))
    | none =>
      if s.sequence ≠ sequence then some (s.setReader r (.trying left))
      else some (s.setReader r (.returned (some copied) since))
  | .returned _ _ => none

/-- An access of the writer or of a reader. -/
def step [DecidableEq R] (c : Codec A V) (attempts : Nat) (s : SeqLock w A V R) :
    SeqAct A R → Option (SeqLock w A V R)
  | .publish a => match s.writer with
    | .idle => some { s.increment with writer := .storing a 0, published := s.published ++ [a] }
    | .storing _ _ => none
  | .store => s.store c
  | .start r => match s.reader r with
    | .idle | .returned _ _ => some (s.setReader r (.trying attempts))
    | _ => none
  | .read r => s.read r

/-- The lock with its first value. -/
def fresh (c : Codec A V) (first : A) : SeqLock w A V R where
  sequence := 0
  words := c.encode first
  writer := .idle
  reader _ := .idle
  count := 0
  published := [first]

end SeqLock

/-- All interleavings of one writer and its readers. -/
def seqLocks (w : Nat) {A V : Type} (R : Type) [DecidableEq R] (c : Codec A V) (attempts : Nat)
    (first : A) : System (SeqLock w A V R) (SeqAct A R) where
  init s := s = .fresh c first
  step s := s.step c attempts

namespace SeqLock

variable {w : Nat} {A V R : Type} {c : Codec A V} {attempts : Nat} {first : A}
  {s s' : SeqLock w A V R} {r : R}

/-! ## The invariant -/

/-- The words while a value is written. -/
def mixed (c : Codec A V) (a old : A) (next : Nat) : List V :=
  (c.encode a).take next ++ (c.encode old).drop next

/-- The words of the lock: one value where the count is even, and otherwise two. -/
inductive Holds (c : Codec A V) (s : SeqLock w A V R) : Prop
  | idle (m : Nat) (a : A) (writer : s.writer = .idle) (count : s.count = 2 * m)
    (length : s.published.length = m + 1) (last : s.published[m]? = some a)
    (words : s.words = c.encode a)
  | storing (m next : Nat) (a old : A) (writer : s.writer = .storing a next)
    (count : s.count = 2 * m + 1) (length : s.published.length = m + 2)
    (last : s.published[m + 1]? = some a) (before : s.published[m]? = some old)
    (bound : next ≤ c.width) (words : s.words = mixed c a old next)

/-- What a reader knows. -/
def Reads (c : Codec A V) (s : SeqLock w A V R) : SeqReader w V → Prop
  | .copying _ sequence since copied => since ≤ s.count ∧ since % 2 = 0 ∧
      sequence = BitVec.ofNat w since ∧ copied.length ≤ c.width ∧
      (since = s.count → copied = s.words.take copied.length)
  | .returned (some words) since => ∃ a, s.published[since / 2]? = some a ∧ words = c.encode a
  | _ => True

/-- What holds between any two accesses. -/
structure Inv (c : Codec A V) (s : SeqLock w A V R) : Prop where
  sequence : s.sequence = BitVec.ofNat w s.count
  words : s.words.length = c.width
  holds : Holds c s
  reads : ∀ r, Reads c s (s.reader r)

/-- The sequence has not wrapped since the reader loaded it. -/
def Timely (s : SeqLock w A V R) : SeqAct A R → Prop
  | .read r => ∀ left sequence since copied, s.reader r = .copying left sequence since copied →
    s.count - since < 2 ^ w
  | _ => True

/-- A store replaces one word. -/
theorem set_mixed (a old : A) {next : Nat} {v : V} (hv : (c.encode a)[next]? = some v) :
    (mixed c a old next).set next v = mixed c a old (next + 1) := by
  obtain ⟨hlt, rfl⟩ := List.getElem?_eq_some_iff.mp hv
  have hold : next < (c.encode old).length := by
    rwa [c.length_encode, ← c.length_encode a]
  unfold mixed
  rw [List.set_append_right _ _ (by simp), List.length_take, min_eq_left hlt.le, Nat.sub_self,
    List.drop_eq_getElem_cons hold, List.set_cons_zero, List.take_succ_eq_append_getElem hlt,
    List.append_assoc]
  rfl

theorem mixed_width (a old : A) : mixed c a old c.width = c.encode a := by
  unfold mixed
  rw [List.take_of_length_le (c.length_encode a).le, List.drop_eq_nil_of_le (c.length_encode old).le,
    List.append_nil]

theorem mixed_zero (a old : A) : mixed c a old 0 = c.encode old := rfl

theorem even_of_sequence (hw : 0 < w) {count : Nat} (h : BitVec.ofNat w count &&& 1 = 0) :
    count % 2 = 0 := by
  have hbit := congrArg (·.getLsbD 0) h
  simp only [BitVec.getLsbD_and, BitVec.getLsbD_ofNat, hw, decide_true, Bool.true_and] at hbit
  have hone : (1 : BitVec w).getLsbD 0 = true := by simp [hw]
  have hzero : (0 : BitVec w).getLsbD 0 = false := by simp
  rw [hone, hzero, Bool.and_true, Nat.testBit_zero] at hbit
  simpa using hbit

/-- Equal sequences are equal counts, before the sequence wraps. -/
theorem eq_of_sequence {since count : Nat} (hle : since ≤ count) (hlt : count - since < 2 ^ w)
    (h : BitVec.ofNat w count = BitVec.ofNat w since) : since = count := by
  have hmod : since ≡ count [MOD 2 ^ w] := by
    have htoNat := congrArg BitVec.toNat h
    simp only [BitVec.toNat_ofNat] at htoNat
    exact htoNat.symm
  obtain ⟨k, hk⟩ := (Nat.modEq_iff_dvd' hle).mp hmod
  cases k with
  | zero => omega
  | succ k =>
    rw [hk, Nat.mul_succ] at hlt
    omega

/-! ## Steps -/

theorem getElem?_append_of_some {l : List A} {i : Nat} {a b : A} (h : l[i]? = some a) :
    (l ++ [b])[i]? = some a := by
  obtain ⟨hlt, -⟩ := List.getElem?_eq_some_iff.mp h
  rw [List.getElem?_append_left hlt, h]

/-- Where the count has changed, a reader that still copies knows nothing about the words. -/
theorem Reads.of_changed {reader : SeqReader w V} (h : Reads c s reader)
    (hcount : s.count ≤ s'.count) (hnew : ∀ since, since ≤ s.count → since % 2 = 0 →
      since ≠ s'.count) (hpub : ∀ (i : Nat) (a : A), s.published[i]? = some a → s'.published[i]? = some a) :
    Reads c s' reader := by
  cases reader with
  | idle => trivial
  | trying left => trivial
  | copying left sequence since copied =>
    obtain ⟨hle, heven, hseq, hlen, -⟩ := h
    exact ⟨hle.trans hcount, heven, hseq, hlen, fun heq => absurd heq (hnew since hle heven)⟩
  | returned words since =>
    cases words with
    | none => trivial
    | some words =>
      obtain ⟨a, ha, heq⟩ := h
      exact ⟨a, hpub _ a ha, heq⟩

theorem sequence_increment (h : Inv c s) :
    s.increment.sequence = BitVec.ofNat w s.increment.count := by
  show s.sequence + 1 = BitVec.ofNat w (s.count + 1)
  rw [h.sequence, BitVec.ofNat_add]
  rfl

theorem Inv.publish (h : Inv c s) (hidle : s.writer = .idle) (a : A) :
    Inv c { s.increment with writer := .storing a 0, published := s.published ++ [a] } := by
  cases h.holds with
  | storing m next b old writer => exact absurd (hidle.symm.trans writer) (by simp)
  | idle m old _ count length last words =>
    refine ⟨sequence_increment h, h.words, .storing m 0 a old rfl ?_ ?_ ?_ ?_ (Nat.zero_le _) ?_,
      fun r => Reads.of_changed (h.reads r) (Nat.le_succ _) (fun since hle _ heq => ?_)
        fun i b => getElem?_append_of_some⟩
    · show s.count + 1 = 2 * m + 1
      rw [count]
    · show (s.published ++ [a]).length = m + 2
      rw [List.length_append, length]
      rfl
    · show (s.published ++ [a])[m + 1]? = some a
      rw [← length, List.getElem?_concat_length]
    · exact getElem?_append_of_some last
    · rw [mixed_zero]
      exact words
    · exact absurd (heq ▸ hle) (Nat.not_succ_le_self _)

theorem Inv.store (h : Inv c s) (hstep : s.store c = some s') : Inv c s' := by
  unfold SeqLock.store at hstep
  cases h.holds with
  | idle m a writer =>
    rw [writer] at hstep
    cases hstep
  | storing m next a old writer count length last before bound words =>
    rw [writer] at hstep
    simp only at hstep
    split at hstep
    · next v hv =>
      obtain rfl := Option.some.inj hstep
      have hlt : next < c.width := by
        have := (List.getElem?_eq_some_iff.mp hv).1
        rwa [c.length_encode] at this
      have hwords : s.words.set next v = mixed c a old (next + 1) := by
        rw [words, set_mixed a old hv]
      refine ⟨h.sequence, by rw [List.length_set]; exact h.words,
        .storing m (next + 1) a old rfl count length last before hlt hwords, fun r => ?_⟩
      -- the count is odd, and no reader has copied under it
      exact Reads.of_changed (h.reads r) le_rfl (fun since _ heven heq => by
        rw [show since = 2 * m + 1 from heq.trans count] at heven
        omega) fun _ _ => id
    · next hnone =>
      obtain rfl := Option.some.inj hstep
      have hnext : next = c.width := by
        have := List.getElem?_eq_none_iff.mp hnone
        rw [c.length_encode] at this
        omega
      refine ⟨sequence_increment h, h.words, .idle (m + 1) a rfl ?_ length last ?_, fun r => ?_⟩
      · show s.count + 1 = 2 * (m + 1)
        rw [count]
        omega
      · show s.words = _
        rw [words, hnext, mixed_width]
      · exact Reads.of_changed (h.reads r) (Nat.le_succ _)
          (fun since hle _ heq => absurd (heq ▸ hle) (Nat.not_succ_le_self _)) fun _ _ => id

/-- An even count stands for a value that is complete. -/
theorem Inv.complete (h : Inv c s) (heven : s.count % 2 = 0) :
    ∃ a, s.published[s.count / 2]? = some a ∧ s.words = c.encode a ∧
      s.published.length = s.count / 2 + 1 := by
  cases h.holds with
  | idle m a _ count length last words =>
    have hm : s.count / 2 = m := by omega
    exact ⟨a, by rw [hm]; exact last, words, by rw [hm]; exact length⟩
  | storing m next a old _ count => omega

theorem inv_fresh (first : A) : Inv c (.fresh c first : SeqLock w A V R) :=
  ⟨rfl, c.length_encode first, .idle 0 first rfl rfl rfl rfl rfl, fun _ => trivial⟩

variable [DecidableEq R]

theorem Inv.setReader (h : Inv c s) {reader : SeqReader w V} (hr : Reads c s reader) :
    Inv c (s.setReader r reader) := by
  refine ⟨h.sequence, h.words, ?_, fun r' => ?_⟩
  · cases h.holds with
    | idle m a writer count length last words => exact .idle m a writer count length last words
    | storing m next a old writer count length last before bound words =>
      exact .storing m next a old writer count length last before bound words
  · show Reads c _ (Function.update s.reader r reader r')
    by_cases hr' : r' = r
    · subst hr'
      rw [Function.update_self]
      cases reader <;> exact hr
    · rw [Function.update_of_ne hr']
      exact h.reads r'

theorem Inv.read (hw : 0 < w) (h : Inv c s) (ht : Timely s (.read r : SeqAct A R))
    (hstep : s.read r = some s') : Inv c s' := by
  have hr := h.reads r
  unfold SeqLock.read at hstep
  split at hstep
  · cases hstep
  · obtain rfl := Option.some.inj hstep
    exact h.setReader trivial
  · split at hstep
    · obtain rfl := Option.some.inj hstep
      exact h.setReader trivial
    · next hzero =>
      obtain rfl := Option.some.inj hstep
      have heven : s.count % 2 = 0 := by
        refine even_of_sequence hw ?_
        rw [← h.sequence]
        exact not_not.mp hzero
      exact h.setReader ⟨le_rfl, heven, h.sequence, Nat.zero_le _, fun _ => rfl⟩
  · next left sequence since copied hreader =>
    rw [hreader] at hr
    obtain ⟨hle, heven, hseq, hlen, hcopied⟩ := hr
    split at hstep
    · next v hv =>
      obtain rfl := Option.some.inj hstep
      obtain ⟨hlt, rfl⟩ := List.getElem?_eq_some_iff.mp hv
      refine h.setReader ⟨hle, heven, hseq, ?_, fun heq => ?_⟩
      · rw [List.length_append, List.length_singleton, ← h.words]
        exact hlt
      · rw [List.length_append, List.length_singleton, List.take_succ_eq_append_getElem hlt,
          ← hcopied heq]
    · next hnone =>
      split at hstep
      · obtain rfl := Option.some.inj hstep
        exact h.setReader trivial
      · next hsame =>
        obtain rfl := Option.some.inj hstep
        have hsince : since = s.count := by
          refine eq_of_sequence hle (ht left sequence since copied hreader) ?_
          rw [← h.sequence, ← hseq]
          exact not_not.mp hsame
        obtain ⟨a, ha, hwords, -⟩ := h.complete (hsince ▸ heven)
        refine h.setReader ⟨a, by rw [hsince]; exact ha, ?_⟩
        rw [hcopied hsince, List.take_of_length_le (List.getElem?_eq_none_iff.mp hnone), hwords]
  · cases hstep

theorem Inv.step (hw : 0 < w) (h : Inv c s) {act : SeqAct A R} (ht : Timely s act)
    (hstep : s.step c attempts act = some s') : Inv c s' := by
  cases act with
  | publish a =>
    simp only [SeqLock.step] at hstep
    split at hstep
    · next hidle =>
      obtain rfl := Option.some.inj hstep
      exact h.publish hidle a
    · cases hstep
  | store => exact h.store hstep
  | start r =>
    simp only [SeqLock.step] at hstep
    split at hstep
    · obtain rfl := Option.some.inj hstep
      exact h.setReader trivial
    · obtain rfl := Option.some.inj hstep
      exact h.setReader trivial
    · cases hstep
  | read r => exact h.read hw ht hstep

/-- A reader changes nothing but itself. -/
theorem eq_setReader_of_read (hstep : s.read r = some s') : ∃ reader, s' = s.setReader r reader := by
  unfold SeqLock.read at hstep
  split at hstep
  · cases hstep
  · exact ⟨_, (Option.some.inj hstep).symm⟩
  · split at hstep <;> exact ⟨_, (Option.some.inj hstep).symm⟩
  · split at hstep
    · exact ⟨_, (Option.some.inj hstep).symm⟩
    · split at hstep <;> exact ⟨_, (Option.some.inj hstep).symm⟩
  · cases hstep

theorem count_step {act : SeqAct A R} (hstep : s.step c attempts act = some s') :
    s'.count ≤ s.count + 1 := by
  cases act with
  | publish a =>
    simp only [SeqLock.step] at hstep
    split at hstep
    · obtain rfl := Option.some.inj hstep
      exact le_rfl
    · cases hstep
  | store =>
    simp only [SeqLock.step, SeqLock.store] at hstep
    split at hstep
    · cases hstep
    · split at hstep
      · obtain rfl := Option.some.inj hstep
        exact Nat.le_succ _
      · obtain rfl := Option.some.inj hstep
        exact le_rfl
  | start r =>
    simp only [SeqLock.step] at hstep
    split at hstep
    · obtain rfl := Option.some.inj hstep
      exact Nat.le_succ _
    · obtain rfl := Option.some.inj hstep
      exact Nat.le_succ _
    · cases hstep
  | read r =>
    obtain ⟨reader, rfl⟩ := eq_setReader_of_read hstep
    exact Nat.le_succ _

theorem inv_inductive (hw : 0 < w) :
    (seqLocks w R c attempts first).Inductive Timely (Inv c) where
  init s hs := by
    obtain rfl := hs
    exact inv_fresh first
  step _ _ _ h ht hstep := h.step hw ht hstep

/-- **A read returns one value**: the one that was complete throughout the read. -/
theorem eq_encode_of_reachBy (hw : 0 < w) (h : (seqLocks w R c attempts first).ReachBy Timely s)
    {words : List V} {since : Nat} (hr : s.reader r = .returned (some words) since) :
    ∃ a, s.published[since / 2]? = some a ∧ words = c.encode a := by
  have hreads := ((inv_inductive hw).reachBy h).reads r
  rwa [hr] at hreads

/-- A run that is shorter than the sequence is timely. -/
theorem meets_of_short {acts : List (SeqAct A R)} (h : s.count + acts.length < 2 ^ w) :
    (seqLocks w R c attempts first).Meets Timely s acts := by
  induction acts generalizing s with
  | nil => trivial
  | cons act acts ih =>
    rw [List.length_cons] at h
    refine ⟨?_, fun s' hstep => ih ?_⟩
    · cases act with
      | read r => exact fun _ _ since _ _ => lt_of_le_of_lt (Nat.sub_le _ since) (by omega)
      | publish _ | store | start _ => trivial
    · have hcount := count_step hstep
      omega

/-! ## Runs of publications -/

/-- The accesses of one publication. -/
def publication (R : Type) (c : Codec A V) (a : A) : List (SeqAct A R) :=
  .publish a :: List.replicate (c.width + 1) .store

theorem run_store {a old : A} (k : Nat) {next : Nat} (hk : next + k = c.width)
    (hwriter : s.writer = .storing a next) (hwords : s.words = mixed c a old next) :
    (seqLocks w R c attempts first).run s (List.replicate (k + 1) .store) =
      some { s.increment with words := c.encode a, writer := .idle } := by
  induction k generalizing s next with
  | zero =>
    have hnone : (c.encode a)[next]? = none := by
      rw [List.getElem?_eq_none_iff, c.length_encode]
      omega
    have hstep : s.store c = some { s.increment with writer := .idle } := by
      unfold SeqLock.store
      rw [hwriter]
      simp only [hnone]
    refine System.run_singleton.mpr (hstep.trans ?_)
    rw [← mixed_width a old, ← hk, Nat.add_zero, ← hwords]
    rfl
  | succ k ih =>
    have hlt : next < (c.encode a).length := by
      rw [c.length_encode]
      omega
    have hv := List.getElem?_eq_getElem hlt
    have hstep : s.store c = some { s with
        words := s.words.set next (c.encode a)[next], writer := .storing a (next + 1) } := by
      unfold SeqLock.store
      rw [hwriter]
      simp only [hv]
    rw [List.replicate_succ, System.run_cons]
    refine ⟨_, hstep, ih (by omega) rfl ?_⟩
    rw [hwords, set_mixed a old hv]

theorem run_publication {old : A} (a : A) (hwriter : s.writer = .idle)
    (hwords : s.words = c.encode old) :
    (seqLocks w R c attempts first).run s (publication R c a) =
      some { s.increment.increment with
        words := c.encode a, published := s.published ++ [a] } := by
  have hstep : s.step c attempts (.publish a) = some { s.increment with
      writer := .storing a 0, published := s.published ++ [a] } := by
    simp only [SeqLock.step, hwriter]
  refine System.run_cons.mpr ⟨_, hstep, ?_⟩
  refine (run_store
    (s := { s.increment with writer := .storing a 0, published := s.published ++ [a] })
    c.width (Nat.zero_add _) rfl (hwords.trans (mixed_zero a old).symm)).trans ?_
  simp only [increment, hwriter]

/-- Any number of publications of one value. -/
theorem run_publications (attempts : Nat) (first : A) {old : A} (a : A) (n : Nat) (hwriter : s.writer = .idle)
    (hwords : s.words = c.encode old) : ∃ s' : SeqLock w A V R,
    (seqLocks w R c attempts first).run s (List.replicate n (publication R c a)).flatten = some s' ∧
      s'.writer = .idle ∧ s'.words = (if n = 0 then c.encode old else c.encode a) ∧
      s'.reader = s.reader ∧ s'.sequence = s.sequence + BitVec.ofNat w (2 * n) ∧
      s'.published = s.published ++ List.replicate n a := by
  induction n generalizing s old with
  | zero => exact ⟨s, rfl, hwriter, hwords, rfl, by simp, by simp⟩
  | succ n ih =>
    obtain ⟨s', hrun, hwriter', hwords', hreader, hsequence, hpublished⟩ := ih
      (s := { s.increment.increment with words := c.encode a, published := s.published ++ [a] })
      hwriter rfl
    refine ⟨s', ?_, hwriter', ?_, hreader, ?_, ?_⟩
    · rw [List.replicate_succ, List.flatten_cons]
      exact System.run_append.mpr ⟨_, run_publication a hwriter hwords, hrun⟩
    · rw [hwords']
      simp
    · rw [hsequence]
      show s.sequence + 1 + 1 + _ = _
      rw [show 2 * (n + 1) = 1 + (1 + 2 * n) by omega, BitVec.ofNat_add, BitVec.ofNat_add,
        BitVec.add_assoc, BitVec.add_assoc]
      rfl
    · rw [hpublished, List.replicate_succ]
      simp

theorem run_copying (c : Codec A V) (attempts : Nat) (first : A) (k : Nat) {left since : Nat} {copied : List V}
    (hk : copied.length + k = s.words.length)
    (hreader : s.reader r = .copying left s.sequence since copied) :
    (seqLocks w R c attempts first).run s (List.replicate (k + 1) (.read r)) =
      some (s.setReader r (.returned (some (copied ++ s.words.drop copied.length)) since)) := by
  induction k generalizing s copied with
  | zero =>
    have hnone : s.words[copied.length]? = none := List.getElem?_eq_none_iff.mpr (by omega)
    refine System.run_singleton.mpr ?_
    show s.read r = _
    unfold SeqLock.read
    rw [hreader]
    simp only [hnone, ne_eq, not_true_eq_false, if_false]
    rw [List.drop_eq_nil_of_le (by omega), List.append_nil]
  | succ k ih =>
    have hlt : copied.length < s.words.length := by omega
    have hv := List.getElem?_eq_getElem hlt
    have hstep : s.read r = some (s.setReader r
        (.copying left s.sequence since (copied ++ [s.words[copied.length]]))) := by
      unfold SeqLock.read
      rw [hreader]
      simp only [hv]
    rw [List.replicate_succ, System.run_cons]
    refine ⟨_, hstep, ?_⟩
    rw [ih (by simp only [setReader, List.length_append, List.length_singleton]; omega)
      (Function.update_self ..)]
    simp only [setReader, Function.update_idem, List.length_append, List.length_singleton,
      List.append_assoc, List.singleton_append, ← List.drop_eq_getElem_cons hlt]

/-- Where the sequence wraps between the two loads of a reader, the reader returns words of two
values. -/
theorem run_wrapped (c : Codec A V) (hwidth : 0 < c.width) (first a : A) (r : R) (k : Nat) :
    ∃ acts, ∃ s : SeqLock (k + 1) A V R,
      (seqLocks (k + 1) R c (attempts + 1) first).run (.fresh c first) acts = some s ∧
      s.published = first :: List.replicate (2 ^ k) a ∧
      s.reader r = .returned (some (mixed c first a 1)) 0 := by
  have hlt : 0 < (c.encode first).length := by rwa [c.length_encode]
  -- the reader loads the sequence and the first word
  obtain ⟨s₁, hrun₁, hwriter₁, hwords₁, hreader₁, hsequence₁, hpublished₁⟩ :
      ∃ s₁ : SeqLock (k + 1) A V R, (seqLocks (k + 1) R c (attempts + 1) first).run
        (.fresh c first) [.start r, .read r, .read r] = some s₁ ∧ s₁.writer = .idle ∧
        s₁.words = c.encode first ∧
        s₁.reader r = .copying attempts 0 0 ((c.encode first).take 1) ∧ s₁.sequence = 0 ∧
        s₁.published = [first] := by
    have hv := List.getElem?_eq_getElem hlt
    refine ⟨_, System.run_cons.mpr ⟨_, rfl, System.run_cons.mpr
      ⟨(SeqLock.fresh c first).setReader r (.copying attempts 0 0 []), ?_, System.run_singleton.mpr
        (?_ : _ = some ((SeqLock.fresh c first).setReader r
          (.copying attempts 0 0 [(c.encode first)[0]])))⟩⟩, rfl, rfl, ?_, rfl, rfl⟩
    · show SeqLock.read _ r = _
      unfold SeqLock.read
      simp [setReader, fresh]
    · show SeqLock.read _ r = _
      unfold SeqLock.read
      simp [setReader, fresh, hv]
    · show Function.update _ r _ r = _
      rw [Function.update_self, List.take_succ_eq_append_getElem hlt]
      rfl
  obtain ⟨s₂, hrun₂, -, hwords₂, hreader₂, hsequence₂, hpublished₂⟩ :=
    run_publications (attempts + 1) first a (2 ^ k) hwriter₁ hwords₁
  have hzero : s₂.sequence = 0 := by
    have hwraps : BitVec.ofNat (k + 1) (2 ^ (k + 1)) = 0 := by
      apply BitVec.eq_of_toNat_eq
      rw [BitVec.toNat_ofNat, Nat.mod_self]
      rfl
    rw [hsequence₂, hsequence₁, ← pow_succ', hwraps]
    rfl
  rw [if_neg (pow_ne_zero k two_ne_zero)] at hwords₂
  have hlen : ((c.encode first).take 1).length = 1 := by
    rw [List.length_take]
    omega
  have hcopying : s₂.reader r = .copying attempts s₂.sequence 0 ((c.encode first).take 1) := by
    rw [hreader₂, hreader₁, hzero]
  have hrun₃ := run_copying c (attempts + 1) first (c.width - 1)
    (by rw [hlen, hwords₂, c.length_encode]; omega) hcopying
  refine ⟨_, _, System.run_append.mpr ⟨_, hrun₁, System.run_append.mpr ⟨_, hrun₂, hrun₃⟩⟩, ?_, ?_⟩
  · show s₂.published = _
    rw [hpublished₂, hpublished₁]
    rfl
  · show Function.update _ r _ r = _
    rw [Function.update_self, hwords₂, hlen]
    rfl

end SeqLock
end Sys
