import Mathlib.Data.List.Forall2
import UsbRadioPlus.Core.ConfigDocument

/-!
# What a document says

`explicitValues` folds the assignments of a section into a map. `assigned` is the list of those
assignments in document order, so a value is the last pair of a list (`get?_explicitValues`), and
what an edit does to a document is what it does to this list. `assignedFrom` reads a list of lines
from a given `active` flag; `assignedFrom_append` cuts it at any line, which is all the edit proofs
use.

* `optionValues`: the values assigned to one option, names compared ignoring ASCII case.
* `effectiveValue`: the last of them.
-/

namespace UsbRadioPlus
namespace Core

open Rust Rust.Str

/-! ## Lines -/

/-- The line is a section header. -/
def isHeader (line : Str) : Bool := (sectionHeader line).isSome

/-- The line is a header of the section. -/
def opens (sectionName line : Str) : Bool :=
  (sectionHeader line).any fun found => eqIgnoreAsciiCase found sectionName

/-- The line assigns the option, in whatever section it stands. -/
def assigns (name line : Str) : Bool :=
  (assignment line).any fun found => eqIgnoreAsciiCase found.1 name

theorem exists_of_opens {s l : Str} (h : opens s l = true) :
    ∃ found, sectionHeader l = some found ∧ eqIgnoreAsciiCase found s = true := by
  unfold opens at h
  cases hl : sectionHeader l with
  | none => simp [hl] at h
  | some found => exact ⟨found, rfl, by simpa [hl] using h⟩

/-- Whether a line opens a section depends on the section up to ASCII case. -/
theorem opens_congr {s s' : Str} (h : asciiKey s = asciiKey s') (l : Str) :
    opens s l = opens s' l := by
  simp only [opens, eqIgnoreAsciiCase, h]

theorem isHeader_of_opens {s l : Str} (h : opens s l = true) : isHeader l = true := by
  obtain ⟨found, hf, -⟩ := exists_of_opens h
  simp [isHeader, hf]

theorem not_opens_of_not_isHeader {s l : Str} (h : isHeader l = false) : opens s l = false :=
  Bool.eq_false_iff.mpr fun ho => by simp [isHeader_of_opens ho] at h

theorem validateOptionName_eq_ok_iff {name : Str} :
    validateOptionName name = .ok () ↔ name ≠ [] ∧ ∀ c ∈ name, isOptionChar c = true := by
  unfold validateOptionName
  cases name <;> simp

theorem validateSectionName_eq_ok_iff {s : Str} :
    validateSectionName s = .ok () ↔
      trim s ≠ [] ∧ ∀ c ∈ s, c ≠ ']' ∧ c ≠ '\r' ∧ c ≠ '\n' := by
  unfold validateSectionName
  simp [List.isEmpty_iff, and_assoc]

theorem validateValue_eq_ok_iff {v : Str} :
    validateValue v = .ok () ↔ ∀ c ∈ v, c ≠ '\r' ∧ c ≠ '\n' := by
  unfold validateValue
  simp

section OptionName

variable {name : Str} (hn : validateOptionName name = .ok ())
include hn

theorem optionName_ne_nil : name ≠ [] := (validateOptionName_eq_ok_iff.mp hn).1

theorem optionName_notMem {c : Char} (hc : isOptionChar c = false) : c ∉ name :=
  fun h => by simp [(validateOptionName_eq_ok_iff.mp hn).2 c h] at hc

theorem optionName_not_ws : ∀ c ∈ name, isWhitespace c = false :=
  fun c hc => isWhitespace_of_isOptionChar ((validateOptionName_eq_ok_iff.mp hn).2 c hc)

theorem trim_optionName : trim name = name := trim_eq_self_of_not_ws (optionName_not_ws hn)

theorem exists_cons_optionName : ∃ c t, name = c :: t ∧ isOptionChar c = true := by
  cases h : name with
  | nil => exact absurd h (optionName_ne_nil hn)
  | cons c t => exact ⟨c, t, rfl, (validateOptionName_eq_ok_iff.mp hn).2 c (by simp [h])⟩

/-- A line that starts with an option name, behind white space only, is no header. -/
theorem sectionHeader_optionName {w : Str} (hw : Blank w) (r : Str) :
    sectionHeader (w ++ (name ++ r)) = none := by
  obtain ⟨c, t, rfl, hc⟩ := exists_cons_optionName hn
  have hne : c ≠ '[' := by rintro rfl; exact absurd hc (by decide)
  rw [sectionHeader, trimStart_blank_append hw, List.cons_append,
    trimStart_cons (isWhitespace_of_isOptionChar hc)]
  split
  · rename_i heq; simp at heq; exact absurd heq.1 hne
  · rfl

/-- The written line, behind white space, reads back as an assignment of the name. -/
theorem assignment_assignmentLine {w e : Str} (hw : Blank w) (he : Blank e) (v : Str) :
    assignment (w ++ ConfigDocument.assignmentLine name v e) = some (name, valueText v) := by
  obtain ⟨c, t, hct, hc⟩ := exists_cons_optionName hn
  have hsplit : splitOnce '=' (ConfigDocument.assignmentLine name v e) =
      some (name ++ [' '], ' ' :: (v ++ e)) := by
    refine splitOnce_eq_some_iff.mpr ⟨by simp [ConfigDocument.assignmentLine], ?_⟩
    simp [optionName_notMem hn (show isOptionChar '=' = false by decide)]
  have hstart : trimStart (w ++ ConfigDocument.assignmentLine name v e) =
      ConfigDocument.assignmentLine name v e := by
    rw [trimStart_blank_append hw, ConfigDocument.assignmentLine, hct]
    exact trimStart_cons (isWhitespace_of_isOptionChar hc) _
  have hhead : (ConfigDocument.assignmentLine name v e).head? = some c := by
    simp [ConfigDocument.assignmentLine, hct]
  have hcc : (isComment c || decide (c = '[')) = false := by
    by_contra h
    simp only [Bool.not_eq_false, Bool.or_eq_true, decide_eq_true_eq, isComment] at h
    rcases h with (rfl | rfl) | rfl <;> exact absurd hc (by decide)
  have htrim : trim (name ++ [' ']) = name := by
    rw [trim_append_blank (by decide), trim_optionName hn]
  have hvalue : valueText (' ' :: (v ++ e)) = valueText v := by
    rw [← List.singleton_append, valueText_blank_append (w := [' ']) (by decide),
      valueText_append_blank he]
  simp only [assignment, hstart, hhead, Option.any_some, hcc, Bool.false_eq_true, if_false, hsplit,
    htrim, hn, hvalue]

theorem sectionHeader_assignmentLine {w : Str} (hw : Blank w) (v e : Str) :
    sectionHeader (w ++ ConfigDocument.assignmentLine name v e) = none := by
  rw [ConfigDocument.assignmentLine, List.append_assoc, List.append_assoc]
  exact sectionHeader_optionName hn hw _

end OptionName

/-- The header written for a section name reads back as the trimmed name. -/
theorem sectionHeader_written {s : Str} (hs : validateSectionName s = .ok ()) (e : Str) :
    sectionHeader ('[' :: (s ++ ']' :: e)) = some (trim s) := by
  obtain ⟨hne, hchars⟩ := validateSectionName_eq_ok_iff.mp hs
  have hn : ']' ∉ s := fun h => (hchars _ h).1 rfl
  rw [sectionHeader, trimStart_cons (by decide)]
  simp [splitOnce_of_notMem hn, hne, List.isEmpty_iff]

/-- The name in a header is trimmed. -/
theorem trim_of_sectionHeader {l s : Str} (h : sectionHeader l = some s) : trim s = s := by
  unfold sectionHeader at h
  split at h
  · split at h
    · cases h
    · simp only at h
      split at h
      · cases h
      · simp only [Option.some.injEq] at h
        rw [← h, trim_trim]
  · cases h

/-- Text behind a header leaves it the header it is. -/
theorem sectionHeader_append {l found : Str} (h : sectionHeader l = some found) (t : Str) :
    sectionHeader (l ++ t) = some found := by
  have hl : ¬ Blank l := fun hb => by rw [sectionHeader_blank hb] at h; cases h
  unfold sectionHeader at h ⊢
  rw [trimStart_append hl]
  split at h
  · rename_i rest heq
    rw [heq, List.cons_append]
    simp only
    cases hs : splitOnce ']' rest with
    | none => rw [hs] at h; cases h
    | some ab =>
      obtain ⟨inner, r⟩ := ab
      obtain ⟨rfl, hn⟩ := splitOnce_eq_some_iff.mp hs
      rw [hs] at h
      rw [List.append_assoc, List.cons_append, splitOnce_of_notMem hn]
      exact h
  · cases h

/-- **Inversion of `assignment`**. -/
theorem assignment_eq_some_iff {l : Str} {p : Str × Str} :
    assignment l = some p ↔
      ((trimStart l).head?.any fun c => isComment c || c = '[') = false ∧
        ∃ a b, splitOnce '=' (trimStart l) = some (a, b) ∧
          validateOptionName (trim a) = .ok () ∧ p = (trim a, valueText b) := by
  simp only [assignment]
  cases (trimStart l).head?.any fun c => isComment c || c = '[' with
  | true => simp
  | false =>
    cases splitOnce '=' (trimStart l) with
    | none => simp
    | some ab =>
      obtain ⟨a, b⟩ := ab
      simp only [Bool.false_eq_true, if_false, true_and, Option.some.injEq, Prod.mk.injEq,
        ← exists_and_left]
      cases hn : validateOptionName (trim a) with
      | error e =>
        constructor
        · intro h; cases h
        · rintro ⟨a', b', ⟨rfl, rfl⟩, h, -⟩; rw [hn] at h; cases h
      | ok _ =>
        constructor
        · intro h; exact ⟨a, b, ⟨rfl, rfl⟩, hn, by simpa using h.symm⟩
        · rintro ⟨a', b', ⟨rfl, rfl⟩, -, rfl⟩; rfl

/-- No value that is read contains a comment character. -/
theorem not_isComment_of_assignment {l n v : Str} (h : assignment l = some (n, v)) :
    ∀ c ∈ v, isComment c = false := by
  obtain ⟨-, a, b, -, -, hp⟩ := assignment_eq_some_iff.mp h
  intro c hc
  rw [(Prod.mk.inj hp).2] at hc
  simpa using List.mem_takeWhile_imp (mem_of_mem_trim hc)

/-! ## Reading a list of lines -/

/-- Whether the section is active behind the lines. -/
def activeAfter (requestedSection : Str) (active : Bool) (ls : List Str) : Bool :=
  ls.foldl (fun active line =>
    ((sectionHeader line).map fun found => eqIgnoreAsciiCase found requestedSection).getD active)
    active

/-- The pairs that the loop of `explicit_values` inserts, in order. -/
@[grind =] def assignedFrom (requestedSection : Str) : Bool → List Str → List (Str × Str)
  | _, [] => []
  | active, line :: rest =>
    match sectionHeader line with
    | some found => assignedFrom requestedSection (eqIgnoreAsciiCase found requestedSection) rest
    | none => (if active then (assignment line).toList else []) ++
        assignedFrom requestedSection active rest

@[simp] theorem activeAfter_nil (r : Str) (a : Bool) : activeAfter r a [] = a := rfl

theorem activeAfter_append (r : Str) (a : Bool) (xs ys : List Str) :
    activeAfter r a (xs ++ ys) = activeAfter r (activeAfter r a xs) ys :=
  List.foldl_append

theorem activeAfter_cons (r : Str) (a : Bool) (l : Str) (ls : List Str) :
    activeAfter r a (l :: ls) = activeAfter r (activeAfter r a [l]) ls :=
  activeAfter_append r a [l] ls

theorem activeAfter_header {l found : Str} (h : sectionHeader l = some found) (r : Str) (a : Bool) :
    activeAfter r a [l] = eqIgnoreAsciiCase found r := by
  simp [activeAfter, h]

theorem activeAfter_none {l : Str} (h : sectionHeader l = none) (r : Str) (a : Bool) :
    activeAfter r a [l] = a := by
  simp [activeAfter, h]

theorem assignedFrom_append (r : Str) (a : Bool) (xs ys : List Str) :
    assignedFrom r a (xs ++ ys) =
      assignedFrom r a xs ++ assignedFrom r (activeAfter r a xs) ys := by
  induction xs generalizing a with
  | nil => rfl
  | cons l xs ih =>
    rw [List.cons_append, activeAfter_cons]
    cases h : sectionHeader l with
    | some found => simp only [assignedFrom, h, ih, activeAfter_header h]
    | none => simp only [assignedFrom, h, ih, activeAfter_none h, List.append_assoc]

theorem assignedFrom_header {l found : Str} (h : sectionHeader l = some found) (r : Str)
    (a : Bool) : assignedFrom r a [l] = [] := by
  simp [assignedFrom, h]

theorem assignedFrom_none {l : Str} (h : sectionHeader l = none) (r : Str) (a : Bool) :
    assignedFrom r a [l] = if a then (assignment l).toList else [] := by
  simp [assignedFrom, h]

/-- An inactive reader reads nothing before the first header of the section. -/
theorem inactive_of_not_opens {r : Str} {ls : List Str} (h : ∀ l ∈ ls, opens r l = false) :
    activeAfter r false ls = false ∧ assignedFrom r false ls = [] := by
  induction ls with
  | nil => exact ⟨rfl, rfl⟩
  | cons l ls ih =>
    simp only [List.mem_cons, forall_eq_or_imp] at h
    obtain ⟨ih1, ih2⟩ := ih h.2
    rw [activeAfter_cons]
    cases hl : sectionHeader l with
    | some found =>
      have hf : eqIgnoreAsciiCase found r = false := by simpa [opens, hl] using h.1
      simp only [assignedFrom, hl, activeAfter_header hl, hf, ih1, ih2, and_self]
    | none => simp [assignedFrom, hl, activeAfter_none hl, ih1, ih2]

/-- Lines without a header are read in one state. -/
theorem block_of_not_isHeader (r : Str) (a : Bool) {ls : List Str}
    (h : ∀ l ∈ ls, isHeader l = false) :
    activeAfter r a ls = a ∧ assignedFrom r a ls = if a then ls.filterMap assignment else [] := by
  induction ls with
  | nil => exact ⟨rfl, by simp [assignedFrom]⟩
  | cons l ls ih =>
    simp only [List.mem_cons, forall_eq_or_imp] at h
    obtain ⟨ih1, ih2⟩ := ih h.2
    have hl : sectionHeader l = none := by simpa [isHeader] using h.1
    rw [activeAfter_cons, activeAfter_none hl]
    refine ⟨ih1, ?_⟩
    simp only [assignedFrom, hl, ih2, List.filterMap_cons]
    cases a <;> cases assignment l <;> rfl

/-- What is read depends on the section up to ASCII case. -/
theorem reading_congr {r r' : Str} (h : asciiKey r = asciiKey r') (a : Bool) (ls : List Str) :
    activeAfter r a ls = activeAfter r' a ls ∧ assignedFrom r a ls = assignedFrom r' a ls := by
  have he : ∀ found, eqIgnoreAsciiCase found r = eqIgnoreAsciiCase found r' := fun found => by
    simp [eqIgnoreAsciiCase, h]
  refine ⟨by simp only [activeAfter, he], ?_⟩
  induction ls generalizing a with
  | nil => rfl
  | cons l ls ih => simp only [assignedFrom, he, ih]

/-- Two lines that are read alike: a line and the line with white space behind it. -/
def SameReading (l l' : Str) : Prop :=
  sectionHeader l' = sectionHeader l ∧ assignment l' = assignment l

theorem SameReading.append_blank {w : Str} (hw : Blank w) (l : Str) : SameReading l (l ++ w) :=
  ⟨sectionHeader_append_blank hw l, assignment_append_blank hw l⟩

theorem reading_sameReading {ls ls' : List Str} (h : List.Forall₂ SameReading ls ls') (r : Str)
    (a : Bool) :
    activeAfter r a ls' = activeAfter r a ls ∧ assignedFrom r a ls' = assignedFrom r a ls := by
  induction h generalizing a with
  | nil => exact ⟨rfl, rfl⟩
  | @cons l l' ls ls' hl _ ih =>
    rw [activeAfter_cons r a l', activeAfter_cons r a l]
    cases hs : sectionHeader l with
    | some found =>
      simp only [assignedFrom, hl.1, hs, activeAfter_header hs, activeAfter_header (hl.1.trans hs),
        ih, and_self]
    | none =>
      simp only [assignedFrom, hl.1, hl.2, hs, activeAfter_none hs,
        activeAfter_none (hl.1.trans hs), ih, and_self]

/-- The line endings that `str::lines` strips change nothing. -/
theorem assignedFrom_stripLineEnding (r : Str) (a : Bool) (ls : List Str) :
    assignedFrom r a (ls.map stripLineEnding) = assignedFrom r a ls := by
  refine (reading_sameReading ?_ r a).2
  rw [List.forall₂_map_right_iff]
  exact List.forall₂_same.mpr fun l _ =>
    ⟨sectionHeader_stripLineEnding l, assignment_stripLineEnding l⟩

/-- What is read stands in a line. -/
theorem exists_assignment_of_mem_assignedFrom {r : Str} {a : Bool} {ls : List Str} {p : Str × Str}
    (h : p ∈ assignedFrom r a ls) : ∃ l ∈ ls, assignment l = some p := by
  induction ls generalizing a with
  | nil => simp [assignedFrom] at h
  | cons l ls ih =>
    rw [assignedFrom] at h
    split at h
    · obtain ⟨l', hl', hp⟩ := ih h
      exact ⟨l', List.mem_cons_of_mem _ hl', hp⟩
    · rcases List.mem_append.mp h with h | h
      · split at h
        · exact ⟨l, List.mem_cons_self, Option.mem_toList.mp h⟩
        · simp at h
      · obtain ⟨l', hl', hp⟩ := ih h
        exact ⟨l', List.mem_cons_of_mem _ hl', hp⟩

theorem not_isComment_of_mem_assignedFrom {r : Str} {a : Bool} {ls : List Str} {p : Str × Str}
    (h : p ∈ assignedFrom r a ls) : ∀ c ∈ p.2, isComment c = false := by
  obtain ⟨l, -, hp⟩ := exists_assignment_of_mem_assignedFrom h
  exact not_isComment_of_assignment hp

theorem trim_of_mem_assignedFrom {r : Str} {a : Bool} {ls : List Str} {p : Str × Str}
    (h : p ∈ assignedFrom r a ls) : trim p.2 = p.2 := by
  obtain ⟨l, -, hp⟩ := exists_assignment_of_mem_assignedFrom h
  obtain ⟨-, a, b, -, -, rfl⟩ := assignment_eq_some_iff.mp hp
  exact trim_trim _

/-! ## Reading a document -/

namespace ConfigDocument

/-- The pairs that `explicit_values` inserts. -/
def assigned (self : ConfigDocument) (requestedSection : Str) : List (Str × Str) :=
  assignedFrom requestedSection false (splitInclusive self.text)

/-- The values assigned to an option of a section, names compared ignoring ASCII case. -/
def optionValues (self : ConfigDocument) (sectionName name : Str) : List Str :=
  ((self.assigned sectionName).filter fun p => eqIgnoreAsciiCase p.1 name).map (·.2)

/-- The value of an option: the last assignment wins. -/
def effectiveValue (self : ConfigDocument) (sectionName name : Str) : Option Str :=
  (self.optionValues sectionName name).getLast?

theorem foldl_readStep (r : Str) (ls : List Str) (m : BTreeMap Str Str) (a : Bool) :
    ls.foldl (readStep r) (m, a) =
      ((assignedFrom r a ls).foldl (fun m p => m.insert p.1 p.2) m, activeAfter r a ls) := by
  induction ls generalizing m a with
  | nil => rfl
  | cons l ls ih =>
    rw [List.foldl_cons, activeAfter_cons]
    cases h : sectionHeader l with
    | some found => simp only [readStep, h, assignedFrom, ih, activeAfter_header h]
    | none =>
      simp only [readStep, h, assignedFrom, activeAfter_none h]
      cases a
      · simp [ih]
      · cases assignment l <;> simp [ih]

/-- `explicit_values` inserts the assigned pairs one after the other. -/
theorem explicitValues_eq (self : ConfigDocument) (r : Str) :
    self.explicitValues r =
      (self.assigned r).foldl (fun m p => m.insert p.1 p.2) .empty := by
  rw [explicitValues, foldl_readStep, lines, Str.lines, assignedFrom_stripLineEnding, assigned]

theorem get?_explicitValues (self : ConfigDocument) (r k : Str) :
    (self.explicitValues r).get? k =
      ((self.assigned r).filter fun p => p.1 = k).getLast?.map (·.2) := by
  rw [explicitValues_eq, BTreeMap.get?_foldl_insert, BTreeMap.get?_empty, Option.or_none]
  -- The two sides decide the equation of keys by different instances.
  congr 2
  exact List.filter_congr fun p _ => decide_eq_decide.mpr Iff.rfl

/-- Where a section spells the option in one way, its value is the entry of `explicit_values`. -/
theorem effectiveValue_eq_get? {self : ConfigDocument} {r n : Str}
    (h : ∀ p ∈ self.assigned r, eqIgnoreAsciiCase p.1 n = true → p.1 = n) :
    self.effectiveValue r n = (self.explicitValues r).get? n := by
  rw [get?_explicitValues, effectiveValue, optionValues, List.getLast?_map]
  congr 2
  apply List.filter_congr
  intro p hp
  by_cases he : p.1 = n
  · simp [he]
  · have : eqIgnoreAsciiCase p.1 n = false := Bool.eq_false_iff.mpr fun ht => he (h p hp ht)
    simp [he, this]

theorem mem_optionValues {self : ConfigDocument} {s n v : Str} (h : v ∈ self.optionValues s n) :
    ∀ c ∈ v, isComment c = false := by
  obtain ⟨p, hp, rfl⟩ := List.mem_map.mp h
  exact not_isComment_of_mem_assignedFrom (List.mem_filter.mp hp).1

/-- The headers of a document, in file order. -/
theorem sectionNames_eq (self : ConfigDocument) :
    self.sectionNames =
      ((splitInclusive self.text).filterMap sectionHeader).foldl nameStep [] := by
  rw [sectionNames, lines, Str.lines, List.filterMap_map]
  congr 2
  funext l
  exact sectionHeader_stripLineEnding l

/-- Headers behind the others remove no name. -/
theorem mem_foldl_nameStep {t : Str} (hs : List Str) {names : List Str} (h : t ∈ names) :
    t ∈ hs.foldl nameStep names := by
  induction hs generalizing names with
  | nil => exact h
  | cons s hs ih =>
    rw [List.foldl_cons]
    apply ih
    unfold nameStep
    split
    · exact h
    · exact List.mem_append_left _ h

end ConfigDocument

end Core
end UsbRadioPlus
