import Mathlib.Data.Char
import Mathlib.Data.List.Lex
import UsbRadioPlus.Rust.BTreeMap
import UsbRadioPlus.Rust.Str

/-!
# The configuration document (`rust/core/src/config_document.rs`)

The owned text, its readers (`sectionNames`, `explicitValues`) and its two editors (`setValue`,
`removeValue`). An editor returns its result and the document after the call: what a failed call
leaves behind is part of the model. `validateSectionName` and its siblings return the error of the
source; a line is a section header, an assignment or neither.

`explicitValues` reads `str::lines`, the editors split at the line feed and keep it. Both see the
same headers and assignments (`sectionHeader_stripLineEnding`, `assignment_stripLineEnding`).
-/

namespace UsbRadioPlus
namespace Core

open Rust Rust.Str

/-- Shared configuration sections that do not create radio channels. -/
def FLAT_SECTIONS : List Str :=
  ["general", "asterisk", "hardware", "receive", "transmit", "ctcss", "dcs", "duplex",
    "diagnostics", "local", "link", "voice_telemetry", "remote_base", "remote_memory",
    "remote_scan"].map String.toList

/-- Configuration-document operation failure. -/
inductive ConfigError where
  /-- A section name was empty or contained a line delimiter or closing bracket. -/
  | invalidSectionName
  /-- An option name was empty or contained characters outside the established vocabulary. -/
  | invalidOptionName
  /-- A value contained a line delimiter. -/
  | invalidValue
  /-- A named channel was required but was not present in the document. -/
  | missingChannel (channel : Str)
  /-- A named channel references a profile section that does not exist. -/
  | missingProfile (profile : Str)
  deriving DecidableEq, Repr

/-! ## Names, values and lines -/

/-- `validate_section_name` -/
def validateSectionName (sectionName : Str) : Except ConfigError Unit :=
  if (trim sectionName).isEmpty || sectionName.any (fun c => c = ']' || c = '\r' || c = '\n') then
    .error .invalidSectionName
  else .ok ()

/-- `u8::is_ascii_alphanumeric` or an underscore. A character outside ASCII has only bytes from
128 up, none of which is either. -/
def isOptionChar (c : Char) : Bool :=
  ('0' ≤ c && c ≤ '9') || ('A' ≤ c && c ≤ 'Z') || ('a' ≤ c && c ≤ 'z') || c = '_'

/-- `validate_option_name` -/
def validateOptionName (name : Str) : Except ConfigError Unit :=
  if name.isEmpty || !name.all isOptionChar then .error .invalidOptionName else .ok ()

/-- `validate_value` -/
def validateValue (value : Str) : Except ConfigError Unit :=
  if value.any (fun c => c = '\r' || c = '\n') then .error .invalidValue else .ok ()

/-- `section_header` -/
def sectionHeader (line : Str) : Option Str :=
  match trimStart line with
  | '[' :: rest =>
    match splitOnce ']' rest with
    | none => none
    | some (inner, _) =>
      let sectionName := trim inner
      if sectionName.isEmpty then none else some sectionName
  | _ => none

/-- The characters that start a comment. -/
def isComment (c : Char) : Bool := c = ';' || c = '#'

/-- The value part of an assignment: the text before the first comment character, trimmed. -/
def valueText (remainder : Str) : Str := trim (remainder.takeWhile fun c => !isComment c)

/-- `assignment`: a name and its value, without the comment behind it. -/
def assignment (line : Str) : Option (Str × Str) :=
  let trimmed := trimStart line
  if trimmed.head?.any fun c => isComment c || c = '[' then none
  else
    match splitOnce '=' trimmed with
    | none => none
    | some (name, remainder) =>
      match validateOptionName (trim name) with
      | .error _ => none
      | .ok () => some (trim name, valueText remainder)

/-- `line_ending` -/
def lineEnding (line : Str) : Str :=
  if line.getLast? = some '\n' then
    if line.dropLast.getLast? = some '\r' then ['\r', '\n'] else ['\n']
  else []

/-! ## The document -/

/-- Owned, comment-preserving configuration text. -/
structure ConfigDocument where
  text : Str
  deriving DecidableEq, Repr

namespace ConfigDocument

/-- The lines with their ends. -/
def lines (self : ConfigDocument) : List Str := Str.lines self.text

/-- One header of `section_names`: kept if no earlier header has its name. -/
def nameStep (names : List Str) (sectionName : Str) : List Str :=
  if names.any (eqIgnoreAsciiCase sectionName) then names else names ++ [sectionName]

/-- Exact section names in file order, omitting repeated headers. -/
def sectionNames (self : ConfigDocument) : List Str :=
  (self.lines.filterMap sectionHeader).foldl nameStep []

/-- One line of the loop of `explicit_values`, with its variables `values` and `active`. -/
def readStep (requestedSection : Str) (loop : BTreeMap Str Str × Bool) (line : Str) :
    BTreeMap Str Str × Bool :=
  match sectionHeader line with
  | some sectionName => (loop.1, eqIgnoreAsciiCase sectionName requestedSection)
  | none =>
    if loop.2 then
      match assignment line with
      | some (name, value) => (loop.1.insert name value, loop.2)
      | none => loop
    else loop

/-- Explicitly assigned values from one exact section; later duplicates replace earlier ones. -/
def explicitValues (self : ConfigDocument) (requestedSection : Str) : BTreeMap Str Str :=
  (self.lines.foldl (readStep requestedSection) (.empty, false)).1

/-- Where the loop of `set_value` ends. -/
inductive Target where
  /-- At the assignment to replace. -/
  | replace (index : Nat)
  /-- Behind the section, or behind the text: `section_index` and `section_end`. -/
  | missing (sectionIndex : Option Nat) (sectionEnd : Nat)
  deriving DecidableEq, Repr

/-- The loop of `set_value` from line `index` on, with its variables `active` and `section_index`.
`total` is the number of lines, the first value of `section_end`. -/
@[grind =] def findTarget (sectionName name : Str) (total : Nat) :
    List Str → (index : Nat) → (active : Bool) → (sectionIndex : Option Nat) → Target
  | [], _, _, sectionIndex => .missing sectionIndex total
  | line :: rest, index, active, sectionIndex =>
    match sectionHeader line with
    | some found =>
      if active then .missing sectionIndex index
      else if eqIgnoreAsciiCase found sectionName then
        findTarget sectionName name total rest (index + 1) true (some index)
      else findTarget sectionName name total rest (index + 1) false sectionIndex
    | none =>
      if active && (assignment line).any fun found => eqIgnoreAsciiCase found.1 name then
        .replace index
      else findTarget sectionName name total rest (index + 1) active sectionIndex

/-- `format!("{name} = {value}{ending}")`. -/
def assignmentLine (name value ending : Str) : Str := name ++ " = ".toList ++ value ++ ending

/-- The two checked `push('\n')` before an appended section. -/
def separated (text : Str) : Str :=
  let text := if text ≠ [] ∧ text.getLast? ≠ some '\n' then text ++ ['\n'] else text
  if text ≠ [] ∧ ¬ ['\n', '\n'] <:+ text then text ++ ['\n'] else text

/-- A missing section that `set_value` may append: a scoped profile or a flat section. -/
def creatable (sectionName : Str) : Bool :=
  sectionName.any isWhitespace || FLAT_SECTIONS.any (eqIgnoreAsciiCase sectionName)

/-- Set one explicit assignment while preserving unrelated text and comments. -/
def setValue (self : ConfigDocument) (sectionName name value : Str) :
    Except ConfigError Unit × ConfigDocument :=
  match validateSectionName sectionName, validateOptionName name, validateValue value with
  | .error e, _, _ => (.error e, self)
  | _, .error e, _ => (.error e, self)
  | _, _, .error e => (.error e, self)
  | .ok (), .ok (), .ok () =>
    let lines := splitInclusive self.text
    match findTarget sectionName name lines.length lines 0 false none with
    | .replace index =>
      let line := assignmentLine name value (lineEnding (lines[index]?.getD []))
      (.ok (), ⟨(lines.set index line).flatten⟩)
    | .missing (some index) sectionEnd =>
      let line := assignmentLine name value ['\n']
      (.ok (), ⟨(lines.insertIdx (max sectionEnd (index + 1)) line).flatten⟩)
    | .missing none _ =>
      if !creatable sectionName then (.error (.missingChannel sectionName), self)
      else
        (.ok (), ⟨separated self.text ++ ('[' :: sectionName ++ "]\n".toList) ++
          assignmentLine name value ['\n']⟩)

/-- The loop of `remove_value` from line `index` on. -/
@[grind =] def findAssignment (sectionName name : Str) :
    List Str → (index : Nat) → (active : Bool) → Option Nat
  | [], _, _ => none
  | line :: rest, index, active =>
    match sectionHeader line with
    | some found =>
      findAssignment sectionName name rest (index + 1) (eqIgnoreAsciiCase found sectionName)
    | none =>
      if active && (assignment line).any fun found => eqIgnoreAsciiCase found.1 name then
        some index
      else findAssignment sectionName name rest (index + 1) active

/-- Remove the first matching explicit assignment from one exact section. -/
def removeValue (self : ConfigDocument) (sectionName name : Str) :
    Except ConfigError Bool × ConfigDocument :=
  match validateSectionName sectionName, validateOptionName name with
  | .error e, _ => (.error e, self)
  | _, .error e => (.error e, self)
  | .ok (), .ok () =>
    let lines := splitInclusive self.text
    match findAssignment sectionName name lines 0 false with
    | some index => (.ok true, ⟨(lines.eraseIdx index).flatten⟩)
    | none => (.ok false, self)

end ConfigDocument

/-! ## White space behind a line -/

theorem isWhitespace_of_isOptionChar {c : Char} (h : isOptionChar c = true) :
    isWhitespace c = false := by
  have hc : (48 ≤ c.toNat ∧ c.toNat ≤ 57) ∨ (65 ≤ c.toNat ∧ c.toNat ≤ 90) ∨
      (97 ≤ c.toNat ∧ c.toNat ≤ 122) ∨ c.toNat = 95 := by
    simp only [isOptionChar, Bool.or_eq_true, Bool.and_eq_true, decide_eq_true_eq] at h
    rcases h with ((h | h) | h) | rfl
    · exact .inl h
    · exact .inr (.inl h)
    · exact .inr (.inr (.inl h))
    · exact .inr (.inr (.inr rfl))
  simp only [isWhitespace, Bool.or_eq_false_iff, Bool.and_eq_false_iff, decide_eq_false_iff_not,
    beq_eq_false_iff_ne, ne_eq]
  omega

theorem isWhitespace_of_isComment {c : Char} (h : isComment c = true) : isWhitespace c = false := by
  simp only [isComment, Bool.or_eq_true, decide_eq_true_eq] at h
  rcases h with rfl | rfl <;> decide

theorem Blank.notMem {w : Str} (hw : Blank w) {c : Char} (hc : isWhitespace c = false) : c ∉ w :=
  fun h => by simpa [hc] using hw c h

theorem sectionHeader_blank {w : Str} (hw : Blank w) : sectionHeader w = none := by
  rw [sectionHeader, trimStart_eq_nil_iff.mpr hw]

theorem sectionHeader_append_blank {w : Str} (hw : Blank w) (l : Str) :
    sectionHeader (l ++ w) = sectionHeader l := by
  by_cases hl : Blank l
  · rw [sectionHeader_blank (hl.append hw), sectionHeader_blank hl]
  · rw [sectionHeader, trimStart_append hl, sectionHeader]
    rcases trimStart l with _ | ⟨c, t⟩
    · rcases w with _ | ⟨d, w⟩
      · rfl
      · have : d ≠ '[' := by rintro rfl; exact absurd (hw '[' (by simp)) (by decide)
        simp only [List.nil_append]
        split
        · rename_i heq; simp at heq; exact absurd heq.1 this
        · rfl
    · by_cases hc : c = '['
      · subst hc
        simp only [List.cons_append]
        rw [splitOnce_append (Blank.notMem hw (by decide))]
        rcases splitOnce ']' t with _ | ⟨a, b⟩ <;> rfl
      · simp only [List.cons_append]
        split
        · rename_i heq; simp at heq; exact absurd heq.1 hc
        · split
          · rename_i heq; simp at heq; exact absurd heq.1 hc
          · rfl

theorem Blank.not_isComment {w : Str} (hw : Blank w) : ∀ c ∈ w, (!isComment c) = true := by
  intro c hc
  by_contra h
  have := isWhitespace_of_isComment (c := c) (by simpa using h)
  simp [hw c hc] at this

theorem valueText_blank_append {w : Str} (hw : Blank w) (r : Str) :
    valueText (w ++ r) = valueText r := by
  rw [valueText, List.takeWhile_append_of_pos (Blank.not_isComment hw), trim_blank_append hw,
    valueText]

theorem valueText_append_blank {w : Str} (hw : Blank w) (r : Str) :
    valueText (r ++ w) = valueText r := by
  unfold valueText
  rw [List.takeWhile_append]
  split
  · rename_i h
    have hr : r.takeWhile (fun c => !isComment c) = r :=
      List.IsPrefix.eq_of_length (List.takeWhile_prefix _) h
    rw [show w.takeWhile (fun c => !isComment c) = w from
      List.takeWhile_eq_self_iff.mpr (Blank.not_isComment hw), trim_append_blank hw, hr]
  · rfl

theorem assignment_blank {w : Str} (hw : Blank w) : assignment w = none := by
  simp [assignment, trimStart_eq_nil_iff.mpr hw, splitOnce]

theorem assignment_append_blank {w : Str} (hw : Blank w) (l : Str) :
    assignment (l ++ w) = assignment l := by
  by_cases hl : Blank l
  · rw [assignment_blank (hl.append hw), assignment_blank hl]
  · have hne : trimStart l ≠ [] := fun h => hl (trimStart_eq_nil_iff.mp h)
    have hh : (trimStart l ++ w).head? = (trimStart l).head? := by
      cases h : trimStart l with
      | nil => exact absurd h hne
      | cons c t => rfl
    simp only [assignment, trimStart_append hl, hh]
    split
    · rfl
    · rw [splitOnce_append (Blank.notMem hw (by decide))]
      rcases splitOnce '=' (trimStart l) with _ | ⟨a, b⟩
      · rfl
      · simp only [Option.map_some, valueText_append_blank hw]

@[simp] theorem sectionHeader_stripLineEnding (l : Str) :
    sectionHeader (stripLineEnding l) = sectionHeader l := by
  obtain ⟨w, hw, hl⟩ := exists_stripLineEnding l
  conv_rhs => rw [hl, sectionHeader_append_blank hw]

@[simp] theorem assignment_stripLineEnding (l : Str) :
    assignment (stripLineEnding l) = assignment l := by
  obtain ⟨w, hw, hl⟩ := exists_stripLineEnding l
  conv_rhs => rw [hl, assignment_append_blank hw]

end Core
end UsbRadioPlus
