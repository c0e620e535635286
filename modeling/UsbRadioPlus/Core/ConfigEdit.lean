import UsbRadioPlus.Core.ConfigReading

/-!
# Editing a configuration document

`set_value` writes in one of four ways, and `SetCase` says for each what it does to the lines of
the text: it replaces the first assignment of the option in the first block of the section, it
inserts a line at the end of that block, it glues the line to the last line of the text (the block
ends the text and the text does not end in a line feed), or it appends the section.
`setCase_of_setValue` is the only proof that looks at the source function; `removeCase_of_removeValue`
is its counterpart. What is read after an edit (`Core/ConfigReadBack.lean`) and what stays
(`Core/ConfigFrame.lean`) follow from the cases.
-/

namespace UsbRadioPlus
namespace Core
namespace ConfigDocument

open Rust Rust.Str

/-! ## The four ways to write -/

/-- The first block of a section up to some line: the lines `before` its header, the `header` and
the lines `inside`, none of which assigns the option. -/
structure Block (sectionName name : Str) (before : List Str) (header : Str)
    (inside : List Str) : Prop where
  not_opens : ∀ l ∈ before, opens sectionName l = false
  opens : opens sectionName header = true
  not_isHeader : ∀ l ∈ inside, isHeader l = false
  not_assigns : ∀ l ∈ inside, assigns name l = false

/-- What the loop of `set_value` finds, by the shape of the lines. -/
inductive Located (sectionName name : Str) (ls : List Str) : Target → Prop
  | replace {before header inside line rest} :
    Block sectionName name before header inside →
    isHeader line = false → assigns name line = true →
    ls = before ++ header :: (inside ++ line :: rest) →
    Located sectionName name ls (.replace (before.length + 1 + inside.length))
  | inside {before header inside rest} :
    Block sectionName name before header inside →
    (∀ l ∈ rest.head?, isHeader l = true) →
    ls = before ++ header :: (inside ++ rest) →
    Located sectionName name ls
      (.missing (some before.length) (before.length + 1 + inside.length))
  | absent : (∀ l ∈ ls, Core.opens sectionName l = false) →
    Located sectionName name ls (.missing none ls.length)

theorem located_active {s n : Str} {ls before inside rest : List Str} {header : Str}
    (hb : Block s n before header inside) (hls : ls = before ++ header :: (inside ++ rest)) :
    Located s n ls (findTarget s n ls.length rest (before.length + 1 + inside.length) true
      (some before.length)) := by
  induction rest generalizing inside with
  | nil =>
    have hlen : ls.length = before.length + 1 + inside.length := by rw [hls]; simp; omega
    rw [findTarget, hlen]
    exact .inside hb (by simp) hls
  | cons l rest ih =>
    rw [findTarget]
    cases hl : sectionHeader l with
    | some found => exact .inside hb (by simp [isHeader, hl]) hls
    | none =>
      have hh : isHeader l = false := by simp [isHeader, hl]
      have he : ((assignment l).any fun found => eqIgnoreAsciiCase found.1 n) = assigns n l := rfl
      simp only [he, Bool.true_and]
      cases ha : assigns n l with
      | true => exact .replace hb hh ha hls
      | false =>
        simp only [Bool.false_eq_true, if_false]
        have hb' : Block s n before header (inside ++ [l]) := by
          refine ⟨hb.not_opens, hb.opens, fun x hx => ?_, fun x hx => ?_⟩
          · rcases List.mem_append.mp hx with hx | hx
            · exact hb.not_isHeader x hx
            · rw [List.mem_singleton.mp hx]; exact hh
          · rcases List.mem_append.mp hx with hx | hx
            · exact hb.not_assigns x hx
            · rw [List.mem_singleton.mp hx]; exact ha
        have := ih hb' (by rw [hls]; simp)
        rwa [List.length_append, List.length_singleton, ← Nat.add_assoc] at this

theorem located_inactive {s n : Str} {ls before rest : List Str}
    (hb : ∀ l ∈ before, Core.opens s l = false) (hls : ls = before ++ rest) :
    Located s n ls (findTarget s n ls.length rest before.length false none) := by
  induction rest generalizing before with
  | nil => exact .absent (by rw [hls]; simpa using hb)
  | cons l rest ih =>
    have hnext : Core.opens s l = false → ∀ x ∈ before ++ [l], Core.opens s x = false := by
      intro hl x hx
      rcases List.mem_append.mp hx with hx | hx
      · exact hb x hx
      · rw [List.mem_singleton.mp hx]; exact hl
    rw [findTarget]
    cases hl : sectionHeader l with
    | some found =>
      simp only [Bool.false_eq_true, if_false]
      split
      · rename_i he
        have hblock : Block s n before l [] :=
          ⟨hb, by simpa [Core.opens, hl] using he, by simp, by simp⟩
        simpa using located_active hblock hls
      · rename_i he
        have := ih (hnext (by simpa [Core.opens, hl] using he)) (by rw [hls]; simp)
        simpa using this
    | none =>
      have := ih (hnext (by simp [Core.opens, hl])) (by rw [hls]; simp)
      simpa using this

theorem located_findTarget (s n : Str) (ls : List Str) :
    Located s n ls (findTarget s n ls.length ls 0 false none) := by
  have hnil : ∀ l ∈ ([] : List Str), Core.opens s l = false := by simp
  exact located_inactive hnil rfl

/-- A line of the old text in the new one: the same bytes. Only the last line of a text without a
final line feed has no line ending to keep; a section appended behind it gives it one. -/
def Kept (old new : Str) : Prop := new = old ∨ ('\n' ∉ old ∧ new = old ++ ['\n'])

theorem Kept.sameReading {l l' : Str} (h : Kept l l') : SameReading l l' := by
  rcases h with rfl | ⟨-, rfl⟩
  · exact ⟨rfl, rfl⟩
  · exact .append_blank (by decide) l

/-- What `set_value` does to the lines of a text. -/
inductive SetCase (sectionName name value : Str) (ls : List Str) : List Str → Prop
  | replace {before header inside line rest ending} :
    Block sectionName name before header inside →
    isHeader line = false → assigns name line = true → Blank ending →
    ls = before ++ header :: (inside ++ line :: rest) →
    SetCase sectionName name value ls
      (before ++ header :: (inside ++ assignmentLine name value ending :: rest))
  | insert {before header inside rest} :
    Block sectionName name before header inside →
    (∀ l ∈ rest.head?, isHeader l = true) →
    ls = before ++ header :: (inside ++ rest) →
    (rest = [] → ∀ l ∈ ls, Terminated l) →
    SetCase sectionName name value ls
      (before ++ header :: (inside ++ assignmentLine name value ['\n'] :: rest))
  | glue {before header inside init lastLine} :
    Block sectionName name before header inside →
    ls = before ++ header :: inside → ls = init ++ [lastLine] →
    lastLine ≠ [] → '\n' ∉ lastLine →
    SetCase sectionName name value ls (init ++ [lastLine ++ assignmentLine name value ['\n']])
  | append {kept : List Str} {blank : List Str} :
    (∀ l ∈ ls, Core.opens sectionName l = false) →
    List.Forall₂ Kept ls kept → (∀ l ∈ blank, l = ['\n']) →
    SetCase sectionName name value ls
      (kept ++ blank ++ ['[' :: sectionName ++ "]\n".toList, assignmentLine name value ['\n']])

theorem blank_lineEnding (l : Str) : Blank (lineEnding l) := by
  unfold lineEnding
  split
  · split <;> decide
  · simp [Blank]

theorem assignmentLine_ne_nil (n v e : Str) : assignmentLine n v e ≠ [] := by
  simp [assignmentLine]

/-- `Vec::insert` between two lists. -/
theorem insertIdx_length_append (a b : List Str) (x : Str) :
    (a ++ b).insertIdx a.length x = a ++ x :: b := by
  induction a with
  | nil => rfl
  | cons y a ih => simp [ih]

section WrittenLine

variable {n v : Str} (hn : validateOptionName n = .ok ()) (hv : validateValue v = .ok ())
include hn hv

theorem newline_notMem_assignmentLine : '\n' ∉ assignmentLine n v [] := by
  have h1 : '\n' ∉ n := optionName_notMem hn (by decide)
  have h2 : '\n' ∉ v := fun h => ((validateValue_eq_ok_iff.mp hv) _ h).2 rfl
  simp [assignmentLine, h1, h2]

theorem terminated_assignmentLine : Terminated (assignmentLine n v ['\n']) :=
  ⟨assignmentLine n v [], newline_notMem_assignmentLine hn hv, by simp [assignmentLine]⟩

/-- A replaced line ends as the line it replaces. -/
theorem terminated_assignmentLine_lineEnding {l : Str} (hl : '\n' ∉ l ∨ Terminated l) :
    (Terminated l → Terminated (assignmentLine n v (lineEnding l))) ∧
      ('\n' ∉ l → '\n' ∉ assignmentLine n v (lineEnding l)) := by
  have hnl := newline_notMem_assignmentLine hn hv
  constructor
  · intro ht
    rw [lineEnding, if_pos ((terminated_iff_getLast? hl).mp ht)]
    split
    · exact ⟨assignmentLine n v ['\r'], by simpa [assignmentLine] using hnl, by simp [assignmentLine]⟩
    · exact terminated_assignmentLine hn hv
  · intro h
    have : l.getLast? ≠ some '\n' := fun hg => h (List.mem_of_mem_getLast? (by rw [hg]; rfl))
    rw [lineEnding, if_neg this]
    exact hnl

/-- Replacing a line keeps the lines the lines of a text. -/
theorem isSplit_replace {a b : List Str} {l : Str} (h : IsSplit (a ++ l :: b)) :
    IsSplit (a ++ assignmentLine n v (lineEnding l) :: b) := by
  obtain ⟨h1, h2⟩ := terminated_assignmentLine_lineEnding hn hv
    (h.mem (List.mem_append_right a List.mem_cons_self)).2
  rcases IsSplit.append_iff.mp h with ⟨hnil, -⟩ | ⟨ha, hlb⟩
  · simp at hnil
  · refine IsSplit.append_iff.mpr (.inr ⟨ha, ?_⟩)
    cases hlb with
    | last hl hn' => exact .last (assignmentLine_ne_nil n v _) (h2 hn')
    | cons ht hb => exact .cons (h1 ht) hb

end WrittenLine

/-- The line feeds pushed in front of an appended section: at most one that ends the last line, and
at most one blank line. -/
theorem splitInclusive_separated (text : Str) :
    ∃ kept blank, List.Forall₂ Kept (splitInclusive text) kept ∧ (∀ l ∈ blank, l = ['\n']) ∧
      splitInclusive (separated text) = kept ++ blank ∧
      (separated text = [] ∨ (separated text).getLast? = some '\n') := by
  -- The first push: `text₁` is empty or ends in a line feed.
  obtain ⟨text₁, kept, h₁, hkept, hsplit, hend⟩ :
      ∃ text₁ kept, text₁ = (if text ≠ [] ∧ text.getLast? ≠ some '\n' then text ++ ['\n'] else text) ∧
        List.Forall₂ Kept (splitInclusive text) kept ∧ splitInclusive text₁ = kept ∧
        (text₁ = [] ∨ text₁.getLast? = some '\n') := by
    by_cases hu : text ≠ [] ∧ text.getLast? ≠ some '\n'
    · rw [if_pos hu]
      obtain ⟨before, lastLine, hs, hb, -, hn⟩ :=
        exists_unterminated (a := text) (by simpa [not_or] using hu)
      have ht : text = (before ++ [lastLine]).flatten := by rw [← hs, flatten_splitInclusive]
      refine ⟨text ++ ['\n'], before ++ [lastLine ++ ['\n']], rfl, ?_, ?_, .inr (by simp)⟩
      · rw [hs]
        exact List.rel_append (List.forall₂_same.mpr fun l _ => .inl rfl)
          (.cons (.inr ⟨hn, rfl⟩) .nil)
      · conv_lhs => rw [ht]
        exact splitInclusive_append_glued hb hn ⟨[], by simp, rfl⟩
    · rw [if_neg hu]
      refine ⟨text, _, rfl, List.forall₂_same.mpr fun l _ => .inl rfl, rfl, ?_⟩
      by_contra h
      exact hu (by simpa [not_or] using h)
  have hsep : separated text =
      if text₁ ≠ [] ∧ ¬ ['\n', '\n'] <:+ text₁ then text₁ ++ ['\n'] else text₁ := by
    rw [h₁]; rfl
  by_cases hp : text₁ ≠ [] ∧ ¬ ['\n', '\n'] <:+ text₁
  · rw [hsep, if_pos hp]
    refine ⟨kept, [['\n']], hkept, by simp, ?_, .inr (by simp)⟩
    rw [splitInclusive_append hend, hsplit]
    rfl
  · rw [hsep, if_neg hp]
    exact ⟨kept, [], hkept, by simp, by simpa using hsplit, hend⟩

/-- **Inversion of `set_value`**: the arguments are valid and the lines change in one of the four
ways. -/
theorem setCase_of_setValue {doc doc' : ConfigDocument} {s n v : Str}
    (h : doc.setValue s n v = (.ok (), doc')) :
    validateSectionName s = .ok () ∧ validateOptionName n = .ok () ∧
      SetCase s n v (splitInclusive doc.text) (splitInclusive doc'.text) := by
  unfold setValue at h
  cases hs : validateSectionName s with
  | error e => simp [hs] at h
  | ok _ =>
  cases hn : validateOptionName n with
  | error e => simp [hs, hn] at h
  | ok _ =>
  cases hv : validateValue v with
  | error e => simp [hs, hn, hv] at h
  | ok _ =>
  refine ⟨rfl, rfl, ?_⟩
  simp only [hs, hn, hv] at h
  have hsplit := isSplit_splitInclusive doc.text
  have hflat := flatten_splitInclusive doc.text
  have hloc := located_findTarget s n (splitInclusive doc.text)
  generalize splitInclusive doc.text = ls at h hsplit hloc hflat ⊢
  generalize findTarget s n ls.length ls 0 false none = target at h hloc
  cases hloc with
  | @replace before header inside line rest hb hh ha hls =>
    have hline : ls[before.length + 1 + inside.length]? = some line := by
      rw [hls, Nat.add_assoc, List.getElem?_append_right (by omega)]
      simp [Nat.add_comm 1]
    have hset : ∀ x, ls.set (before.length + 1 + inside.length) x =
        (before ++ header :: inside) ++ x :: rest := by
      intro x
      rw [hls, show before ++ header :: (inside ++ line :: rest) =
        (before ++ header :: inside) ++ line :: rest by simp,
        show before.length + 1 + inside.length = (before ++ header :: inside).length by
          simp; omega, List.set_append_right _ _ (Nat.le_refl _)]
      simp
    simp only [Prod.mk.injEq, true_and] at h
    subst h
    simp only [hline, Option.getD_some, hset]
    rw [splitInclusive_flatten]
    · simpa using SetCase.replace hb hh ha (blank_lineEnding line) hls
    · exact isSplit_replace hn hv (by simpa [hls] using hsplit)
  | @inside before header inside rest hb hr hls =>
    have hls' : ls = (before ++ header :: inside) ++ rest := by rw [hls]; simp
    have hlen : before.length + 1 + inside.length = (before ++ header :: inside).length := by
      simp; omega
    have hmax : max (before.length + 1 + inside.length) (before.length + 1) =
      before.length + 1 + inside.length := by omega
    have hline := terminated_assignmentLine hn hv
    simp only [Prod.mk.injEq, true_and, hmax] at h
    subst h
    rw [hlen, show ls.insertIdx (before ++ header :: inside).length (assignmentLine n v ['\n']) =
      (before ++ header :: inside) ++ assignmentLine n v ['\n'] :: rest by
        conv_lhs => rw [hls', insertIdx_length_append]]
    -- The line joins another one exactly when the block ends the text and its last line is open.
    by_cases hglue : rest = [] ∧ ¬ (doc.text = [] ∨ doc.text.getLast? = some '\n')
    · obtain ⟨rfl, hend⟩ := hglue
      obtain ⟨init, lastLine, hinit, hterm, hne, hnl⟩ := exists_unterminated hend
      rw [← hflat, splitInclusive_flatten hsplit] at hinit
      have htext : ((before ++ header :: inside) ++ [assignmentLine n v ['\n']]).flatten =
          (init ++ [lastLine]).flatten ++ assignmentLine n v ['\n'] := by
        rw [← hinit, hls']; simp
      rw [htext, splitInclusive_append_glued hterm hnl hline]
      exact .glue hb (by simpa using hls) hinit hne hnl
    · have hterm : rest = [] → ∀ l ∈ ls, Terminated l := by
        intro hr
        refine hsplit.all_terminated_iff.mpr ?_
        rw [hflat]
        by_contra hend
        exact hglue ⟨hr, hend⟩
      rw [splitInclusive_flatten]
      · simpa using SetCase.insert hb hr hls hterm
      · refine IsSplit.append_iff.mpr (.inr ?_)
        rw [hls'] at hsplit hterm
        rcases IsSplit.append_iff.mp hsplit with ⟨rfl, -⟩ | ⟨hA, hR⟩
        · exact ⟨by simpa using hterm rfl, .cons hline .nil⟩
        · exact ⟨hA, .cons hline hR⟩
  | absent hno =>
    simp only at h
    split at h
    · simp at h
    · simp only [Prod.mk.injEq, true_and] at h
      subst h
      obtain ⟨kept, blank, hkept, hblank, hsep, hend⟩ := splitInclusive_separated doc.text
      rw [← hflat, splitInclusive_flatten hsplit] at hkept
      have hheader : Terminated ('[' :: s ++ "]\n".toList) := by
        obtain ⟨-, hchars⟩ := validateSectionName_eq_ok_iff.mp hs
        refine ⟨'[' :: s ++ [']'], ?_, by simp⟩
        simpa using fun h => (hchars _ h).2.2 rfl
      have hline : splitInclusive (assignmentLine n v ['\n']) = [assignmentLine n v ['\n']] := by
        simpa [splitInclusive] using splitInclusive_terminated (terminated_assignmentLine hn hv) []
      have hlines : splitInclusive (('[' :: s ++ "]\n".toList) ++ assignmentLine n v ['\n']) =
          ['[' :: s ++ "]\n".toList, assignmentLine n v ['\n']] := by
        rw [splitInclusive_terminated hheader, hline]
      rw [List.append_assoc, splitInclusive_append hend, hsep, hlines]
      exact .append hno hkept hblank

/-- The reading of a text with a section appended. -/
theorem reading_appended {s n v : Str} {ls kept blank : List Str}
    (hs : validateSectionName s = .ok ()) (hn : validateOptionName n = .ok ())
    (hkept : List.Forall₂ Kept ls kept) (hblank : ∀ l ∈ blank, l = ['\n']) (r : Str) :
    assignedFrom r false (kept ++ blank ++ ['[' :: s ++ "]\n".toList, assignmentLine n v ['\n']]) =
      assignedFrom r false ls ++
        if eqIgnoreAsciiCase (trim s) r then [(n, valueText v)] else [] := by
  obtain ⟨h1, h2⟩ := reading_sameReading (hkept.imp fun _ _ h => h.sameReading) r false
  have hnone : ∀ l ∈ blank, sectionHeader l = none ∧ assignment l = none := fun l hl => by
    rw [hblank l hl]; exact ⟨rfl, rfl⟩
  have hplain : ∀ l ∈ blank, isHeader l = false := fun l hl => by simp [isHeader, hnone l hl]
  obtain ⟨-, h4⟩ := block_of_not_isHeader r (activeAfter r false ls) hplain
  have h5 : blank.filterMap assignment = [] :=
    List.filterMap_eq_nil_iff.mpr fun l hl => (hnone l hl).2
  have hheader := sectionHeader_written hs ['\n']
  have hline := sectionHeader_assignmentLine hn (w := []) (by simp [Blank]) v ['\n']
  have hpair := assignment_assignmentLine hn (w := []) (e := ['\n']) (by simp [Blank]) (by decide) v
  rw [List.nil_append] at hline hpair
  rw [assignedFrom_append, assignedFrom_append, h1, h2, h4, h5, ite_self, List.append_nil,
    show '[' :: s ++ "]\n".toList = '[' :: (s ++ ']' :: ['\n']) from rfl]
  congr 1
  simp only [assignedFrom, hheader, hline, hpair, Option.toList_some, List.append_nil]

/-! ## Removing a value -/

/-- The loop of `remove_value` ends at the first assignment of the option in an active section. -/
theorem exists_of_findAssignment {s n : Str} {ls : List Str} {i idx : Nat} {a : Bool}
    (h : findAssignment s n ls i a = some idx) :
    ∃ before line rest, ls = before ++ line :: rest ∧ idx = i + before.length ∧
      activeAfter s a before = true ∧ isHeader line = false ∧ assigns n line = true := by
  induction ls generalizing i a with
  | nil => simp [findAssignment] at h
  | cons l ls ih =>
    rw [findAssignment] at h
    have hstep : ∀ {b : Bool}, activeAfter s a [l] = b →
        findAssignment s n ls (i + 1) b = some idx →
        ∃ before line rest, l :: ls = before ++ line :: rest ∧ idx = i + before.length ∧
          activeAfter s a before = true ∧ isHeader line = false ∧ assigns n line = true := by
      rintro _ rfl hb
      obtain ⟨before, line, rest, rfl, rfl, h1, h2, h3⟩ := ih hb
      refine ⟨l :: before, line, rest, rfl, ?_, ?_, h2, h3⟩
      · rw [List.length_cons]; omega
      · rw [activeAfter_cons, h1]
    cases hl : sectionHeader l with
    | some found =>
      rw [hl] at h
      exact hstep (activeAfter_header hl s a) h
    | none =>
      rw [hl] at h
      simp only at h
      split at h
      · rename_i hcond
        obtain ⟨rfl, hassigns⟩ := Bool.and_eq_true_iff.mp hcond
        exact ⟨[], l, ls, rfl, by simpa using h.symm, rfl, by simp [isHeader, hl], hassigns⟩
      · exact hstep (activeAfter_none hl s a) h

/-- **Inversion of `remove_value`**: without a result the document stays; else one line goes, an
assignment of the option in the section. -/
theorem removeCase_of_removeValue {doc doc' : ConfigDocument} {s n : Str} {removed : Bool}
    (h : doc.removeValue s n = (.ok removed, doc')) :
    (removed = false ∧ doc' = doc) ∨ (removed = true ∧ ∃ before line rest,
      splitInclusive doc.text = before ++ line :: rest ∧
      splitInclusive doc'.text = before ++ rest ∧ activeAfter s false before = true ∧
      isHeader line = false ∧ assigns n line = true) := by
  unfold removeValue at h
  cases hs : validateSectionName s with
  | error e => simp [hs] at h
  | ok _ =>
  cases hn : validateOptionName n with
  | error e => simp [hs, hn] at h
  | ok _ =>
  simp only [hs, hn] at h
  split at h
  · rename_i idx hidx
    obtain ⟨before, line, rest, hls, hlen, hactive, hh, ha⟩ := exists_of_findAssignment hidx
    simp only [Prod.mk.injEq, Except.ok.injEq] at h
    obtain ⟨rfl, rfl⟩ := h
    refine .inr ⟨rfl, before, line, rest, hls, ?_, hactive, hh, ha⟩
    rw [hlen, Nat.zero_add, hls, List.eraseIdx_append_of_length_le (Nat.le_refl _), Nat.sub_self,
      List.eraseIdx_cons_zero, splitInclusive_flatten]
    have hsplit := isSplit_splitInclusive doc.text
    rw [hls] at hsplit
    rcases IsSplit.append_iff.mp hsplit with ⟨hnil, -⟩ | ⟨hbefore, hrest⟩
    · simp at hnil
    · refine IsSplit.append_iff.mpr (.inr ⟨hbefore, ?_⟩)
      cases hrest with
      | last => exact .nil
      | cons _ hr => exact hr
  · simp only [Prod.mk.injEq, Except.ok.injEq] at h
    exact .inl ⟨h.1.symm, h.2.symm⟩

end ConfigDocument
end Core
end UsbRadioPlus
