import UsbRadioPlus.Core.ConfigEdit

/-!
# Reading back a written value

`set_value` writes the first assignment of an option, the readers take the last one. The value that
was written is the effective one if and only if (`ReadsBack`) it holds no comment character, the
section name has no white space at its ends, no other value of the option behind the written line
shadows it, and the line does not join an unterminated last line that holds text.

The conditions read the document before the edit: `blockOf` is the first block of the section,
`replaces` says that it assigns the option, `shadows` are the values behind the written line and
`glues` is the case of the unterminated last line.
-/

namespace UsbRadioPlus
namespace Core
namespace ConfigDocument

open Rust Rust.Str

/-! ## Where the document is written -/

/-- The lines behind the first header of the section. -/
def tailOf (doc : ConfigDocument) (sectionName : Str) : List Str :=
  ((splitInclusive doc.text).dropWhile fun l => !opens sectionName l).tail

/-- The first block of the section: the lines behind its first header, up to the next header. -/
def blockOf (doc : ConfigDocument) (sectionName : Str) : List Str :=
  (doc.tailOf sectionName).takeWhile fun l => !isHeader l

/-- The first block of the section assigns the option. -/
def replaces (doc : ConfigDocument) (sectionName name : Str) : Bool :=
  (doc.blockOf sectionName).any (assigns name)

/-- The assignments of an option of a section, names compared ignoring ASCII case. -/
def optionPairs (doc : ConfigDocument) (sectionName name : Str) : List (Str × Str) :=
  (doc.assigned sectionName).filter fun p => eqIgnoreAsciiCase p.1 name

/-- Those behind the line that `set_value` writes. -/
def shadowPairs (doc : ConfigDocument) (sectionName name : Str) : List (Str × Str) :=
  if doc.replaces sectionName name then (doc.optionPairs sectionName name).tail
  else doc.optionPairs sectionName name

/-- The values of the option behind the line that `set_value` writes. -/
def shadows (doc : ConfigDocument) (sectionName name : Str) : List Str :=
  if doc.replaces sectionName name then (doc.optionValues sectionName name).tail
  else doc.optionValues sectionName name

/-- The first block of the section ends the text, the text does not end in a line feed, and the
block does not assign the option: the new assignment joins the last line. -/
def glues (doc : ConfigDocument) (sectionName name : Str) : Bool :=
  (splitInclusive doc.text).any (opens sectionName) && !doc.replaces sectionName name &&
    (doc.tailOf sectionName).all (fun l => !isHeader l) &&
    !(doc.text.isEmpty || doc.text.getLast? = some '\n')

section Shape

variable {doc : ConfigDocument} {s n : Str} {before inside rest : List Str} {header : Str}

theorem tailOf_eq (hb : Block s n before header inside)
    (hls : splitInclusive doc.text = before ++ header :: rest) : doc.tailOf s = rest := by
  rw [tailOf, hls, List.dropWhile_append_of_pos (fun l hl => by simp [hb.not_opens l hl])]
  simp [hb.opens]

theorem blockOf_eq (hb : Block s n before header inside)
    (hls : splitInclusive doc.text = before ++ header :: (inside ++ rest)) :
    doc.blockOf s = inside ++ rest.takeWhile fun l => !isHeader l := by
  rw [blockOf, tailOf_eq hb hls,
    List.takeWhile_append_of_pos (fun l hl => by simp [hb.not_isHeader l hl])]

end Shape

theorem shadows_eq (doc : ConfigDocument) (s n : Str) :
    doc.shadows s n = (doc.shadowPairs s n).map (·.2) := by
  unfold shadows shadowPairs
  split
  · exact List.map_tail.symm
  · rfl

/-! ## The assignments of an option in a list of lines -/

/-- The assignments of the option, from a given `active` flag. -/
def pairsFrom (sectionName name : Str) (active : Bool) (ls : List Str) : List (Str × Str) :=
  (assignedFrom sectionName active ls).filter fun p => eqIgnoreAsciiCase p.1 name

/-- The values assigned to the option, from a given `active` flag. -/
def valuesFrom (sectionName name : Str) (active : Bool) (ls : List Str) : List Str :=
  ((assignedFrom sectionName active ls).filter fun p => eqIgnoreAsciiCase p.1 name).map (·.2)

theorem optionPairs_eq (doc : ConfigDocument) (s n : Str) :
    doc.optionPairs s n = pairsFrom s n false (splitInclusive doc.text) := rfl

theorem pairsFrom_append (s n : Str) (a : Bool) (xs ys : List Str) :
    pairsFrom s n a (xs ++ ys) =
      pairsFrom s n a xs ++ pairsFrom s n (activeAfter s a xs) ys := by
  rw [pairsFrom, assignedFrom_append, List.filter_append]
  rfl

theorem pairsFrom_cons (s n : Str) (a : Bool) (l : Str) (ls : List Str) :
    pairsFrom s n a (l :: ls) = pairsFrom s n a [l] ++ pairsFrom s n (activeAfter s a [l]) ls :=
  pairsFrom_append s n a [l] ls

theorem pairsFrom_none {l : Str} (h : sectionHeader l = none) (s n : Str) (a : Bool) :
    pairsFrom s n a [l] =
      if a then (assignment l).toList.filter fun p => eqIgnoreAsciiCase p.1 n else [] := by
  rw [pairsFrom, assignedFrom_none h]
  cases a <;> rfl

theorem pairsFrom_header {l found : Str} (h : sectionHeader l = some found) (s n : Str)
    (a : Bool) : pairsFrom s n a [l] = [] := by
  rw [pairsFrom, assignedFrom_header h]
  rfl

theorem pairsFrom_of_not_assigns {l n : Str} (h : assigns n l = false) (s : Str) (a : Bool) :
    pairsFrom s n a [l] = [] := by
  cases hl : sectionHeader l with
  | some found => exact pairsFrom_header hl s n a
  | none =>
    rw [pairsFrom_none hl]
    unfold assigns at h
    cases ha : assignment l with
    | none => cases a <;> rfl
    | some p =>
      have hp : eqIgnoreAsciiCase p.1 n = false := by simpa [ha] using h
      cases a <;> simp [hp]

/-- The written line carries the value, in a section that is active. -/
theorem pairsFrom_assignmentLine {n : Str} (hn : validateOptionName n = .ok ()) {w e : Str}
    (hw : Blank w) (he : Blank e) (s v : Str) (a : Bool) :
    pairsFrom s n a [w ++ assignmentLine n v e] =
      if a then [(n, valueText v)] else [] := by
  rw [pairsFrom_none (sectionHeader_assignmentLine hn hw v e), assignment_assignmentLine hn hw he]
  cases a <;> simp

/-- The first block of a section is active and assigns nothing up to the edited line. -/
theorem reading_block {s n : Str} {before inside : List Str} {header : Str}
    (hb : Block s n before header inside) :
    activeAfter s false (before ++ header :: inside) = true ∧
      pairsFrom s n false (before ++ header :: inside) = [] := by
  obtain ⟨h1, h2⟩ := inactive_of_not_opens hb.not_opens
  obtain ⟨found, hf, he⟩ := exists_of_opens hb.opens
  obtain ⟨h3, h4⟩ := block_of_not_isHeader s true hb.not_isHeader
  rw [activeAfter_append, h1, activeAfter_cons, activeAfter_header hf, he, pairsFrom_append, h1,
    pairsFrom_cons, pairsFrom_header hf, activeAfter_header hf, he]
  refine ⟨h3, ?_⟩
  have hbefore : pairsFrom s n false before = [] := by rw [pairsFrom, h2]; rfl
  have hinside : pairsFrom s n true inside = [] := by
    rw [pairsFrom, h4, if_pos rfl, List.filter_eq_nil_iff]
    intro p hp
    obtain ⟨l, hl, hlp⟩ := List.mem_filterMap.mp hp
    have := hb.not_assigns l hl
    simpa [assigns, hlp] using this
  rw [hbefore, hinside]
  rfl

/-- Without a header of the section nothing is read. -/
theorem pairsFrom_of_not_opens {s : Str} {ls : List Str} (h : ∀ l ∈ ls, Core.opens s l = false)
    (n : Str) : activeAfter s false ls = false ∧ pairsFrom s n false ls = [] := by
  obtain ⟨h1, h2⟩ := inactive_of_not_opens h
  exact ⟨h1, by rw [pairsFrom, h2]; rfl⟩

/-! ## The values after an edit -/

/-- The section name has no white space at its ends, and the new line does not join a line that
holds text: the written line is read as an assignment of the option. -/
structure Lands (doc : ConfigDocument) (sectionName name : Str) : Prop where
  trimmed : trim sectionName = sectionName
  notGlued : doc.glues sectionName name = true →
    ∀ l ∈ (splitInclusive doc.text).getLast?, Blank l

theorem trim_of_opens {s l : Str} (h : Core.opens s l = true) : trim s = s := by
  obtain ⟨found, hf, he⟩ := exists_of_opens h
  exact trim_eq_self_of_asciiKey (trim_of_sectionHeader hf) (eqIgnoreAsciiCase_iff.mp he)

/-- A line that joins a line with text assigns another option, or none. -/
theorem not_assigns_glued {n v l : Str} (hn : validateOptionName n = .ok ())
    (hl : assigns n l = false) (hb : ¬ Blank l) :
    assigns n (l ++ assignmentLine n v ['\n']) = false := by
  by_contra h
  obtain ⟨p, hp, hpn⟩ : ∃ p, assignment (l ++ assignmentLine n v ['\n']) = some p ∧
      asciiKey p.1 = asciiKey n := by
    unfold assigns at h
    cases ha : assignment (l ++ assignmentLine n v ['\n']) with
    | none => simp [ha] at h
    | some p => exact ⟨p, rfl, by simpa [ha] using h⟩
  obtain ⟨hhead, a, b, hsplit, hvalid, rfl⟩ := assignment_eq_some_iff.mp hp
  rw [trimStart_append hb] at hsplit hhead
  obtain ⟨c, t, hct⟩ := List.exists_cons_of_ne_nil fun h0 => hb (trimStart_eq_nil_iff.mp h0)
  by_cases heq : '=' ∈ trimStart l
  · -- The name stands in front of the first `=`, which is one of the old line.
    obtain ⟨a', b', hab⟩ : ∃ a' b', splitOnce '=' (trimStart l) = some (a', b') := by
      cases hs : splitOnce '=' (trimStart l) with
      | none => exact absurd heq (splitOnce_eq_none_iff.mp hs)
      | some ab => exact ⟨ab.1, ab.2, rfl⟩
    obtain ⟨hcat, hna⟩ := splitOnce_eq_some_iff.mp hab
    have ha : a' = a := by
      have := splitOnce_of_notMem hna (b' ++ assignmentLine n v ['\n'])
      rw [← List.cons_append, ← List.append_assoc, ← hcat, hsplit] at this
      simpa using (congrArg (Option.map Prod.fst) this).symm
    subst ha
    have hold : assignment l = some (trim a', valueText b') := by
      refine assignment_eq_some_iff.mpr ⟨?_, a', b', hab, hvalid, rfl⟩
      simpa [hct] using hhead
    simp [assigns, hold, hpn] at hl
  · -- The name is the old text with the new name behind it, so it is longer than the new name.
    have hnot : '=' ∉ trimStart l ++ n ++ [' '] := by
      simp [heq, optionName_notMem hn (show isOptionChar '=' = false by decide)]
    have hshape : trimStart l ++ assignmentLine n v ['\n'] =
        (trimStart l ++ n ++ [' ']) ++ '=' :: ' ' :: (v ++ ['\n']) := by
      simp [assignmentLine]
    rw [hshape, splitOnce_of_notMem hnot] at hsplit
    obtain ⟨rfl, -⟩ : trimStart l ++ n ++ [' '] = a ∧ _ := by simpa using hsplit
    have htrim : trim (trimStart l ++ n ++ [' ']) = trimStart l ++ n := by
      rw [trim_append_blank (by decide)]
      refine trim_eq_self (fun x hx => ?_) fun x hx => ?_
      · rw [hct] at hx
        obtain rfl : c = x := by simpa using hx
        exact head_trimStart hct
      · rw [List.getLast?_append_of_ne_nil _ (optionName_ne_nil hn)] at hx
        exact optionName_not_ws hn x (List.mem_of_mem_getLast? hx)
    refine ne_of_length_lt ?_ hpn.symm
    show n.length < (trim (trimStart l ++ n ++ [' '])).length
    rw [htrim, hct, List.length_append, List.length_cons]
    omega

section Shape

variable {doc : ConfigDocument} {s n : Str} {before inside rest : List Str} {header : Str}

theorem shadows_replace {line : Str} (hb : Block s n before header inside)
    (hh : isHeader line = false) (ha : assigns n line = true)
    (hls : splitInclusive doc.text = before ++ header :: (inside ++ line :: rest)) :
    doc.shadowPairs s n = pairsFrom s n true rest ∧ doc.replaces s n = true := by
  have hr : doc.replaces s n = true := by
    rw [replaces, blockOf_eq hb hls, List.any_append]
    simp [hh, ha]
  refine ⟨?_, hr⟩
  obtain ⟨h1, h2⟩ := reading_block hb
  have hline : sectionHeader line = none := by simpa [isHeader] using hh
  rw [shadowPairs, if_pos hr, optionPairs_eq, hls, show before ++ header :: (inside ++ line :: rest) =
    (before ++ header :: inside) ++ line :: rest by simp, pairsFrom_append, h1, h2,
    pairsFrom_cons, pairsFrom_none hline, activeAfter_none hline]
  unfold assigns at ha
  cases hp : assignment line with
  | none => simp [hp] at ha
  | some p =>
    have : eqIgnoreAsciiCase p.1 n = true := by simpa [hp] using ha
    simp [this]

theorem shadows_insert (hb : Block s n before header inside)
    (hr : ∀ l ∈ rest.head?, isHeader l = true)
    (hls : splitInclusive doc.text = before ++ header :: (inside ++ rest)) :
    doc.shadowPairs s n = pairsFrom s n true rest ∧ doc.replaces s n = false := by
  have hrest : rest.takeWhile (fun l => !isHeader l) = [] := by
    cases rest with
    | nil => rfl
    | cons l rest => simp [hr l rfl]
  have hrep : doc.replaces s n = false := by
    rw [replaces, blockOf_eq hb hls, hrest, List.append_nil, List.any_eq_false]
    intro l hl
    simp [hb.not_assigns l hl]
  refine ⟨?_, hrep⟩
  obtain ⟨h1, h2⟩ := reading_block hb
  rw [shadowPairs, hrep, if_neg (by simp), optionPairs_eq, hls,
    show before ++ header :: (inside ++ rest) = (before ++ header :: inside) ++ rest by simp,
    pairsFrom_append, h1, h2]
  rfl

theorem shadows_append (hno : ∀ l ∈ splitInclusive doc.text, Core.opens s l = false) :
    doc.shadowPairs s n = [] ∧ doc.glues s n = false := by
  have hopens : (splitInclusive doc.text).any (Core.opens s) = false := by
    simpa [List.any_eq_false] using hno
  refine ⟨?_, by rw [glues, hopens]; rfl⟩
  rw [shadowPairs, optionPairs_eq, (pairsFrom_of_not_opens hno n).2]
  split <;> rfl

theorem glues_iff (hb : Block s n before header inside)
    (hr : ∀ l ∈ rest.head?, isHeader l = true)
    (hls : splitInclusive doc.text = before ++ header :: (inside ++ rest)) :
    doc.glues s n = true ↔ rest = [] ∧ ¬ (doc.text = [] ∨ doc.text.getLast? = some '\n') := by
  have hopens : (splitInclusive doc.text).any (Core.opens s) = true := by
    rw [hls]; simp [hb.opens]
  have hall : ((inside ++ rest).all fun l => !isHeader l) = true ↔ rest = [] := by
    cases rest with
    | nil => simpa using hb.not_isHeader
    | cons l rest => simp [hr l rfl]
  rw [glues, hopens, (shadows_insert hb hr hls).2, tailOf_eq hb hls, Bool.and_eq_true,
    Bool.and_eq_true, hall]
  simp

theorem glues_of_unterminated {init : List Str} {lastLine : Str} (hb : Block s n before header inside)
    (hshape : splitInclusive doc.text = before ++ header :: inside)
    (hinit : splitInclusive doc.text = init ++ [lastLine]) (hnl : '\n' ∉ lastLine) :
    doc.glues s n = true := by
  have hend : splitInclusive doc.text = before ++ header :: (inside ++ []) := by simpa using hshape
  refine (glues_iff hb (by simp) hend).mpr ⟨rfl, fun hend => hnl (Terminated.newline_mem ?_)⟩
  rw [← flatten_splitInclusive doc.text] at hend
  exact (isSplit_splitInclusive doc.text).all_terminated_iff.mpr hend lastLine (by simp [hinit])

end Shape

/-- **The assignments after an edit**: where the line lands they are the written one and those
behind it, elsewhere the option has none. -/
theorem optionPairs_setValue {doc doc' : ConfigDocument} {s n v : Str}
    (h : doc.setValue s n v = (.ok (), doc')) :
    (doc.Lands s n ∧ doc'.optionPairs s n = (n, valueText v) :: doc.shadowPairs s n) ∨
      (¬ doc.Lands s n ∧ doc'.optionPairs s n = []) := by
  obtain ⟨hs, hn, hc⟩ := setCase_of_setValue h
  rw [optionPairs_eq doc']
  generalize splitInclusive doc'.text = new at hc
  generalize hls : splitInclusive doc.text = ls at hc
  cases hc with
  | @replace before header inside line rest ending hb hh ha he hshape =>
    obtain ⟨hsh, hrep⟩ := shadows_replace hb hh ha (hls.trans hshape)
    obtain ⟨h1, h2⟩ := reading_block hb
    have hline := sectionHeader_assignmentLine hn (w := []) (by simp [Blank]) v ending
    refine .inl ⟨⟨trim_of_opens hb.opens, fun hg => by simp [glues, hrep] at hg⟩, ?_⟩
    rw [show before ++ header :: (inside ++ assignmentLine n v ending :: rest) =
      (before ++ header :: inside) ++ ([] ++ assignmentLine n v ending) :: rest by simp,
      pairsFrom_append, h1, h2, pairsFrom_cons,
      pairsFrom_assignmentLine hn (by simp [Blank]) he, activeAfter_none hline, hsh]
    rfl
  | @insert before header inside rest hb hr hshape hterm =>
    obtain ⟨hsh, hrep⟩ := shadows_insert hb hr (hls.trans hshape)
    obtain ⟨h1, h2⟩ := reading_block hb
    have hline := sectionHeader_assignmentLine hn (w := []) (by simp [Blank]) v ['\n']
    refine .inl ⟨⟨trim_of_opens hb.opens, fun hg => ?_⟩, ?_⟩
    · obtain ⟨hnil, hend⟩ := (glues_iff hb hr (hls.trans hshape)).mp hg
      refine absurd ?_ hend
      have := (isSplit_splitInclusive doc.text).all_terminated_iff.mp (by rw [hls]; exact hterm hnil)
      rwa [flatten_splitInclusive] at this
    · rw [show before ++ header :: (inside ++ assignmentLine n v ['\n'] :: rest) =
        (before ++ header :: inside) ++ ([] ++ assignmentLine n v ['\n']) :: rest by simp,
        pairsFrom_append, h1, h2, pairsFrom_cons,
        pairsFrom_assignmentLine hn (by simp [Blank]) (by decide), activeAfter_none hline, hsh]
      rfl
  | @glue before header inside init lastLine hb hshape hinit hne hnl =>
    have hdoc : splitInclusive doc.text = before ++ header :: (inside ++ []) := by
      rw [hls, hshape, List.append_nil]
    have hg := glues_of_unterminated hb (hls.trans hshape) (hls.trans hinit) hnl
    have hlands : doc.Lands s n ↔ Blank lastLine := by
      rw [← hls] at hinit
      refine ⟨fun hl => hl.notGlued hg lastLine (by simp [hinit]), fun hblank => ?_⟩
      exact ⟨trim_of_opens hb.opens, fun _ l hl => by
        obtain rfl : lastLine = l := by simpa [hinit] using hl
        exact hblank⟩
    rw [(shadows_insert hb (by simp) hdoc).1, hlands]
    rcases List.eq_nil_or_concat inside with rfl | ⟨inside', l, rfl⟩
    · -- The line joins the header.
      obtain ⟨rfl, rfl⟩ : before = init ∧ header = lastLine :=
        (List.append_inj' (hshape.symm.trans hinit) rfl).imp_right (by simp)
      obtain ⟨found, hf, -⟩ := exists_of_opens hb.opens
      have hne : ¬ Blank header := fun hblank => by simp [sectionHeader_blank hblank] at hf
      refine .inr ⟨hne, ?_⟩
      rw [pairsFrom_append, (pairsFrom_of_not_opens hb.not_opens n).2,
        pairsFrom_header (sectionHeader_append hf _)]
      rfl
    · obtain ⟨rfl, rfl⟩ : before ++ header :: inside' = init ∧ l = lastLine := by
        have hcat : (before ++ header :: inside') ++ [l] = init ++ [lastLine] := by
          rw [← hinit, hshape]
          simp
        exact (List.append_inj' hcat rfl).imp_right (by simp)
      have hb' : Block s n before header inside' :=
        ⟨hb.not_opens, hb.opens, fun x hx => hb.not_isHeader x (by simp [hx]),
          fun x hx => hb.not_assigns x (by simp [hx])⟩
      obtain ⟨h1, h2⟩ := reading_block hb'
      rw [pairsFrom_append, h1, h2, List.nil_append]
      by_cases hblank : Blank l
      · refine .inl ⟨hblank, ?_⟩
        rw [pairsFrom_assignmentLine hn hblank (by decide)]
        rfl
      · refine .inr ⟨hblank, ?_⟩
        exact pairsFrom_of_not_assigns
          (not_assigns_glued hn (hb.not_assigns l (by simp)) hblank) s true
  | @append kept blank hno hkept hblank =>
    obtain ⟨hsh, hg⟩ := shadows_append (by rwa [hls])
    rw [hsh]
    rw [pairsFrom, reading_appended hs hn hkept hblank, List.filter_append]
    have hv := (pairsFrom_of_not_opens hno n).2
    rw [pairsFrom] at hv
    rw [hv]
    by_cases ht : trim s = s
    · refine .inl ⟨⟨ht, by simp [hg]⟩, ?_⟩
      simp [ht]
    · refine .inr ⟨fun hl => ht hl.trimmed, ?_⟩
      have hne : asciiKey (trim s) ≠ asciiKey s := fun he =>
        ht (trim_eq_self_of_asciiKey (trim_trim s) he)
      simp [hne]

/-- **The values after an edit**. -/
theorem optionValues_setValue {doc doc' : ConfigDocument} {s n v : Str}
    (h : doc.setValue s n v = (.ok (), doc')) :
    (doc.Lands s n ∧ doc'.optionValues s n = valueText v :: doc.shadows s n) ∨
      (¬ doc.Lands s n ∧ doc'.optionValues s n = []) := by
  rw [shadows_eq, show doc'.optionValues s n = (doc'.optionPairs s n).map (·.2) from rfl]
  rcases optionPairs_setValue h with ⟨hl, hp⟩ | ⟨hl, hp⟩
  · exact .inl ⟨hl, by rw [hp, List.map_cons]⟩
  · exact .inr ⟨hl, by rw [hp, List.map_nil]⟩

/-! ## Read-back -/

theorem valueText_eq_trim_iff {v : Str} :
    valueText v = trim v ↔ ∀ c ∈ v, isComment c = false := by
  constructor
  · intro h c hc
    by_contra hcomment
    simp only [Bool.not_eq_false] at hcomment
    have hmem := mem_trim_of_mem (isWhitespace_of_isComment hcomment) hc
    rw [← h] at hmem
    have := List.mem_takeWhile_imp (mem_of_mem_trim hmem)
    simp [hcomment] at this
  · intro h
    rw [valueText, List.takeWhile_eq_self_iff.mpr fun c hc => by simp [h c hc]]

/-- When the value that is written is the value that is read. -/
structure ReadsBack (doc : ConfigDocument) (sectionName name value : Str) : Prop
    extends doc.Lands sectionName name where
  noComment : ∀ c ∈ value, isComment c = false
  notShadowed : ∀ u ∈ (doc.shadows sectionName name).getLast?, u = trim value

theorem mem_shadows {doc : ConfigDocument} {s n u : Str} (h : u ∈ doc.shadows s n) :
    ∀ c ∈ u, isComment c = false := by
  unfold shadows at h
  split at h
  · exact mem_optionValues (List.mem_of_mem_tail h)
  · exact mem_optionValues h

/-- **Read-back**: a written value is the effective value of its option if and only if the name and
the value are read as they are written, no later assignment of the option has another value, and
the new line stands alone. -/
theorem effectiveValue_setValue_iff {doc doc' : ConfigDocument} {s n v : Str}
    (h : doc.setValue s n v = (.ok (), doc')) :
    doc'.effectiveValue s n = some (trim v) ↔ doc.ReadsBack s n v := by
  unfold effectiveValue
  rcases optionValues_setValue h with ⟨hl, hv⟩ | ⟨hl, hv⟩
  · rw [hv]
    cases hlast : (doc.shadows s n).getLast? with
    | none =>
      have hnil : doc.shadows s n = [] := List.getLast?_eq_none_iff.mp hlast
      rw [hnil, List.getLast?_singleton, Option.some.injEq, valueText_eq_trim_iff]
      exact ⟨fun hc => ⟨hl, hc, by simp [hnil]⟩, fun hr => hr.noComment⟩
    | some u =>
      rw [List.getLast?_cons, hlast, Option.getD_some, Option.some.injEq]
      constructor
      · rintro rfl
        refine ⟨hl, fun c hc => ?_, fun u' hu => ?_⟩
        · by_contra hcomment
          simp only [Bool.not_eq_false] at hcomment
          have := mem_shadows (List.mem_of_mem_getLast? hlast) c
            (mem_trim_of_mem (isWhitespace_of_isComment hcomment) hc)
          simp [hcomment] at this
        · rw [hlast] at hu
          exact (Option.some.inj hu).symm
      · exact fun hr => hr.notShadowed u hlast
  · rw [hv]
    exact ⟨fun h0 => by simp at h0, fun hr => absurd hr.toLands hl⟩

theorem effectiveValue_setValue_hardware :
    (⟨"[hardware]\ngain = 9\n".toList⟩ : ConfigDocument).ReadsBack
        "hardware".toList "gain".toList " 7".toList ∧
      (⟨"[hardware]\ngain =  7\n".toList⟩ : ConfigDocument).effectiveValue
        "hardware".toList "gain".toList = some (trim " 7".toList) := by
  have hplain : (" 7".toList.all fun c => !isComment c) = true := by decide
  have hread : (⟨"[hardware]\ngain = 9\n".toList⟩ : ConfigDocument).ReadsBack
      "hardware".toList "gain".toList " 7".toList :=
    ⟨⟨by decide, by decide⟩, fun c hc => by simpa using List.all_eq_true.mp hplain c hc, by decide⟩
  exact ⟨hread, (effectiveValue_setValue_iff rfl).mpr hread⟩

/-- A second assignment shadows the one that is written. -/
theorem effectiveValue_setValue_shadowed :
    ∃ doc' : ConfigDocument,
      (⟨"[hardware]\ngain = 1\ngain = 3\n".toList⟩ : ConfigDocument).setValue
        "hardware".toList "gain".toList "7".toList = (.ok (), doc') ∧
      (doc'.explicitValues "hardware".toList).get? "gain".toList = some "3".toList ∧
      doc'.effectiveValue "hardware".toList "gain".toList ≠ some (trim "7".toList) :=
  ⟨⟨"[hardware]\ngain = 7\ngain = 3\n".toList⟩, rfl, by decide, by decide⟩

end ConfigDocument
end Core
end UsbRadioPlus
