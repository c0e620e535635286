import UsbRadioPlus.Core.ConfigReadBack

/-!
# What an edit leaves alone

`EditFrame` is what an edit of one option of one section keeps: the values of all other options, the
sections, and the lines other than the edited one. `framed_iff` says when an edit keeps it. A removal
always does. A written value does unless the new line joins an unterminated last line, or the section
name has white space at its ends: the header that is appended is then read as the trimmed name.

`assigned_frame` is the argument for all the edits: lines without a header that assign only the edited
option, put in or taken out where its section is active, are read by no other pair of a section and
an option.
-/

namespace UsbRadioPlus
namespace Core
namespace ConfigDocument

open Rust Rust.Str

/-! ## The frame -/

/-- The lines of a text, without the one that an edit of the option replaces or removes. -/
inductive Unedited (sectionName name : Str) (ls : List Str) : List Str → Prop
  | all : Unedited sectionName name ls ls
  | without {before line rest} :
    activeAfter sectionName false before = true → isHeader line = false →
    assigns name line = true → ls = before ++ line :: rest →
    Unedited sectionName name ls (before ++ rest)

/-- Two pairs of a section and an option that the document does not tell apart. -/
def SamePair (sectionName name r k : Str) : Prop :=
  asciiKey r = asciiKey sectionName ∧ asciiKey k = asciiKey name

/-- What an edit of one option of one section keeps. -/
structure EditFrame (doc doc' : ConfigDocument) (sectionName name : Str) : Prop where
  others : ∀ r k, ¬ SamePair sectionName name r k →
    (doc'.explicitValues r).get? k = (doc.explicitValues r).get? k
  sections : ∀ t ∈ doc.sectionNames, t ∈ doc'.sectionNames
  lines : ∃ kept, Unedited sectionName name (splitInclusive doc.text) kept ∧
    List.SublistForall₂ Kept kept (splitInclusive doc'.text)

/-- The edits of a document. -/
inductive Edit where
  | setValue (sectionName name value : Str)
  | removeValue (sectionName name : Str)
  deriving DecidableEq, Repr

namespace Edit

/-- The section that an edit is about. -/
def sectionName : Edit → Str
  | .setValue s _ _ => s
  | .removeValue s _ => s

/-- The option that an edit is about. -/
def name : Edit → Str
  | .setValue _ n _ => n
  | .removeValue _ n => n

/-- The edit, without the flag that `remove_value` returns. -/
def run : Edit → ConfigDocument → Except ConfigError Unit × ConfigDocument
  | .setValue s n v, doc => doc.setValue s n v
  | .removeValue s n, doc => ((doc.removeValue s n).1.map fun _ => (), (doc.removeValue s n).2)

/-- A failed edit leaves the document, a completed one changes its option only. -/
def Framed (e : Edit) (doc : ConfigDocument) : Prop :=
  match e.run doc with
  | (.error _, doc') => doc' = doc
  | (.ok (), doc') => EditFrame doc doc' e.sectionName e.name

/-- The arguments of `set_value` pass its checks. -/
def ValidArguments (s n v : Str) : Prop :=
  validateSectionName s = .ok () ∧ validateOptionName n = .ok () ∧ validateValue v = .ok ()

/-- When an edit keeps what it does not address. -/
def KeepsFrame (doc : ConfigDocument) : Edit → Prop
  | .setValue s n v => ValidArguments s n v →
    doc.glues s n = false ∧
      (trim s ≠ s → (doc.explicitValues (trim s)).get? n = some (valueText v))
  | .removeValue _ _ => True

end Edit

/-! ## Lines put in and taken out -/

/-- Two sections that are active behind the same lines are one section. -/
theorem active_unique {s r : Str} {ls : List Str} (hs : activeAfter s false ls = true)
    (hr : activeAfter r false ls = true) : asciiKey r = asciiKey s := by
  suffices ∀ a b, (a = true → b = true → asciiKey r = asciiKey s) →
      activeAfter s a ls = true → activeAfter r b ls = true → asciiKey r = asciiKey s from
    this false false (by simp) hs hr
  clear hs hr
  induction ls with
  | nil => exact fun a b hab ha hb => hab ha hb
  | cons l ls ih =>
    intro a b hab
    rw [activeAfter_cons s a, activeAfter_cons r b]
    refine ih _ _ ?_
    cases hl : sectionHeader l with
    | some found =>
      rw [activeAfter_header hl, activeAfter_header hl]
      simp only [eqIgnoreAsciiCase_iff]
      exact fun h1 h2 => h2.symm.trans h1
    | none =>
      rw [activeAfter_none hl, activeAfter_none hl]
      exact hab

/-- Lines that hold no header and assign the option only. -/
structure OnlyAssigns (name : Str) (ls : List Str) : Prop where
  not_isHeader : ∀ l ∈ ls, isHeader l = false
  assigns : ∀ l ∈ ls, ∀ p ∈ assignment l, asciiKey p.1 = asciiKey name

theorem onlyAssigns_nil (n : Str) : OnlyAssigns n [] := ⟨by simp, by simp⟩

theorem onlyAssigns_of_assigns {n l : Str} (hh : isHeader l = false) (ha : Core.assigns n l = true) :
    OnlyAssigns n [l] := by
  refine ⟨by simpa using hh, ?_⟩
  intro l' hl' p hp
  rw [List.mem_singleton.mp hl', Option.mem_def] at hp
  simpa [Core.assigns, hp] using ha

theorem onlyAssigns_assignmentLine {n e : Str} (hn : validateOptionName n = .ok ()) (he : Blank e)
    (v : Str) : OnlyAssigns n [assignmentLine n v e] := by
  refine onlyAssigns_of_assigns ?_ ?_
  · simpa [isHeader] using sectionHeader_assignmentLine hn (w := []) (by simp [Blank]) v e
  · have := assignment_assignmentLine hn (w := []) (by simp [Blank]) he v
    rw [List.nil_append] at this
    simp [Core.assigns, this]

/-- **Lines of the edited option**: only a reader of that option in that section sees them. -/
theorem assigned_frame_of {r n : Str} {before mid : List Str} (rest : List Str)
    (hmid : OnlyAssigns n mid) {q : Str × Str → Bool}
    (hq : activeAfter r false before = true → ∀ p, asciiKey p.1 = asciiKey n → q p = false) :
    (assignedFrom r false (before ++ (mid ++ rest))).filter q =
      (assignedFrom r false (before ++ rest)).filter q := by
  obtain ⟨h1, h2⟩ := block_of_not_isHeader r (activeAfter r false before) hmid.not_isHeader
  rw [assignedFrom_append, assignedFrom_append, assignedFrom_append, h1, h2, List.filter_append,
    List.filter_append, List.filter_append]
  congr 1
  refine List.append_left_eq_self.mpr (List.filter_eq_nil_iff.mpr fun p hp => ?_)
  split at hp
  · rename_i hr
    obtain ⟨l, hl, hlp⟩ := List.mem_filterMap.mp hp
    simp [hq hr p (hmid.assigns l hl p hlp)]
  · simp at hp

/-- They are read by no other pair. -/
theorem assigned_frame {s n : Str} {before mid : List Str} (rest : List Str)
    (hactive : activeAfter s false before = true) (hmid : OnlyAssigns n mid) {r k : Str}
    (hrk : ¬ SamePair s n r k) :
    (assignedFrom r false (before ++ (mid ++ rest))).filter (fun p => p.1 = k) =
      (assignedFrom r false (before ++ rest)).filter fun p => p.1 = k := by
  refine assigned_frame_of rest hmid fun hr p hp => decide_eq_false fun hk => hrk ?_
  rw [hk] at hp
  exact ⟨active_unique hactive hr, hp⟩

/-- Nor in any spelling of it. -/
theorem pairsFrom_frame {s n : Str} {before mid : List Str} (rest : List Str)
    (hactive : activeAfter s false before = true) (hmid : OnlyAssigns n mid) {r k : Str}
    (hrk : ¬ SamePair s n r k) :
    pairsFrom r k false (before ++ (mid ++ rest)) = pairsFrom r k false (before ++ rest) := by
  refine assigned_frame_of rest hmid fun hr p hp => ?_
  refine eqIgnoreAsciiCase_eq_false_iff.mpr fun hk => hrk ?_
  exact ⟨active_unique hactive hr, hk.symm.trans hp⟩

theorem filterMap_sectionHeader_frame {n : Str} {mid : List Str} (hmid : OnlyAssigns n mid)
    (before rest : List Str) :
    (before ++ (mid ++ rest)).filterMap sectionHeader =
      (before ++ rest).filterMap sectionHeader := by
  have : mid.filterMap sectionHeader = [] :=
    List.filterMap_eq_nil_iff.mpr fun l hl => by simpa [isHeader] using hmid.not_isHeader l hl
  rw [List.filterMap_append, List.filterMap_append, List.filterMap_append, this, List.nil_append]

theorem get?_explicitValues_congr {doc doc' : ConfigDocument} {r k : Str}
    (h : (doc'.assigned r).filter (fun p => p.1 = k) = (doc.assigned r).filter fun p => p.1 = k) :
    (doc'.explicitValues r).get? k = (doc.explicitValues r).get? k := by
  rw [get?_explicitValues, get?_explicitValues, h]

/-- Exchanging lines of the edited option keeps the frame. -/
theorem editFrame_exchange {doc doc' : ConfigDocument} {s n : Str} {before old new rest : List Str}
    (hactive : activeAfter s false before = true) (hold : OnlyAssigns n old)
    (hnew : OnlyAssigns n new)
    (hls : splitInclusive doc.text = before ++ (old ++ rest))
    (hls' : splitInclusive doc'.text = before ++ (new ++ rest))
    (hkept : Unedited s n (splitInclusive doc.text) (before ++ rest)) :
    EditFrame doc doc' s n := by
  refine ⟨fun r k hrk => get?_explicitValues_congr ?_, ?_, _, hkept, ?_⟩
  · rw [assigned, assigned, hls, hls', assigned_frame rest hactive hnew hrk,
      assigned_frame rest hactive hold hrk]
  · rw [sectionNames_eq, sectionNames_eq, hls, hls', filterMap_sectionHeader_frame hold,
      filterMap_sectionHeader_frame hnew]
    exact fun _ h => h
  · rw [hls']
    refine List.sublistForall₂_iff.mpr
      ⟨_, List.forall₂_same.mpr fun l _ => .inl rfl, ?_⟩
    exact List.Sublist.append_left (List.sublist_append_right new rest) before

/-! ## Appended sections -/

/-- An appended section keeps the frame if and only if its header is read under its own name, or
the section that it is read under has the value already. -/
theorem editFrame_appended_iff {doc doc' : ConfigDocument} {s n v : Str} {kept blank : List Str}
    (hs : validateSectionName s = .ok ()) (hn : validateOptionName n = .ok ())
    (hkept : List.Forall₂ Kept (splitInclusive doc.text) kept) (hblank : ∀ l ∈ blank, l = ['\n'])
    (hls' : splitInclusive doc'.text =
      kept ++ blank ++ ['[' :: s ++ "]\n".toList, assignmentLine n v ['\n']]) :
    EditFrame doc doc' s n ↔
      (trim s ≠ s → (doc.explicitValues (trim s)).get? n = some (valueText v)) := by
  have hread : ∀ r, doc'.assigned r =
      doc.assigned r ++ if eqIgnoreAsciiCase (trim s) r then [(n, valueText v)] else [] := by
    intro r
    rw [assigned, hls', reading_appended hs hn hkept hblank, assigned]
  -- The pair that the appended lines add is the last one of its section.
  have hvalue : ∀ r, asciiKey r = asciiKey (trim s) →
      (doc'.explicitValues r).get? n = some (valueText v) := by
    intro r hr
    rw [get?_explicitValues, hread, if_pos (eqIgnoreAsciiCase_iff.mpr hr.symm)]
    simp
  have hother : ∀ r k, ¬ (asciiKey r = asciiKey (trim s) ∧ k = n) →
      (doc'.explicitValues r).get? k = (doc.explicitValues r).get? k := by
    intro r k hrk
    refine get?_explicitValues_congr ?_
    rw [hread, List.filter_append]
    refine List.append_right_eq_self.mpr (List.filter_eq_nil_iff.mpr fun p hp hk => hrk ?_)
    split at hp
    · rename_i he
      rw [List.mem_singleton.mp hp] at hk
      exact ⟨(eqIgnoreAsciiCase_iff.mp he).symm, (of_decide_eq_true hk).symm⟩
    · simp at hp
  constructor
  · intro hf ht
    rw [← hf.others (trim s) n, hvalue (trim s) rfl]
    exact fun hpair => ht (trim_eq_self_of_asciiKey (trim_trim s) hpair.1)
  · intro hcond
    refine ⟨fun r k hrk => ?_, ?_, _, .all, ?_⟩
    · by_cases hpair : asciiKey r = asciiKey (trim s) ∧ k = n
      · obtain ⟨hr, rfl⟩ := hpair
        have ht : trim s ≠ s := fun ht => hrk ⟨by rw [hr, ht], rfl⟩
        rw [hvalue r hr, get?_explicitValues, assigned, (reading_congr hr _ _).2, ← assigned,
          ← get?_explicitValues, hcond ht]
      · exact hother r k hpair
    · have hnames : (splitInclusive doc'.text).filterMap sectionHeader =
          (splitInclusive doc.text).filterMap sectionHeader ++
            (blank ++ ['[' :: s ++ "]\n".toList, assignmentLine n v ['\n']]).filterMap
              sectionHeader := by
        rw [hls', List.append_assoc, List.filterMap_append]
        congr 1
        generalize splitInclusive doc.text = ls at hkept
        clear hread hvalue hother hcond hls'
        induction hkept with
        | nil => rfl
        | cons h _ ih => rw [List.filterMap_cons, List.filterMap_cons, h.sameReading.1, ih]
      intro t ht
      rw [sectionNames_eq, hnames, List.foldl_append, ← sectionNames_eq]
      exact mem_foldl_nameStep _ ht
    · rw [hls', List.append_assoc]
      exact List.sublistForall₂_iff.mpr ⟨kept, hkept, List.sublist_append_left _ _⟩

/-- A line of the option in its section is read. -/
theorem valuesFrom_ne_nil {s n line : Str} {before rest : List Str}
    (hactive : activeAfter s false before = true) (hh : isHeader line = false)
    (ha : Core.assigns n line = true) : valuesFrom s n false (before ++ line :: rest) ≠ [] := by
  have hline : sectionHeader line = none := by simpa [isHeader] using hh
  show (pairsFrom s n false (before ++ line :: rest)).map (·.2) ≠ []
  rw [pairsFrom_append, pairsFrom_cons, pairsFrom_none hline, hactive, if_pos rfl]
  unfold Core.assigns at ha
  cases hp : assignment line with
  | none => simp [hp] at ha
  | some p =>
    have : eqIgnoreAsciiCase p.1 n = true := by simpa [hp] using ha
    simp [this]

/-- A line that is longer than its old text keeps no frame. -/
theorem not_editFrame_glued {doc doc' : ConfigDocument} {s n v header lastLine : Str}
    {before inside init : List Str} (hb : Block s n before header inside)
    (hshape : splitInclusive doc.text = before ++ header :: inside)
    (hls : splitInclusive doc.text = init ++ [lastLine])
    (hls' : splitInclusive doc'.text = init ++ [lastLine ++ assignmentLine n v ['\n']]) :
    ¬ EditFrame doc doc' s n := by
  rintro ⟨-, -, kept, hkept, hsub⟩
  obtain rfl : splitInclusive doc.text = kept := by
    cases hkept with
    | all => rfl
    | without hactive hh ha hcat =>
      refine absurd (congrArg (List.map (·.2)) (reading_block hb).2) ?_
      rw [← hshape, hcat]
      exact valuesFrom_ne_nil hactive hh ha
  obtain ⟨new, hrel, hsublist⟩ := List.sublistForall₂_iff.mp hsub
  have hlen : new.length = (splitInclusive doc'.text).length := by
    rw [← hrel.length_eq, hls, hls', List.length_append, List.length_append]
    rfl
  rw [hsublist.eq_of_length hlen, hls, hls'] at hrel
  have hlast : Kept lastLine (lastLine ++ assignmentLine n v ['\n']) := by
    have := List.forall₂_reverse_iff.mpr hrel
    rw [List.reverse_append, List.reverse_append] at this
    cases this with
    | cons h _ => exact h
  have hlength : (assignmentLine n v ['\n']).length = n.length + 3 + v.length + 1 := by
    simp [assignmentLine]
    omega
  rcases hlast with h | ⟨-, h⟩
  · have := congrArg List.length h
    rw [List.length_append] at this
    omega
  · have := congrArg List.length h
    rw [List.length_append, List.length_append, List.length_singleton] at this
    omega

/-! ## Edits -/

/-- An error of `set_value` leaves the document; with valid arguments it is the missing channel. -/
theorem setValue_error {doc doc' : ConfigDocument} {s n v : Str} {e : ConfigError}
    (h : doc.setValue s n v = (.error e, doc')) :
    doc' = doc ∧ (Edit.ValidArguments s n v →
      (∀ l ∈ splitInclusive doc.text, Core.opens s l = false) ∧ creatable s = false) := by
  unfold setValue at h
  cases hs : validateSectionName s with
  | error e' =>
    simp only [hs] at h
    exact ⟨(Prod.mk.inj h).2.symm, fun ha => by simp [ha.1] at hs⟩
  | ok _ =>
  cases hn : validateOptionName n with
  | error e' =>
    simp only [hs, hn] at h
    exact ⟨(Prod.mk.inj h).2.symm, fun ha => by simp [ha.2.1] at hn⟩
  | ok _ =>
  cases hv : validateValue v with
  | error e' =>
    simp only [hs, hn, hv] at h
    exact ⟨(Prod.mk.inj h).2.symm, fun ha => by simp [ha.2.2] at hv⟩
  | ok _ =>
  simp only [hs, hn, hv] at h
  have hloc := located_findTarget s n (splitInclusive doc.text)
  generalize findTarget s n _ _ 0 false none = target at h hloc
  cases hloc with
  | replace => simp at h
  | inside => simp at h
  | absent hno =>
    simp only at h
    split at h
    · rename_i hc
      exact ⟨(Prod.mk.inj h).2.symm, fun _ => ⟨hno, by simpa using hc⟩⟩
    · simp at h

theorem validArguments_of_setValue {doc doc' : ConfigDocument} {s n v : Str}
    (h : doc.setValue s n v = (.ok (), doc')) : Edit.ValidArguments s n v := by
  obtain ⟨hs, hn, -⟩ := setCase_of_setValue h
  refine ⟨hs, hn, ?_⟩
  cases hv : validateValue v with
  | ok _ => rfl
  | error e => simp [setValue, hs, hn, hv] at h

theorem trim_of_not_creatable {s : Str} (h : creatable s = false) : trim s = s := by
  refine trim_eq_self_of_not_ws fun c hc => ?_
  have := (Bool.or_eq_false_iff.mp h).1
  exact Bool.eq_false_iff.mpr fun hw => by simp [List.any_eq_false.mp this c hc] at hw

theorem removeValue_error {doc doc' : ConfigDocument} {s n : Str} {e : ConfigError}
    (h : doc.removeValue s n = (.error e, doc')) : doc' = doc := by
  unfold removeValue at h
  split at h
  · exact (Prod.mk.inj h).2.symm
  · exact (Prod.mk.inj h).2.symm
  · simp only at h
    split at h <;> simp at h

/-- **The frame of a written value**. -/
theorem editFrame_setValue_iff {doc doc' : ConfigDocument} {s n v : Str}
    (h : doc.setValue s n v = (.ok (), doc')) :
    EditFrame doc doc' s n ↔ doc.glues s n = false ∧
      (trim s ≠ s → (doc.explicitValues (trim s)).get? n = some (valueText v)) := by
  obtain ⟨hs, hn, hc⟩ := setCase_of_setValue h
  generalize hnew : splitInclusive doc'.text = new at hc
  generalize hls : splitInclusive doc.text = ls at hc
  cases hc with
  | @replace before header inside line rest ending hb hh ha he hshape =>
    obtain ⟨hactive, -⟩ := reading_block hb
    have hshape' : splitInclusive doc.text = (before ++ header :: inside) ++ ([line] ++ rest) := by
      rw [hls, hshape]; simp
    have hg : doc.glues s n = false := by
      simp [glues, (shadows_replace hb hh ha (hls.trans hshape)).2]
    refine iff_of_true ?_ ⟨hg, fun ht => absurd (trim_of_opens hb.opens) ht⟩
    refine editFrame_exchange hactive (onlyAssigns_of_assigns hh ha)
      (onlyAssigns_assignmentLine hn he v) hshape' (by rw [hnew]; simp) ?_
    exact .without hactive hh ha (by simpa using hshape')
  | @insert before header inside rest hb hr hshape hterm =>
    obtain ⟨hactive, -⟩ := reading_block hb
    have hshape' : splitInclusive doc.text = (before ++ header :: inside) ++ ([] ++ rest) := by
      rw [hls, hshape]; simp
    have hg : doc.glues s n = false := by
      refine Bool.eq_false_iff.mpr fun hg => ?_
      obtain ⟨hnil, hend⟩ := (glues_iff hb hr (hls.trans hshape)).mp hg
      rw [← flatten_splitInclusive doc.text] at hend
      refine hend ((isSplit_splitInclusive doc.text).all_terminated_iff.mp ?_)
      rw [hls]
      exact hterm hnil
    refine iff_of_true ?_ ⟨hg, fun ht => absurd (trim_of_opens hb.opens) ht⟩
    refine editFrame_exchange hactive (onlyAssigns_nil n)
      (onlyAssigns_assignmentLine (e := ['\n']) hn (by decide) v) hshape' (by rw [hnew]; simp) ?_
    rw [show (before ++ header :: inside) ++ rest = splitInclusive doc.text by simp [hshape']]
    exact .all
  | @glue before header inside init lastLine hb hshape hinit hne hnl =>
    refine iff_of_false (not_editFrame_glued hb (hls.trans hshape) (hls.trans hinit) hnew) ?_
    rintro ⟨hg, -⟩
    simp [glues_of_unterminated hb (hls.trans hshape) (hls.trans hinit) hnl] at hg
  | @append kept blank hno hkept hblank =>
    rw [← hls] at hno hkept
    rw [editFrame_appended_iff hs hn hkept hblank hnew, (shadows_append hno).2]
    simp

/-- **The frame of a removal**. -/
theorem editFrame_removeValue {doc doc' : ConfigDocument} {s n : Str} {removed : Bool}
    (h : doc.removeValue s n = (.ok removed, doc')) : EditFrame doc doc' s n := by
  rcases removeCase_of_removeValue h with ⟨-, rfl⟩ |
    ⟨-, before, line, rest, hls, hls', hactive, hh, ha⟩
  · exact ⟨fun _ _ _ => rfl, fun _ ht => ht, _, .all,
      List.sublistForall₂_iff.mpr
        ⟨_, List.forall₂_same.mpr fun l _ => .inl rfl, List.Sublist.refl _⟩⟩
  · exact editFrame_exchange hactive (onlyAssigns_of_assigns hh ha) (onlyAssigns_nil n)
      (by simpa using hls) (by simpa using hls') (.without hactive hh ha hls)

/-- **The frame of an edit**: a failed edit leaves the document, a completed one changes its option
only, if and only if the condition holds. -/
theorem framed_iff (doc : ConfigDocument) (e : Edit) : e.Framed doc ↔ e.KeepsFrame doc := by
  cases e with
  | setValue s n v =>
    show (match doc.setValue s n v with
      | (.error _, doc') => doc' = doc
      | (.ok (), doc') => EditFrame doc doc' s n) ↔ _
    cases hrun : doc.setValue s n v with
    | mk result doc' =>
    cases result with
    | error e =>
      obtain ⟨hdoc, hmissing⟩ := setValue_error hrun
      refine iff_of_true hdoc fun hargs => ?_
      obtain ⟨hno, hc⟩ := hmissing hargs
      exact ⟨(shadows_append hno).2, fun ht => absurd (trim_of_not_creatable hc) ht⟩
    | ok u =>
      have hargs := validArguments_of_setValue hrun
      rw [show (EditFrame doc doc' s n ↔ _) = _ from rfl, editFrame_setValue_iff hrun]
      exact ⟨fun h _ => h, fun h => h hargs⟩
  | removeValue s n =>
    refine iff_of_true ?_ trivial
    unfold Edit.Framed Edit.run
    cases hrun : doc.removeValue s n with
    | mk result doc' =>
    cases result with
    | error e =>
      simp only [hrun, Except.map]
      exact removeValue_error hrun
    | ok removed =>
      simp only [hrun, Except.map]
      exact editFrame_removeValue hrun

/-- The new line joins the last line of the text and changes its value. -/
theorem not_framed_unterminated :
    ¬ (Edit.setValue "hardware".toList "gain".toList "7".toList).Framed ⟨"[hardware]\nx = 1".toList⟩ := by
  intro h
  have hedit : EditFrame ⟨"[hardware]\nx = 1".toList⟩ ⟨"[hardware]\nx = 1gain = 7\n".toList⟩
      "hardware".toList "gain".toList := h
  have hvalue := hedit.others "hardware".toList "x".toList (by unfold SamePair; decide)
  revert hvalue
  decide

end ConfigDocument
end Core
end UsbRadioPlus
