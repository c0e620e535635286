import Mathlib.Data.List.InsertIdx
import UsbRadioPlus.Core.ConfigFrame

/-!
# One write after the other

What `Core/ConfigReadBack.lean` and `Core/ConfigFrame.lean` say about one written value, for a list
of writes of different options. `Written` is what a write that lands leaves to the next one: the other
options, the sections, the line that `set_value` would write for an option, and how the text ends.
`WrittenAll` is the same for the whole list, where every write lands in its turn (`LandAll`).
-/

namespace UsbRadioPlus
namespace Core
namespace ConfigDocument

open Rust Rust.Str

/-! ## The headers, the first block and the end of a text -/

/-- The names of the section headers, repeated ones included. -/
def headers (doc : ConfigDocument) : List Str := (splitInclusive doc.text).filterMap sectionHeader

/-- The section has a header. -/
def HasHeader (doc : ConfigDocument) (sectionName : Str) : Prop :=
  ∃ found ∈ doc.headers, asciiKey found = asciiKey sectionName

/-- The text does not end in a line feed. -/
def OpenEnd (doc : ConfigDocument) : Prop := ¬ (doc.text = [] ∨ doc.text.getLast? = some '\n')

/-- The first block of the section assigns the option; `active` lines belong to it. -/
def replacesFrom (sectionName name : Str) : Bool → List Str → Bool
  | _, [] => false
  | false, line :: rest => replacesFrom sectionName name (opens sectionName line) rest
  | true, line :: rest =>
    !isHeader line && (assigns name line || replacesFrom sectionName name true rest)

theorem hasHeader_iff {doc : ConfigDocument} {s : Str} :
    doc.HasHeader s ↔ ∃ l ∈ splitInclusive doc.text, Core.opens s l = true := by
  constructor
  · rintro ⟨found, hf, he⟩
    obtain ⟨l, hl, hlf⟩ := List.mem_filterMap.mp hf
    exact ⟨l, hl, by simpa [Core.opens, hlf] using he⟩
  · rintro ⟨l, hl, ho⟩
    obtain ⟨found, hf, he⟩ := exists_of_opens ho
    exact ⟨found, List.mem_filterMap.mpr ⟨l, hl, hf⟩, eqIgnoreAsciiCase_iff.mp he⟩

theorem not_opens_of_not_hasHeader {doc : ConfigDocument} {s : Str} (h : ¬ doc.HasHeader s) :
    ∀ l ∈ splitInclusive doc.text, Core.opens s l = false :=
  fun l hl => Bool.eq_false_iff.mpr fun ho => h (hasHeader_iff.mpr ⟨l, hl, ho⟩)

theorem openEnd_iff {doc : ConfigDocument} :
    doc.OpenEnd ↔ ∃ l ∈ splitInclusive doc.text, ¬ Terminated l := by
  have := (isSplit_splitInclusive doc.text).all_terminated_iff
  rw [flatten_splitInclusive] at this
  rw [OpenEnd, ← this]
  push Not
  rfl

theorem replaces_eq (doc : ConfigDocument) (s n : Str) :
    doc.replaces s n = replacesFrom s n false (splitInclusive doc.text) := by
  have hactive (ls : List Str) :
      replacesFrom s n true ls = (ls.takeWhile fun l => !isHeader l).any (assigns n) := by
    induction ls with
    | nil => rfl
    | cons l ls ih =>
      rw [replacesFrom, List.takeWhile_cons, ih]
      cases isHeader l <;> simp
  unfold replaces blockOf tailOf
  generalize splitInclusive doc.text = ls
  induction ls with
  | nil => rfl
  | cons l ls ih =>
    rw [replacesFrom, List.dropWhile_cons]
    cases ho : Core.opens s l with
    | true => simp [hactive]
    | false => simpa using ih

/-- Whether the first header of the section is the last one of the text. -/
theorem all_tail_eq (s : Str) (ls : List Str) :
    ((ls.dropWhile fun l => !Core.opens s l).tail.all fun l => !isHeader l) =
      ((ls.filterMap sectionHeader).dropWhile fun found =>
        !eqIgnoreAsciiCase found s).tail.isEmpty := by
  induction ls with
  | nil => rfl
  | cons l ls ih =>
    cases hl : sectionHeader l with
    | none =>
      rw [List.filterMap_cons_none hl, List.dropWhile_cons_of_pos (by simp [Core.opens, hl]), ih]
    | some found =>
      rw [List.filterMap_cons_some hl]
      cases he : eqIgnoreAsciiCase found s with
      | false =>
        rw [List.dropWhile_cons_of_pos (by simp [Core.opens, hl, he]),
          List.dropWhile_cons_of_pos (by simp [he]), ih]
      | true =>
        rw [List.dropWhile_cons_of_neg (by simp [Core.opens, hl, he]),
          List.dropWhile_cons_of_neg (by simp [he]), List.tail_cons, List.tail_cons, Bool.eq_iff_iff,
          List.all_eq_true, List.isEmpty_iff, List.filterMap_eq_nil_iff]
        simp [isHeader]

theorem glues_eq (doc : ConfigDocument) (s n : Str) :
    doc.glues s n = (doc.headers.any (fun found => eqIgnoreAsciiCase found s) &&
      !doc.replaces s n &&
      (doc.headers.dropWhile fun found => !eqIgnoreAsciiCase found s).tail.isEmpty &&
      !(doc.text.isEmpty || doc.text.getLast? = some '\n')) := by
  unfold glues tailOf headers
  rw [all_tail_eq]
  congr 3
  rw [List.any_filterMap]
  rfl

theorem openEnd_of_glues {doc : ConfigDocument} {s n : Str} (h : doc.glues s n = true) :
    doc.OpenEnd := by
  rw [glues_eq, Bool.and_eq_true] at h
  simpa [OpenEnd] using h.2

/-- Two texts with the same headers and the same replaced line differ in their ends only. -/
theorem glues_of_glues {doc doc' : ConfigDocument} {s n : Str}
    (hheaders : doc'.headers = doc.headers)
    (hreplaces : doc'.replaces s n = doc.replaces s n) (hopen : doc.OpenEnd)
    (h : doc'.glues s n = true) : doc.glues s n = true := by
  rw [glues_eq, Bool.and_eq_true, hheaders, hreplaces] at h
  rw [glues_eq, Bool.and_eq_true]
  exact ⟨h.1, by simpa [OpenEnd] using hopen⟩

/-! ## The replaced line after an edit -/

section Exchange

variable {r k s n : Str} {mid : List Str}

/-- Lines of the edited option are passed over by a reader that looks for another one. -/
theorem replacesFrom_mid (hmid : OnlyAssigns n mid) (active : Bool)
    (hk : active = true → asciiKey k ≠ asciiKey n) (rest : List Str) :
    replacesFrom r k active (mid ++ rest) = replacesFrom r k active rest := by
  obtain ⟨hheader, hassigns⟩ := hmid
  induction mid with
  | nil => rfl
  | cons l mid ih =>
    simp only [List.mem_cons, forall_eq_or_imp] at hheader hassigns
    have ih := ih hheader.2 hassigns.2
    cases active with
    | false =>
      rw [List.cons_append, replacesFrom, not_opens_of_not_isHeader hheader.1]
      exact ih
    | true =>
      have hl : Core.assigns k l = false := by
        unfold Core.assigns
        cases ha : assignment l with
        | none => rfl
        | some p => simpa [hassigns.1 p ha] using (hk rfl).symm
      rw [List.cons_append, replacesFrom, hheader.1, hl]
      exact ih

theorem replacesFrom_frame {before : List Str} (rest : List Str) (hmid : OnlyAssigns n mid)
    (active : Bool) (hk : activeAfter r active before = true → asciiKey k ≠ asciiKey n) :
    replacesFrom r k active (before ++ (mid ++ rest)) =
      replacesFrom r k active (before ++ rest) := by
  induction before generalizing active with
  | nil => exact replacesFrom_mid hmid active hk rest
  | cons l before ih =>
    rw [activeAfter_cons] at hk
    rw [List.cons_append, List.cons_append]
    cases active with
    | false =>
      rw [replacesFrom, replacesFrom]
      refine ih _ ?_
      cases hl : sectionHeader l with
      | none =>
        rwa [activeAfter_none hl, ← show Core.opens r l = false by simp [Core.opens, hl]] at hk
      | some found =>
        rwa [activeAfter_header hl,
          ← show Core.opens r l = eqIgnoreAsciiCase found r by simp [Core.opens, hl]] at hk
    | true =>
      rw [replacesFrom, replacesFrom]
      cases hl : sectionHeader l with
      | none =>
        rw [activeAfter_none hl] at hk
        rw [ih true hk]
      | some found => simp [isHeader, hl]

/-- Lines that assign the option nowhere in the section change nothing at the end of a text. -/
theorem replacesFrom_append {last : List Str} (h : ∀ active, replacesFrom r k active last = false)
    (active : Bool) (ls : List Str) :
    replacesFrom r k active (ls ++ last) = replacesFrom r k active ls := by
  induction ls generalizing active with
  | nil => rw [List.nil_append, h]; cases active <;> rfl
  | cons l ls ih => cases active <;> simp only [List.cons_append, replacesFrom, ih]

theorem replacesFrom_sameReading {ls ls' : List Str} (h : List.Forall₂ SameReading ls ls')
    (active : Bool) : replacesFrom r k active ls' = replacesFrom r k active ls := by
  induction h generalizing active with
  | nil => rfl
  | @cons l l' ls ls' hl _ ih =>
    cases active <;>
      simp only [replacesFrom, ih, Core.opens, Core.isHeader, Core.assigns, hl.1, hl.2]

end Exchange

/-! ## One write -/

section Write

variable {doc doc' : ConfigDocument} {s n v : Str}

/-- An edit ends no line feed. -/
theorem openEnd_of_setValue (h : doc.setValue s n v = (.ok (), doc')) (hopen : doc'.OpenEnd) :
    doc.OpenEnd := by
  by_contra hend
  have hlines : ∀ l ∈ splitInclusive doc.text, Terminated l := by
    intro l hl
    by_contra hterm
    exact hend (openEnd_iff.mpr ⟨l, hl, hterm⟩)
  -- Lines that end in a line feed make a text that does.
  have hclosed (ls : List Str) (hls : ∀ l ∈ ls, Terminated l) (htext : doc'.text = ls.flatten) :
      ¬ doc'.OpenEnd := by
    rw [openEnd_iff, htext, splitInclusive_flatten (.of_terminated hls)]
    push Not
    exact hls
  unfold setValue at h
  cases hs : validateSectionName s with
  | error e => simp [hs] at h
  | ok _ =>
  cases hn : validateOptionName n with
  | error e => simp [hs, hn] at h
  | ok _ =>
  cases hv : validateValue v with
  | error e => simp [hs, hn, hv] at h
  | ok _ =>
  simp only [hs, hn, hv] at h
  split at h
  · rename_i index heq
    have htext := (congrArg ConfigDocument.text (Prod.mk.inj h).2).symm
    cases hline : (splitInclusive doc.text)[index]? with
    | none =>
      rw [List.set_eq_of_length_le (List.getElem?_eq_none_iff.mp hline)] at htext
      exact hclosed _ hlines htext hopen
    | some line =>
      refine hclosed _ (fun l hl => ?_) htext hopen
      have hterm := hlines line (List.mem_of_getElem? hline)
      rcases List.mem_or_eq_of_mem_set hl with hl | rfl
      · exact hlines l hl
      · rw [hline]
        exact (terminated_assignmentLine_lineEnding hn hv (.inr hterm)).1 hterm
  · rename_i index sectionEnd heq
    refine hclosed _ (fun l hl => ?_) (congrArg ConfigDocument.text (Prod.mk.inj h).2).symm hopen
    rcases List.eq_or_mem_of_mem_insertIdx hl with rfl | hl
    · exact terminated_assignmentLine hn hv
    · exact hlines l hl
  · split at h
    · simp at h
    · refine hopen (.inr ?_)
      rw [← (Prod.mk.inj h).2]
      show (_ ++ (n ++ " = ".toList ++ v ++ ['\n'])).getLast? = some '\n'
      rw [← List.append_assoc, List.getLast?_append, List.getLast?_singleton, Option.some_or]

/-- What a written value leaves to the next write. -/
structure Written (doc doc' : ConfigDocument) (sectionName name value : Str) : Prop where
  pairs : ∀ r k, ¬ SamePair sectionName name r k → doc'.optionPairs r k = doc.optionPairs r k
  replaces : ∀ r k, ¬ SamePair sectionName name r k → doc'.replaces r k = doc.replaces r k
  written : doc'.optionPairs sectionName name =
    (name, valueText value) :: doc.shadowPairs sectionName name
  replaced : doc'.replaces sectionName name = true
  headers : doc'.headers = doc.headers ∨
    ¬ doc.HasHeader sectionName ∧ doc'.headers = doc.headers ++ [sectionName] ∧ ¬ doc'.OpenEnd
  ending : doc'.OpenEnd → doc.OpenEnd ∧ ((∀ l ∈ (splitInclusive doc.text).getLast?, Blank l) →
    ∀ l ∈ (splitInclusive doc'.text).getLast?, Blank l)

/-- A line in the first block of the section, in the place of lines of the option. -/
theorem written_exchange {before inside old : List Str} {header line : Str} (rest : List Str)
    (hb : Block s n before header inside) (hold : OnlyAssigns n old) (hh : isHeader line = false)
    (ha : Core.assigns n line = true)
    (hls : splitInclusive doc.text = before ++ header :: (inside ++ (old ++ rest)))
    (hls' : splitInclusive doc'.text = before ++ header :: (inside ++ line :: rest))
    (hwritten : doc'.optionPairs s n = (n, valueText v) :: doc.shadowPairs s n)
    (hending : doc'.OpenEnd → doc.OpenEnd ∧ ((∀ l ∈ (splitInclusive doc.text).getLast?, Blank l) →
      ∀ l ∈ (splitInclusive doc'.text).getLast?, Blank l)) :
    Written doc doc' s n v := by
  obtain ⟨hactive, -⟩ := reading_block hb
  have hnew := onlyAssigns_of_assigns hh ha
  have hold' : splitInclusive doc.text = (before ++ header :: inside) ++ (old ++ rest) := by
    simpa using hls
  have hnew' : splitInclusive doc'.text = (before ++ header :: inside) ++ ([line] ++ rest) := by
    simpa using hls'
  refine ⟨fun r k hrk => ?_, fun r k hrk => ?_, hwritten, (shadows_replace hb hh ha hls').2, .inl ?_,
    hending⟩
  · rw [optionPairs_eq, optionPairs_eq, hold', hnew', pairsFrom_frame rest hactive hnew hrk,
      pairsFrom_frame rest hactive hold hrk]
  · have hk : activeAfter r false (before ++ header :: inside) = true → asciiKey k ≠ asciiKey n :=
      fun hr hk => hrk ⟨active_unique hactive hr, hk⟩
    rw [replaces_eq, replaces_eq, hold', hnew', replacesFrom_frame rest hnew false hk,
      replacesFrom_frame rest hold false hk]
  · rw [ConfigDocument.headers, ConfigDocument.headers, hold', hnew',
      filterMap_sectionHeader_frame hnew, filterMap_sectionHeader_frame hold]

section Append

variable {kept blank : List Str}

/-- Lines that assign nothing. -/
theorem onlyAssigns_blank (hblank : ∀ l ∈ blank, l = ['\n']) (n : Str) : OnlyAssigns n blank := by
  refine ⟨fun l hl => ?_, fun l hl p hp => ?_⟩
  · rw [hblank l hl]; rfl
  · rw [hblank l hl] at hp; cases hp

theorem replacesFrom_section {header line r k : Str} (hheader : sectionHeader header = some s)
    (hline : OnlyAssigns n [line]) (hblank : ∀ l ∈ blank, l = ['\n']) (hrk : ¬ SamePair s n r k)
    (active : Bool) : replacesFrom r k active (blank ++ [header, line]) = false := by
  -- The blank lines assign no option, so not a longer one than `k` either.
  rw [replacesFrom_mid (onlyAssigns_blank hblank ('_' :: k)) active
    fun _ => ne_of_length_lt (by simp)]
  cases active with
  | true => simp [replacesFrom, isHeader, hheader]
  | false =>
    rw [replacesFrom, show Core.opens r header = eqIgnoreAsciiCase s r by simp [Core.opens, hheader],
      ← List.append_nil [line], replacesFrom_mid hline]
    · cases eqIgnoreAsciiCase s r <;> rfl
    · exact fun hr hk => hrk ⟨(eqIgnoreAsciiCase_iff.mp hr).symm, hk⟩

theorem filterMap_sectionHeader_kept {ls : List Str} (hkept : List.Forall₂ Kept ls kept) :
    kept.filterMap sectionHeader = ls.filterMap sectionHeader := by
  induction hkept with
  | nil => rfl
  | cons h _ ih => rw [List.filterMap_cons, List.filterMap_cons, h.sameReading.1, ih]

/-- A section behind the text. -/
theorem written_append (hs : validateSectionName s = .ok ()) (hn : validateOptionName n = .ok ())
    (ht : trim s = s) (hno : ∀ l ∈ splitInclusive doc.text, Core.opens s l = false)
    (hkept : List.Forall₂ Kept (splitInclusive doc.text) kept) (hblank : ∀ l ∈ blank, l = ['\n'])
    (hls' : splitInclusive doc'.text =
      kept ++ blank ++ ['[' :: s ++ "]\n".toList, assignmentLine n v ['\n']])
    (hwritten : doc'.optionPairs s n = (n, valueText v) :: doc.shadowPairs s n)
    (hclosed : ¬ doc'.OpenEnd) : Written doc doc' s n v := by
  have hheader : sectionHeader ('[' :: s ++ "]\n".toList) = some s := by
    rw [show '[' :: s ++ "]\n".toList = '[' :: (s ++ ']' :: ['\n']) from rfl,
      sectionHeader_written hs, ht]
  have hline : OnlyAssigns n [assignmentLine n v ['\n']] :=
    onlyAssigns_assignmentLine hn (by decide) v
  have hplain := onlyAssigns_blank hblank n
  have hnone : blank.filterMap sectionHeader = [] :=
    List.filterMap_eq_nil_iff.mpr fun l hl => by simpa [isHeader] using hplain.not_isHeader l hl
  have hnames : (kept ++ blank).filterMap sectionHeader = doc.headers := by
    rw [List.filterMap_append, filterMap_sectionHeader_kept hkept, hnone, List.append_nil]
    rfl
  have hmissing : ¬ doc.HasHeader s := fun h => by
    obtain ⟨l, hl, ho⟩ := hasHeader_iff.mp h
    simp [hno l hl] at ho
  refine ⟨fun r k hrk => ?_, fun r k hrk => ?_, hwritten, ?_, .inr ⟨hmissing, ?_, hclosed⟩,
    fun hopen => absurd hopen hclosed⟩
  · rw [optionPairs_eq, optionPairs_eq, hls', pairsFrom, reading_appended hs hn hkept hblank,
      List.filter_append]
    refine List.append_right_eq_self.mpr (List.filter_eq_nil_iff.mpr fun p hp hk => hrk ?_)
    split at hp
    · rename_i he
      rw [List.mem_singleton.mp hp, eqIgnoreAsciiCase_iff] at hk
      rw [eqIgnoreAsciiCase_iff, ht] at he
      exact ⟨he.symm, hk.symm⟩
    · simp at hp
  · rw [replaces_eq, replaces_eq, hls', List.append_assoc,
      replacesFrom_append (replacesFrom_section hheader hline hblank hrk),
      replacesFrom_sameReading (hkept.imp fun _ _ h => h.sameReading)]
  · have hb : Block s n (kept ++ blank) ('[' :: s ++ "]\n".toList) [] := by
      refine ⟨fun l hl => ?_, by rw [Core.opens, hheader]; simp, by simp, by simp⟩
      refine Bool.eq_false_iff.mpr fun ho => hmissing ?_
      obtain ⟨found, hf, he⟩ := exists_of_opens ho
      refine ⟨found, ?_, eqIgnoreAsciiCase_iff.mp he⟩
      rw [← hnames]
      exact List.mem_filterMap.mpr ⟨l, hl, hf⟩
    refine (shadows_replace hb (hline.not_isHeader _ (by simp)) ?_ hls').2
    have hpair := assignment_assignmentLine hn (w := []) (e := ['\n']) (by simp [Blank]) (by decide) v
    rw [List.nil_append] at hpair
    simp [Core.assigns, hpair]
  · have hsecond : sectionHeader (assignmentLine n v ['\n']) = none := by
      simpa [isHeader] using hline.not_isHeader _ (by simp)
    rw [ConfigDocument.headers, hls', List.filterMap_append, hnames, List.filterMap_cons_some hheader,
      List.filterMap_cons_none hsecond, List.filterMap_nil]

end Append

theorem getLast?_block {before inside rest : List Str} {header : Str} (hrest : rest ≠ []) :
    (before ++ header :: (inside ++ rest)).getLast? = rest.getLast? := by
  rw [show before ++ header :: (inside ++ rest) = (before ++ header :: inside) ++ rest by simp,
    List.getLast?_append_of_ne_nil _ hrest]

theorem not_openEnd_of_last (ls : List Str) {l : Str} (hls : splitInclusive doc.text = ls ++ [l])
    (hl : Terminated l) : ¬ doc.OpenEnd := by
  intro hopen
  obtain ⟨before, last, hsplit, -, -, hnl⟩ := exists_unterminated hopen
  obtain ⟨-, hlast⟩ := List.append_inj' (hls.symm.trans hsplit) rfl
  rw [List.cons.injEq] at hlast
  exact hnl (hlast.1 ▸ hl.newline_mem)

/-- **One write that lands**. -/
theorem written_of_setValue (h : doc.setValue s n v = (.ok (), doc')) (hlands : doc.Lands s n) :
    Written doc doc' s n v := by
  have hwritten : doc'.optionPairs s n = (n, valueText v) :: doc.shadowPairs s n := by
    rcases optionPairs_setValue h with ⟨-, hp⟩ | ⟨hl, -⟩
    · exact hp
    · exact absurd hlands hl
  have hopen := openEnd_of_setValue h
  obtain ⟨hs, hn, hv⟩ := validArguments_of_setValue h
  obtain ⟨-, -, hc⟩ := setCase_of_setValue h
  generalize hnew : splitInclusive doc'.text = new at hc
  generalize hls : splitInclusive doc.text = ls at hc
  have hassigns {w e : Str} (hw : Blank w) (he : Blank e) :
      isHeader (w ++ assignmentLine n v e) = false ∧
        Core.assigns n (w ++ assignmentLine n v e) = true := by
    simp [isHeader, Core.assigns, sectionHeader_assignmentLine hn hw,
      assignment_assignmentLine hn hw he]
  cases hc with
  | @replace before header inside line rest ending hb hh ha he hshape =>
    obtain ⟨hh', ha'⟩ := hassigns (w := []) (by simp [Blank]) he
    refine written_exchange rest hb (onlyAssigns_of_assigns hh ha) hh' ha'
      (hls.trans hshape) hnew hwritten fun ho => ⟨hopen ho, ?_⟩
    rw [hls, hshape, hnew, getLast?_block (by simp), getLast?_block (by simp)]
    intro hlast
    cases rest with
    | nil =>
      have := assignment_blank (hlast line (by simp))
      simp [Core.assigns, this] at ha
    | cons l rest => rwa [List.getLast?_cons_cons] at hlast ⊢
  | @insert before header inside rest hb hr hshape hterm =>
    obtain ⟨hh', ha'⟩ := hassigns (w := []) (e := ['\n']) (by simp [Blank]) (by decide)
    refine written_exchange rest hb (onlyAssigns_nil n) hh' ha'
      (hls.trans hshape) hnew hwritten fun ho => ⟨hopen ho, ?_⟩
    cases rest with
    | nil =>
      obtain ⟨l, hl, hopenLine⟩ := openEnd_iff.mp (hopen ho)
      exact absurd (hterm rfl l (hls ▸ hl)) hopenLine
    | cons l rest =>
      rw [hls, hshape, hnew, getLast?_block (by simp), getLast?_block (by simp),
        List.getLast?_cons_cons]
      exact id
  | @glue before header inside init lastLine hb hshape hinit hne hnl =>
    -- The write lands, so the last line is blank, and it is no header.
    have hg := glues_of_unterminated hb (hls.trans hshape) (hls.trans hinit) hnl
    have hblank : Blank lastLine := hlands.notGlued hg lastLine (by rw [hls, hinit]; simp)
    rcases List.eq_nil_or_concat inside with rfl | ⟨inside', l, rfl⟩
    · obtain ⟨rfl, rfl⟩ : before = init ∧ header = lastLine :=
        (List.append_inj' (hshape.symm.trans hinit) rfl).imp_right (by simp)
      obtain ⟨found, hf, -⟩ := exists_of_opens hb.opens
      rw [sectionHeader_blank hblank] at hf
      cases hf
    · obtain ⟨rfl, rfl⟩ : before ++ header :: inside' = init ∧ l = lastLine := by
        have hcat : (before ++ header :: inside') ++ [l] = init ++ [lastLine] := by
          rw [← hinit, hshape]
          simp
        exact (List.append_inj' hcat rfl).imp_right (by simp)
      have hb' : Block s n before header inside' :=
        ⟨hb.not_opens, hb.opens, fun x hx => hb.not_isHeader x (by simp [hx]),
          fun x hx => hb.not_assigns x (by simp [hx])⟩
      have hold : OnlyAssigns n [l] := by
        refine ⟨by simpa using hb.not_isHeader l (by simp), ?_⟩
        simp [assignment_blank hblank]
      obtain ⟨hh', ha'⟩ := hassigns (e := ['\n']) hblank (by decide)
      have hclosed : ¬ doc'.OpenEnd := not_openEnd_of_last _ hnew
        (.prepend hnl (terminated_assignmentLine hn hv))
      exact written_exchange [] hb' hold hh' ha' (by rw [hls, hinit]; simp)
        (by rw [hnew]; simp) hwritten fun ho => absurd ho hclosed
  | @append kept blank hno hkept hblank =>
    rw [← hls] at hno hkept
    refine written_append hs hn hlands.trimmed hno hkept hblank hnew hwritten ?_
    refine not_openEnd_of_last (kept ++ blank ++ ['[' :: s ++ "]\n".toList]) (by simpa using hnew) ?_
    exact terminated_assignmentLine hn hv

/-- The replaced line depends on the names up to ASCII case. -/
theorem replaces_congr (doc : ConfigDocument) {r k s n : Str} (h : SamePair s n r k) :
    doc.replaces r k = doc.replaces s n := by
  have hopens : Core.opens r = Core.opens s := funext fun l => opens_congr h.1 l
  have hassigns : Core.assigns k = Core.assigns n := by
    funext l
    simp only [Core.assigns, eqIgnoreAsciiCase, h.2]
  rw [replaces, replaces, blockOf, blockOf, tailOf, tailOf, hopens, hassigns]

/-- A write that would land still does. -/
theorem Written.lands (hw : Written doc doc' s n v) {r k : Str} (hl : doc.Lands r k) :
    doc'.Lands r k := by
  refine ⟨hl.trimmed, fun hg => ?_⟩
  have hopen' := openEnd_of_glues hg
  obtain ⟨hopen, hlast⟩ := hw.ending hopen'
  have hheaders : doc'.headers = doc.headers := by
    rcases hw.headers with h | ⟨-, -, hclosed⟩
    · exact h
    · exact absurd hopen' hclosed
  have hpair : ¬ SamePair s n r k := by
    intro hpair
    rw [glues, replaces_congr doc' hpair, hw.replaced] at hg
    simp at hg
  exact hlast (hl.notGlued (glues_of_glues hheaders (hw.replaces r k hpair) hopen hg))

theorem Written.hasHeader (hw : Written doc doc' s n v) {r : Str} (h : doc.HasHeader r) :
    doc'.HasHeader r := by
  obtain ⟨found, hf, he⟩ := h
  refine ⟨found, ?_, he⟩
  rcases hw.headers with h | ⟨-, h, -⟩
  · rwa [h]
  · rw [h]
    exact List.mem_append_left _ hf

/-- Behind a section that is appended every write lands. -/
theorem lands_of_not_openEnd {r : Str} (hclosed : ¬ doc.OpenEnd) (ht : trim r = r) (k : Str) :
    doc.Lands r k :=
  ⟨ht, fun hg => absurd (openEnd_of_glues hg) hclosed⟩

/-- The same holds of a section that is missing. -/
theorem lands_of_not_hasHeader {r : Str} (hno : ¬ doc.HasHeader r) (ht : trim r = r) (k : Str) :
    doc.Lands r k := by
  refine ⟨ht, fun hg => ?_⟩
  rw [(shadows_append (not_opens_of_not_hasHeader hno)).2] at hg
  cases hg

/-- And of an option that the first block assigns. -/
theorem lands_of_replaces {r k : Str} (hr : doc.replaces r k = true) (ht : trim r = r) :
    doc.Lands r k :=
  ⟨ht, fun hg => by simp [glues, hr] at hg⟩

theorem trim_of_hasHeader {r : Str} (h : doc.HasHeader r) : trim r = r := by
  obtain ⟨l, -, ho⟩ := hasHeader_iff.mp h
  exact trim_of_opens ho

theorem Written.not_openEnd (hw : Written doc doc' s n v) (hs : ¬ doc.HasHeader s) :
    ¬ doc'.OpenEnd := by
  rcases hw.headers with h | ⟨-, -, hclosed⟩
  · -- The section has been read, so it has a header.
    intro hopen
    have hno : ∀ l ∈ splitInclusive doc'.text, Core.opens s l = false :=
      not_opens_of_not_hasHeader (by rwa [HasHeader, h])
    have hnil := (pairsFrom_of_not_opens hno n).2
    rw [← optionPairs_eq, hw.written] at hnil
    cases hnil
  · exact hclosed

end Write

/-! ## Several writes -/

/-- The arguments of `set_value`. -/
structure Write where
  sectionName : Str
  name : Str
  value : Str
  deriving DecidableEq, Repr

/-- The writes one after the other, up to the first that fails. -/
def writeAll : List Write → ConfigDocument → Except ConfigError Unit × ConfigDocument
  | [], doc => (.ok (), doc)
  | w :: ws, doc =>
    match doc.setValue w.sectionName w.name w.value with
    | (.error e, doc) => (.error e, doc)
    | (.ok (), doc) => writeAll ws doc

/-- Every write lands in its turn. -/
def LandAll : List Write → ConfigDocument → Prop
  | [], _ => True
  | w :: ws, doc => doc.Lands w.sectionName w.name ∧
    LandAll ws (doc.setValue w.sectionName w.name w.value).2

/-- The writes are of different options. -/
def Distinct (ws : List Write) : Prop :=
  ws.Pairwise fun w w' => ¬ SamePair w.sectionName w.name w'.sectionName w'.name

/-- What the writes leave. -/
structure WrittenAll (ws : List Write) (doc doc' : ConfigDocument) : Prop where
  pairs : ∀ r k, (∀ w ∈ ws, ¬ SamePair w.sectionName w.name r k) →
    doc'.optionPairs r k = doc.optionPairs r k
  replaces : ∀ r k, (∀ w ∈ ws, ¬ SamePair w.sectionName w.name r k) →
    doc'.replaces r k = doc.replaces r k
  written : ∀ w ∈ ws, doc'.optionPairs w.sectionName w.name =
    (w.name, valueText w.value) :: doc.shadowPairs w.sectionName w.name
  replaced : ∀ w ∈ ws, doc'.replaces w.sectionName w.name = true
  headers : ∃ added, doc'.headers = doc.headers ++ added ∧
    ∀ s ∈ added, ¬ doc.HasHeader s ∧ ∃ w ∈ ws, w.sectionName = s

section Writes

variable {doc doc' : ConfigDocument} {ws : List Write} {w : Write}

theorem writeAll_cons (h : writeAll (w :: ws) doc = (.ok (), doc')) :
    ∃ middle, doc.setValue w.sectionName w.name w.value = (.ok (), middle) ∧
      writeAll ws middle = (.ok (), doc') := by
  rw [writeAll] at h
  cases hw : doc.setValue w.sectionName w.name w.value with
  | mk result middle =>
    rw [hw] at h
    cases result with
    | error e => cases h
    | ok u => exact ⟨middle, rfl, h⟩

/-- **Several writes that land**. -/
theorem writtenAll_of_writeAll (h : writeAll ws doc = (.ok (), doc')) (hl : LandAll ws doc)
    (hd : Distinct ws) : WrittenAll ws doc doc' := by
  induction ws generalizing doc with
  | nil =>
    obtain rfl : doc = doc' := (Prod.mk.inj h).2
    exact ⟨fun _ _ _ => rfl, fun _ _ _ => rfl, by simp, by simp, [], by simp, by simp⟩
  | cons w ws ih =>
    obtain ⟨middle, hset, hrest⟩ := writeAll_cons h
    obtain ⟨hlands, hl⟩ := hl
    rw [hset] at hl
    obtain ⟨hother, hd⟩ := List.pairwise_cons.mp hd
    have hw := written_of_setValue hset hlands
    obtain ⟨hpairs, hreplaces, hwritten, hreplaced, added, hadded, hnames⟩ := ih hrest hl hd
    have hback : ∀ x ∈ ws, ¬ SamePair x.sectionName x.name w.sectionName w.name :=
      fun x hx hpair => hother x hx ⟨hpair.1.symm, hpair.2.symm⟩
    refine ⟨fun r k hrk => ?_, fun r k hrk => ?_, ?_, ?_, ?_⟩
    · rw [List.forall_mem_cons] at hrk
      rw [hpairs r k hrk.2, hw.pairs r k hrk.1]
    · rw [List.forall_mem_cons] at hrk
      rw [hreplaces r k hrk.2, hw.replaces r k hrk.1]
    · refine List.forall_mem_cons.mpr ⟨?_, fun x hx => ?_⟩
      · rw [hpairs _ _ hback, hw.written]
      · rw [hwritten x hx, shadowPairs, shadowPairs, hw.pairs _ _ (hother x hx),
          hw.replaces _ _ (hother x hx)]
    · refine List.forall_mem_cons.mpr ⟨?_, hreplaced⟩
      rw [hreplaces _ _ hback, hw.replaced]
    · have hadded' : ∀ s ∈ added, ¬ doc.HasHeader s ∧ ∃ x ∈ w :: ws, x.sectionName = s := by
        intro s hs
        obtain ⟨hno, x, hx, rfl⟩ := hnames s hs
        exact ⟨fun h => hno (hw.hasHeader h), x, List.mem_cons_of_mem _ hx, rfl⟩
      rcases hw.headers with h | ⟨hno, h, -⟩
      · exact ⟨added, by rw [hadded, h], hadded'⟩
      · refine ⟨w.sectionName :: added, by rw [hadded, h]; simp, ?_⟩
        exact List.forall_mem_cons.mpr ⟨⟨hno, w, List.mem_cons_self, rfl⟩, hadded'⟩

/-- Writes that would all land at once do so one after the other. -/
theorem landAll_of_lands (h : ∀ w ∈ ws, doc.Lands w.sectionName w.name) : LandAll ws doc := by
  induction ws generalizing doc with
  | nil => trivial
  | cons w ws ih =>
    obtain ⟨hw, hws⟩ := List.forall_mem_cons.mp h
    refine ⟨hw, ih fun x hx => ?_⟩
    cases hset : doc.setValue w.sectionName w.name w.value with
    | mk result middle =>
      cases result with
      | error e => rw [(setValue_error hset).1]; exact hws x hx
      | ok u => exact (written_of_setValue hset hw).lands (hws x hx)

/-- A section that is appended ends the text, so all the others land. -/
theorem landAll_of_absent (h : writeAll (w :: ws) doc = (.ok (), doc'))
    (hlands : doc.Lands w.sectionName w.name) (hs : ¬ doc.HasHeader w.sectionName)
    (ht : ∀ x ∈ ws, trim x.sectionName = x.sectionName) : LandAll (w :: ws) doc := by
  obtain ⟨middle, hset, -⟩ := writeAll_cons h
  refine ⟨hlands, ?_⟩
  rw [hset]
  have hclosed := (written_of_setValue hset hlands).not_openEnd hs
  exact landAll_of_lands fun x hx => lands_of_not_openEnd hclosed (ht x hx) _

theorem validArguments_of_writeAll (h : writeAll ws doc = (.ok (), doc')) :
    ∀ w ∈ ws, Edit.ValidArguments w.sectionName w.name w.value := by
  induction ws generalizing doc with
  | nil => simp
  | cons w ws ih =>
    obtain ⟨middle, hset, hrest⟩ := writeAll_cons h
    exact List.forall_mem_cons.mpr ⟨validArguments_of_setValue hset, ih hrest⟩

/-- Writes of existing sections succeed. -/
theorem exists_writeAll (hs : ∀ w ∈ ws, doc.HasHeader w.sectionName)
    (hargs : ∀ w ∈ ws, Edit.ValidArguments w.sectionName w.name w.value) (hl : LandAll ws doc) :
    ∃ doc', writeAll ws doc = (.ok (), doc') := by
  induction ws generalizing doc with
  | nil => exact ⟨doc, rfl⟩
  | cons w ws ih =>
    obtain ⟨hw, hws⟩ := List.forall_mem_cons.mp hs
    obtain ⟨ha, hargs⟩ := List.forall_mem_cons.mp hargs
    obtain ⟨hlands, hl⟩ := hl
    rw [writeAll]
    cases hset : doc.setValue w.sectionName w.name w.value with
    | mk result middle =>
      rw [hset] at hl
      cases result with
      | error e =>
        obtain ⟨l, hlmem, ho⟩ := hasHeader_iff.mp hw
        simp [((setValue_error hset).2 ha).1 l hlmem] at ho
      | ok u =>
        have hw := written_of_setValue hset hlands
        exact ih (fun x hx => hw.hasHeader (hws x hx)) hargs hl

end Writes

/-! ## What is read behind the writes -/

/-- Another assignment of the very name stands behind the line that `set_value` writes. -/
def Shadowed (doc : ConfigDocument) (sectionName name : Str) : Prop :=
  ∃ p ∈ doc.shadowPairs sectionName name, p.1 = name

theorem explicitValues_congr (doc : ConfigDocument) {r s : Str} (h : asciiKey r = asciiKey s) :
    doc.explicitValues r = doc.explicitValues s := by
  rw [explicitValues_eq, explicitValues_eq, assigned, assigned, (reading_congr h _ _).2]

/-- A value is that of the last assignment in the very spelling. -/
theorem get?_explicitValues_pairs (doc : ConfigDocument) (s n : Str) :
    (doc.explicitValues s).get? n =
      ((doc.optionPairs s n).filter fun p => p.1 = n).getLast?.map (·.2) := by
  rw [get?_explicitValues, optionPairs, List.filter_filter]
  congr 2
  refine List.filter_congr fun p _ => ?_
  by_cases hp : p.1 = n
  · simp [hp]
  · simp [hp]

theorem filter_shadowPairs_eq_nil_iff {doc : ConfigDocument} {s n : Str} :
    ((doc.shadowPairs s n).filter fun p => p.1 = n) = [] ↔ ¬ doc.Shadowed s n := by
  rw [List.filter_eq_nil_iff, Shadowed]
  simp only [decide_eq_true_eq, not_exists, not_and]

/-- A value that shadows is the one that was read. -/
theorem get?_of_shadowed {doc : ConfigDocument} {s n : Str} (h : doc.Shadowed s n) :
    (doc.explicitValues s).get? n =
      ((doc.shadowPairs s n).filter fun p => p.1 = n).getLast?.map (·.2) := by
  rw [get?_explicitValues_pairs]
  rw [Shadowed, shadowPairs] at h
  rw [shadowPairs]
  split
  · rename_i hr
    rw [if_pos hr] at h
    cases hpairs : doc.optionPairs s n with
    | nil => rfl
    | cons p ps =>
      rw [hpairs, List.tail_cons] at h
      rw [List.tail_cons, List.filter_cons]
      split
      · obtain ⟨q, hq, hqn⟩ := h
        have hne : (ps.filter fun p => p.1 = n) ≠ [] :=
          List.ne_nil_of_mem (List.mem_filter.mpr ⟨hq, decide_eq_true hqn⟩)
        obtain ⟨x, xs, hxs⟩ := List.exists_cons_of_ne_nil hne
        rw [hxs, List.getLast?_cons_cons]
      · rfl
  · rfl

namespace WrittenAll

variable {doc doc' : ConfigDocument} {ws : List Write} (h : WrittenAll ws doc doc')
include h

theorem get?_other {r k : Str} (hrk : ∀ w ∈ ws, ¬ SamePair w.sectionName w.name r k) :
    (doc'.explicitValues r).get? k = (doc.explicitValues r).get? k := by
  rw [get?_explicitValues_pairs, get?_explicitValues_pairs, h.pairs r k hrk]

/-- Behind a write the value is the written one, or the one that shadows it. -/
theorem get?_written {w : Write} (hw : w ∈ ws) :
    (doc.Shadowed w.sectionName w.name → ((doc.explicitValues w.sectionName).get? w.name).isSome ∧
      (doc'.explicitValues w.sectionName).get? w.name =
        (doc.explicitValues w.sectionName).get? w.name) ∧
    (¬ doc.Shadowed w.sectionName w.name →
      (doc'.explicitValues w.sectionName).get? w.name = some (valueText w.value)) := by
  rw [get?_explicitValues_pairs doc', h.written w hw, List.filter_cons_of_pos (by simp)]
  constructor
  · intro hs
    rw [get?_of_shadowed hs]
    obtain ⟨x, xs, hxs⟩ := List.exists_cons_of_ne_nil
      (mt filter_shadowPairs_eq_nil_iff.mp (not_not_intro hs))
    rw [hxs, List.getLast?_cons_cons]
    simp [List.getLast?_cons]
  · intro hs
    rw [filter_shadowPairs_eq_nil_iff.mpr hs]
    rfl

/-- Behind a write the same assignments would shadow the next one. -/
theorem shadowPairs_written {w : Write} (hw : w ∈ ws) :
    doc'.shadowPairs w.sectionName w.name = doc.shadowPairs w.sectionName w.name := by
  conv_lhs => rw [shadowPairs, if_pos (h.replaced w hw), h.written w hw, List.tail_cons]

theorem hasHeader {r : Str} (hr : doc.HasHeader r) : doc'.HasHeader r := by
  obtain ⟨added, hadded, -⟩ := h.headers
  obtain ⟨found, hf, he⟩ := hr
  exact ⟨found, by rw [hadded]; exact List.mem_append_left _ hf, he⟩

/-- The section of a write is there behind it. -/
theorem hasHeader_written {w : Write} (hw : w ∈ ws) : doc'.HasHeader w.sectionName := by
  by_contra hno
  have hnil := (pairsFrom_of_not_opens (not_opens_of_not_hasHeader hno) w.name).2
  rw [← optionPairs_eq, h.written w hw] at hnil
  cases hnil

end WrittenAll

/-- The values that are read are read as themselves. -/
theorem valueText_of_get? {doc : ConfigDocument} {r k v : Str}
    (h : (doc.explicitValues r).get? k = some v) : valueText v = v := by
  rw [get?_explicitValues] at h
  obtain ⟨p, hp, rfl⟩ := Option.map_eq_some_iff.mp h
  have hmem := (List.mem_filter.mp (List.mem_of_getLast? hp)).1
  rw [valueText_eq_trim_iff.mpr (not_isComment_of_mem_assignedFrom hmem)]
  exact trim_of_mem_assignedFrom hmem

end ConfigDocument
end Core
end UsbRadioPlus
