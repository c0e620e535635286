import Mathlib.Algebra.Ring.Nat
import Mathlib.Data.List.DropRight

/-!
# Rust string slices as lists of characters

A `str` is the list of its Unicode scalar values (`Char`), so a `String` that is not valid UTF-8
cannot be built. The functions follow `core::str`; each comes with the lemmas that say what
happens to it when text is put in front of or behind its argument.

* `trimStart`, `trimEnd`, `trim`: the Unicode `White_Space` characters (`isWhitespace`) at the
  ends. White space added at an end changes no `trim` (`trim_append_ws`).
* `splitOnce`: the text before and after the first occurrence of a character.
* `eqIgnoreAsciiCase`: an equivalence (`asciiKey`: both sides folded).
* `splitInclusive`: the lines of a text, each with its line feed. `IsSplit` says which lists of
  lines are the lines of a text: every line but the last ends in its only line feed. It is the
  invariant of every edit of lines: `splitInclusive_flatten` and `IsSplit.append_iff`.
* `lines`: the same lines without `\n` or `\r\n`.
-/

namespace Rust

/-- A string slice, as its characters. -/
abbrev Str := List Char

namespace Str

/-- `str::len`: the bytes in UTF-8. -/
def byteLen (s : Str) : Nat := (s.map Char.utf8Size).sum

/-- `str::strip_prefix` -/
def stripPrefix (start s : Str) : Option Str :=
  if start.isPrefixOf s then some (s.drop start.length) else none

/-- `str::strip_suffix` -/
def stripSuffix (last s : Str) : Option Str :=
  if last.isSuffixOf s then some (s.take (s.length - last.length)) else none

/-! ## White space -/

/-- `char::is_whitespace`: the Unicode property `White_Space`. -/
def isWhitespace (c : Char) : Bool :=
  let n := c.toNat
  (9 ≤ n && n ≤ 13) || n == 0x20 || n == 0x85 || n == 0xA0 || n == 0x1680 ||
    (0x2000 ≤ n && n ≤ 0x200A) || n == 0x2028 || n == 0x2029 || n == 0x202F ||
    n == 0x205F || n == 0x3000

/-- Every character of `s` is white space. -/
def Blank (s : Str) : Prop := ∀ c ∈ s, isWhitespace c = true

instance (s : Str) : Decidable (Blank s) := 
  decidable_of_iff (s.all isWhitespace = true) List.all_eq_true

/-- `str::trim_start`. -/
def trimStart (s : Str) : Str := s.dropWhile isWhitespace

/-- `str::trim_end`. -/
def trimEnd (s : Str) : Str := s.rdropWhile isWhitespace

/-- `str::trim`. -/
def trim (s : Str) : Str := trimEnd (trimStart s)

theorem Blank.append {s t : Str} (hs : Blank s) (ht : Blank t) : Blank (s ++ t) := by
  intro c hc
  rcases List.mem_append.mp hc with h | h
  · exact hs c h
  · exact ht c h

theorem trimStart_eq_nil_iff {s : Str} : trimStart s = [] ↔ Blank s := by
  simp [trimStart, Blank, List.dropWhile_eq_nil_iff]

theorem trimStart_blank_append {w : Str} (hw : Blank w) (s : Str) :
    trimStart (w ++ s) = trimStart s :=
  List.dropWhile_append_of_pos hw

theorem trimStart_append {s : Str} (hs : ¬ Blank s) (t : Str) :
    trimStart (s ++ t) = trimStart s ++ t := by
  have h : s.dropWhile isWhitespace ≠ [] := fun h => hs (trimStart_eq_nil_iff.mp h)
  simp [trimStart, List.dropWhile_append, h]

theorem trimStart_cons {c : Char} (hc : isWhitespace c = false) (s : Str) :
    trimStart (c :: s) = c :: s := by
  simp [trimStart, hc]

theorem head_trimStart {s : Str} {c : Char} {t : Str} (h : trimStart s = c :: t) :
    isWhitespace c = false := by
  have := List.head?_dropWhile_not isWhitespace s
  rw [show s.dropWhile isWhitespace = c :: t from h] at this
  simpa using this

theorem trimEnd_append_blank {w : Str} (hw : Blank w) (s : Str) :
    trimEnd (s ++ w) = trimEnd s := by
  unfold trimEnd List.rdropWhile
  rw [List.reverse_append, List.dropWhile_append_of_pos]
  intro c hc
  exact hw c (List.mem_reverse.mp hc)

theorem trimEnd_concat {c : Char} (hc : isWhitespace c = false) (s : Str) :
    trimEnd (s ++ [c]) = s ++ [c] :=
  List.rdropWhile_concat_neg _ _ _ (by simp [hc])

theorem trimEnd_isPrefixOf (s : Str) : trimEnd s <+: s := List.rdropWhile_prefix _ _

theorem trim_blank_append {w : Str} (hw : Blank w) (s : Str) : trim (w ++ s) = trim s := by
  rw [trim, trimStart_blank_append hw, trim]

/-- White space behind a text does not change what is left of it after `trim`. -/
theorem trim_append_blank {w : Str} (hw : Blank w) (s : Str) : trim (s ++ w) = trim s := by
  by_cases hs : Blank s
  · rw [trim, trimStart_eq_nil_iff.mpr (hs.append hw), trim, trimStart_eq_nil_iff.mpr hs]
  · rw [trim, trimStart_append hs, trimEnd_append_blank hw, trim]

theorem mem_of_mem_trim {s : Str} {c : Char} (h : c ∈ trim s) : c ∈ s :=
  (List.dropWhile_suffix isWhitespace).subset (List.IsPrefix.subset (trimEnd_isPrefixOf _) h)

/-- `trim` removes white space only. -/
theorem mem_trim_of_mem {s : Str} {c : Char} (hc : isWhitespace c = false) (h : c ∈ s) :
    c ∈ trim s := by
  obtain ⟨a, b, rfl⟩ := List.append_of_mem h
  have hb : ¬ Blank (a ++ [c]) := fun hw => by simpa [hc] using hw c (by simp)
  have e : a ++ c :: b = (a ++ [c]) ++ b := by simp
  rw [e, trim, trimStart_append hb]
  obtain ⟨a', ha'⟩ : ∃ a', trimStart (a ++ [c]) = a' ++ [c] := by
    by_cases ha : Blank a
    · exact ⟨[], by rw [trimStart_blank_append ha, trimStart_cons hc]; rfl⟩
    · exact ⟨trimStart a, trimStart_append ha [c]⟩
  rw [ha']
  -- The last character kept by `trimEnd` is at or behind `c`.
  by_cases hb' : Blank b
  · rw [trimEnd_append_blank hb', trimEnd_concat hc]
    simp
  · have h' : b.reverse.dropWhile isWhitespace ≠ [] := by
      intro hn
      exact hb' fun x hx => List.dropWhile_eq_nil_iff.mp hn x (List.mem_reverse.mpr hx)
    unfold trimEnd List.rdropWhile
    rw [List.reverse_append, List.dropWhile_append]
    simp [h']

/-- A text that neither starts nor ends with white space is its own `trim`. -/
theorem trim_eq_self {s : Str} (hh : ∀ c ∈ s.head?, isWhitespace c = false)
    (hl : ∀ c ∈ s.getLast?, isWhitespace c = false) : trim s = s := by
  cases s with
  | nil => rfl
  | cons c t =>
    have hs : trimStart (c :: t) = c :: t := trimStart_cons (hh c (by simp)) t
    rw [trim, hs]
    exact List.rdropWhile_eq_self_iff.mpr fun hne => by
      simp [hl _ (List.getLast?_eq_some_getLast hne)]

theorem trim_eq_self_of_not_ws {s : Str} (h : ∀ c ∈ s, isWhitespace c = false) : trim s = s :=
  trim_eq_self (fun c hc => h c (List.mem_of_mem_head? hc))
    (fun c hc => h c (List.mem_of_mem_getLast? hc))

theorem trim_trim (s : Str) : trim (trim s) = trim s := by
  apply trim_eq_self
  · intro c hc
    cases h : trimStart s with
    | nil => simp [trim, h, trimEnd] at hc
    | cons d t =>
      have hp := trimEnd_isPrefixOf (d :: t)
      rw [trim, h] at hc
      obtain ⟨r, hr⟩ := hp
      cases ht : trimEnd (d :: t) with
      | nil => simp [ht] at hc
      | cons e u =>
        rw [ht] at hc hr
        simp only [List.cons_append, List.cons.injEq] at hr
        simp only [List.head?_cons, Option.mem_def, Option.some.injEq] at hc
        rw [← hc, hr.1]
        exact head_trimStart h
  · intro c hc
    have hne : trim s ≠ [] := fun h => by simp [h] at hc
    rw [List.getLast?_eq_some_getLast hne] at hc
    have h := List.rdropWhile_last_not isWhitespace (trimStart s) hne
    simp only [Option.mem_def, Option.some.injEq] at hc
    subst hc
    simpa [trim, trimEnd] using h

/-! ## Splitting at a character -/

/-- `str::split_once` at a character: the text before its first occurrence and the text after. -/
@[grind =] def splitOnce (sep : Char) : Str → Option (Str × Str)
  | [] => none
  | c :: s => if c = sep then some ([], s) else (splitOnce sep s).map fun (a, b) => (c :: a, b)

theorem splitOnce_eq_some_iff {sep : Char} {s a b : Str} :
    splitOnce sep s = some (a, b) ↔ s = a ++ sep :: b ∧ sep ∉ a := by
  induction s generalizing a with
  | nil => simp [splitOnce]
  | cons c s ih =>
    by_cases hc : c = sep
    · subst hc
      simp only [splitOnce, if_true, Option.some.injEq, Prod.mk.injEq]
      constructor
      · rintro ⟨rfl, rfl⟩; simp
      · rintro ⟨h, ha⟩
        cases a with
        | nil => simpa using h
        | cons d a => simp at h; simp [h.1] at ha
    · simp only [splitOnce, if_neg hc, Option.map_eq_some_iff, Prod.exists, Prod.mk.injEq]
      constructor
      · rintro ⟨a', b', h, rfl, rfl⟩
        obtain ⟨rfl, ha⟩ := ih.mp h
        exact ⟨by simp, by simp [ha, Ne.symm hc]⟩
      · rintro ⟨h, ha⟩
        cases a with
        | nil => simp at h; exact absurd h.1 hc
        | cons d a =>
          simp only [List.cons_append, List.cons.injEq] at h
          simp only [List.mem_cons, not_or] at ha
          exact ⟨a, b, ih.mpr ⟨h.2, ha.2⟩, by rw [h.1], rfl⟩

theorem splitOnce_eq_none_iff {sep : Char} {s : Str} : splitOnce sep s = none ↔ sep ∉ s := by
  induction s with
  | nil => simp [splitOnce]
  | cons c s ih =>
    by_cases hc : c = sep
    · simp [splitOnce, hc]
    · simp [splitOnce, hc, ih, Ne.symm hc]

theorem splitOnce_of_notMem {sep : Char} {a : Str} (ha : sep ∉ a) (b : Str) :
    splitOnce sep (a ++ sep :: b) = some (a, b) :=
  splitOnce_eq_some_iff.mpr ⟨rfl, ha⟩

/-- Text without the separator behind the argument joins the second part. -/
theorem splitOnce_append {sep : Char} {t : Str} (ht : sep ∉ t) (s : Str) :
    splitOnce sep (s ++ t) = (splitOnce sep s).map fun (a, b) => (a, b ++ t) := by
  cases h : splitOnce sep s with
  | none =>
    have hs := splitOnce_eq_none_iff.mp h
    simp [splitOnce_eq_none_iff, hs, ht]
  | some p =>
    obtain ⟨rfl, ha⟩ := splitOnce_eq_some_iff.mp h
    simp only [Option.map_some, splitOnce_eq_some_iff]
    exact ⟨by simp, ha⟩

/-! ## ASCII case -/

/-- The form in which ASCII case is ignored: every ASCII capital folded to its small letter. -/
def asciiKey (s : Str) : Str := s.map Char.toLower

/-- `str::eq_ignore_ascii_case`. -/
def eqIgnoreAsciiCase (a b : Str) : Bool := asciiKey a == asciiKey b

@[simp] theorem eqIgnoreAsciiCase_iff {a b : Str} :
    eqIgnoreAsciiCase a b = true ↔ asciiKey a = asciiKey b := by
  simp [eqIgnoreAsciiCase]

@[simp] theorem eqIgnoreAsciiCase_eq_false_iff {a b : Str} :
    eqIgnoreAsciiCase a b = false ↔ asciiKey a ≠ asciiKey b := by
  simp [eqIgnoreAsciiCase]

theorem length_asciiKey (s : Str) : (asciiKey s).length = s.length := by simp [asciiKey]

theorem toLower_eq_self {c : Char} (h : ¬ (c.val ≥ 'A'.val ∧ c.val ≤ 'Z'.val)) : c.toLower = c :=
  dif_neg h

theorem toLower_toLower (c : Char) : c.toLower.toLower = c.toLower := by
  by_cases h : c.val ≥ 'A'.val ∧ c.val ≤ 'Z'.val
  · have hval : c.toLower.val.toNat = c.val.toNat + 32 := by
      have hupper : c.toLower.val = c.val + 32 := congrArg Char.val (dif_pos h)
      rw [hupper, UInt32.toNat_add, Nat.mod_eq_of_lt]
      · rfl
      · have hle : c.val.toNat ≤ 90 := h.2
        show c.val.toNat + 32 < _
        omega
    have hlow : ¬ (c.toLower.val ≥ 'A'.val ∧ c.toLower.val ≤ 'Z'.val) := by
      rintro ⟨-, hle⟩
      have hle' : c.toLower.val.toNat ≤ 90 := hle
      have hge : 65 ≤ c.val.toNat := h.1
      omega
    exact toLower_eq_self hlow
  · rw [toLower_eq_self h, toLower_eq_self h]

theorem asciiKey_asciiKey (s : Str) : asciiKey (asciiKey s) = asciiKey s := by
  rw [asciiKey, asciiKey, List.map_map]
  exact List.map_congr_left fun c _ => toLower_toLower c

theorem length_eq_of_asciiKey {a b : Str} (h : asciiKey a = asciiKey b) : a.length = b.length := by
  rw [← length_asciiKey a, h, length_asciiKey]

theorem ne_of_length_lt {a b : Str} (h : a.length < b.length) : asciiKey a ≠ asciiKey b :=
  fun e => Nat.ne_of_lt h (length_eq_of_asciiKey e)

/-- Folding the case of a character keeps it white space or not. -/
theorem isWhitespace_toLower (c : Char) : isWhitespace c.toLower = isWhitespace c := by
  unfold Char.toLower
  split
  · rename_i h
    have hc : 65 ≤ c.toNat ∧ c.toNat ≤ 90 := h
    have hval : (c.val + ('a'.val - 'A'.val)).toNat = c.toNat + 32 := by
      rw [UInt32.toNat_add, Nat.mod_eq_of_lt]
      · rfl
      · show c.toNat + 32 < _
        omega
    have hl : isWhitespace c = false := by
      simp only [isWhitespace, Bool.or_eq_false_iff, Bool.and_eq_false_iff,
        decide_eq_false_iff_not, beq_eq_false_iff_ne, ne_eq]
      omega
    rw [hl]
    simp only [isWhitespace, Char.toNat, hval, Bool.or_eq_false_iff, Bool.and_eq_false_iff,
      decide_eq_false_iff_not, beq_eq_false_iff_ne, ne_eq]
    simp only [Char.toNat] at hc
    omega
  · rfl

theorem asciiKey_trim (s : Str) : asciiKey (trim s) = trim (asciiKey s) := by
  have hws : isWhitespace ∘ Char.toLower = isWhitespace := funext isWhitespace_toLower
  unfold asciiKey trim trimEnd trimStart List.rdropWhile
  rw [List.dropWhile_map, hws, ← List.map_reverse, List.dropWhile_map, hws, List.map_reverse]

/-- A text that differs from a trimmed one in case only is trimmed. -/
theorem trim_eq_self_of_asciiKey {s t : Str} (ht : trim t = t) (h : asciiKey t = asciiKey s) :
    trim s = s := by
  have hkey : asciiKey (trim s) = asciiKey s := by rw [asciiKey_trim, ← h, ← asciiKey_trim, ht]
  have hsub : (trim s).Sublist s :=
    (List.IsPrefix.sublist (trimEnd_isPrefixOf _)).trans (List.dropWhile_sublist _)
  exact hsub.eq_of_length (length_eq_of_asciiKey hkey)

/-! ## Lines -/

/-- `str::split_inclusive('\n')`: the lines of a text, each with its line feed; an empty text has
no line, and the last line may lack the line feed. -/
@[grind =] def splitInclusive : Str → List Str
  | [] => []
  | c :: s =>
    if c = '\n' then ['\n'] :: splitInclusive s
    else
      match splitInclusive s with
      | [] => [[c]]
      | l :: ls => (c :: l) :: ls

/-- A line that ends in its only line feed. -/
def Terminated (l : Str) : Prop := ∃ body, '\n' ∉ body ∧ l = body ++ ['\n']

/-- The lists of lines that are the `splitInclusive` of a text. -/
inductive IsSplit : List Str → Prop
  | nil : IsSplit []
  | last {l : Str} : l ≠ [] → '\n' ∉ l → IsSplit [l]
  | cons {l : Str} {ls : List Str} : Terminated l → IsSplit ls → IsSplit (l :: ls)

theorem Terminated.newline_mem {l : Str} (h : Terminated l) : '\n' ∈ l := by
  obtain ⟨b, -, rfl⟩ := h
  simp

theorem Terminated.ne_nil {l : Str} (h : Terminated l) : l ≠ [] := by
  obtain ⟨b, -, rfl⟩ := h
  simp

theorem Terminated.cons {c : Char} {l : Str} (hc : c ≠ '\n') (h : Terminated l) :
    Terminated (c :: l) := by
  obtain ⟨b, hb, rfl⟩ := h
  exact ⟨c :: b, by simp [hb, Ne.symm hc], rfl⟩

/-- A terminated line and one without a line feed are the two cases of a line. -/
theorem terminated_iff_getLast? {l : Str} (h : '\n' ∉ l ∨ Terminated l) :
    Terminated l ↔ l.getLast? = some '\n' := by
  rcases h with h | h
  · constructor
    · exact fun ht => absurd ht.newline_mem h
    · intro hl
      exact absurd (List.mem_of_mem_getLast? (by rw [hl]; rfl)) h
  · obtain ⟨b, hb, rfl⟩ := h
    simp only [List.getLast?_append, List.getLast?_singleton, Option.some_or, iff_true]
    exact ⟨b, hb, rfl⟩

theorem isSplit_splitInclusive (s : Str) : IsSplit (splitInclusive s) := by
  induction s with
  | nil => exact .nil
  | cons c s ih =>
    by_cases hc : c = '\n'
    · rw [splitInclusive, if_pos hc]
      exact .cons ⟨[], by simp, rfl⟩ ih
    · rw [splitInclusive, if_neg hc]
      split
      · exact .last (by simp) (by simpa using Ne.symm hc)
      · rename_i l ls heq
        rw [heq] at ih
        cases ih with
        | last hl hn => exact .last (by simp) (by simp [hn, Ne.symm hc])
        | cons ht hls => exact .cons (ht.cons hc) hls

@[simp] theorem flatten_splitInclusive (s : Str) : (splitInclusive s).flatten = s := by
  induction s with
  | nil => rfl
  | cons c s ih =>
    rw [splitInclusive]
    split
    · rename_i hc
      simp [ih, hc]
    · split
      · rename_i heq
        rw [heq] at ih
        simp at ih
        simp [← ih]
      · rename_i l ls heq
        rw [heq] at ih
        simp at ih
        simp [ih]

theorem splitInclusive_of_notMem {l : Str} (hl : l ≠ []) (hn : '\n' ∉ l) :
    splitInclusive l = [l] := by
  induction l with
  | nil => exact absurd rfl hl
  | cons c l ih =>
    simp only [List.mem_cons, not_or] at hn
    rw [splitInclusive, if_neg (Ne.symm hn.1)]
    by_cases hl' : l = []
    · subst hl'; rfl
    · rw [ih hl' hn.2]

theorem splitInclusive_terminated {l : Str} (h : Terminated l) (s : Str) :
    splitInclusive (l ++ s) = l :: splitInclusive s := by
  obtain ⟨b, hb, rfl⟩ := h
  induction b with
  | nil => simp [splitInclusive]
  | cons c b ih =>
    simp only [List.mem_cons, not_or] at hb
    have := ih hb.2
    simp only [List.cons_append]
    rw [splitInclusive, if_neg (Ne.symm hb.1), this]

/-- A list of lines is the `splitInclusive` of its text. -/
theorem splitInclusive_flatten {ls : List Str} (h : IsSplit ls) :
    splitInclusive ls.flatten = ls := by
  induction h with
  | nil => rfl
  | last hl hn => simpa using splitInclusive_of_notMem hl hn
  | cons ht _ ih => rw [List.flatten_cons, splitInclusive_terminated ht, ih]

theorem IsSplit.append_iff {a b : List Str} :
    IsSplit (a ++ b) ↔ (b = [] ∧ IsSplit a) ∨ ((∀ l ∈ a, Terminated l) ∧ IsSplit b) := by
  induction a with
  | nil =>
    simp only [List.nil_append, List.not_mem_nil, false_imp_iff, implies_true, true_and]
    exact ⟨.inr, fun h => h.elim (fun ⟨hb, ha⟩ => hb ▸ ha) id⟩
  | cons l a ih =>
    constructor
    · intro h
      rw [List.cons_append] at h
      generalize hr : a ++ b = r at h
      cases h with
      | last hl hn =>
        obtain ⟨rfl, rfl⟩ := List.append_eq_nil_iff.mp hr
        exact .inl ⟨rfl, .last hl hn⟩
      | cons ht hr' =>
        subst hr
        rcases ih.mp hr' with ⟨hb, ha⟩ | ⟨ha, hb⟩
        · exact .inl ⟨hb, .cons ht ha⟩
        · exact .inr ⟨by simpa using ⟨ht, ha⟩, hb⟩
    · rintro (⟨rfl, h⟩ | ⟨ha, hb⟩)
      · simpa using h
      · simp only [List.mem_cons, forall_eq_or_imp] at ha
        exact .cons ha.1 (ih.mpr (.inr ⟨ha.2, hb⟩))

theorem IsSplit.of_terminated {ls : List Str} (h : ∀ l ∈ ls, Terminated l) : IsSplit ls := by
  rw [← List.append_nil ls]
  exact append_iff.mpr (.inr ⟨h, .nil⟩)

/-- A line of a text is terminated, or it is the last one and has no line feed. -/
theorem IsSplit.mem {ls : List Str} (h : IsSplit ls) {l : Str} (hl : l ∈ ls) :
    l ≠ [] ∧ ('\n' ∉ l ∨ Terminated l) := by
  induction h with
  | nil => simp at hl
  | last h0 hn => simp at hl; subst hl; exact ⟨h0, .inl hn⟩
  | cons ht _ ih =>
    rcases List.mem_cons.mp hl with rfl | hl
    · exact ⟨ht.ne_nil, .inr ht⟩
    · exact ih hl

theorem splitInclusive_eq_nil_iff {s : Str} : splitInclusive s = [] ↔ s = [] := by
  constructor
  · intro h
    have := flatten_splitInclusive s
    rw [h] at this
    exact this.symm
  · rintro rfl; rfl

/-- Every line of a text is terminated if and only if the text is empty or ends in a line feed. -/
theorem IsSplit.all_terminated_iff {ls : List Str} (h : IsSplit ls) :
    (∀ l ∈ ls, Terminated l) ↔ ls.flatten = [] ∨ ls.flatten.getLast? = some '\n' := by
  induction h with
  | nil => simp
  | @last l hl hn =>
    have hg := terminated_iff_getLast? (.inl hn)
    simp [hl, hg]
  | @cons l ls ht hls ih =>
    simp only [List.mem_cons, forall_eq_or_imp, ht, true_and, ih, List.flatten_cons,
      List.append_eq_nil_iff, ht.ne_nil, false_and, false_or, List.getLast?_append]
    have hl : l.getLast? = some '\n' := (terminated_iff_getLast? (.inr ht)).mp ht
    rcases hc : ls.flatten.getLast? with _ | c
    · simp [hl, List.getLast?_eq_none_iff.mp hc]
    · have : ls.flatten ≠ [] := fun h0 => by simp [h0] at hc
      simp [this]

/-- Text behind a text that is empty or ends in a line feed starts a line of its own. -/
theorem splitInclusive_append {a : Str} (ha : a = [] ∨ a.getLast? = some '\n') (b : Str) :
    splitInclusive (a ++ b) = splitInclusive a ++ splitInclusive b := by
  have hall : ∀ l ∈ splitInclusive a, Terminated l :=
    (isSplit_splitInclusive a).all_terminated_iff.mpr (by simpa using ha)
  have hs : IsSplit (splitInclusive a ++ splitInclusive b) :=
    IsSplit.append_iff.mpr (.inr ⟨hall, isSplit_splitInclusive b⟩)
  simpa using splitInclusive_flatten hs

/-- The lines of a text that does not end in a line feed. -/
theorem exists_unterminated {a : Str} (ha : ¬ (a = [] ∨ a.getLast? = some '\n')) :
    ∃ before lastLine, splitInclusive a = before ++ [lastLine] ∧ (∀ l ∈ before, Terminated l) ∧
      lastLine ≠ [] ∧ '\n' ∉ lastLine := by
  have hs := isSplit_splitInclusive a
  have hne : splitInclusive a ≠ [] := fun h => ha (.inl (splitInclusive_eq_nil_iff.mp h))
  refine ⟨(splitInclusive a).dropLast, (splitInclusive a).getLast hne,
    (List.dropLast_append_getLast hne).symm, ?_⟩
  rw [← List.dropLast_append_getLast hne] at hs
  rcases IsSplit.append_iff.mp hs with ⟨h, -⟩ | ⟨hb, hl⟩
  · simp at h
  · refine ⟨hb, (hl.mem (by simp)).1, fun hn => ?_⟩
    have ht : Terminated ((splitInclusive a).getLast hne) :=
      (hl.mem (by simp)).2.resolve_left (fun h => h hn)
    have hall : ∀ l ∈ splitInclusive a, Terminated l := by
      rw [← List.dropLast_append_getLast hne]
      intro l hl'
      rcases List.mem_append.mp hl' with h | h
      · exact hb l h
      · rw [List.mem_singleton.mp h]; exact ht
    exact ha (by simpa using (isSplit_splitInclusive a).all_terminated_iff.mp hall)

theorem Terminated.prepend {a t : Str} (ha : '\n' ∉ a) (ht : Terminated t) :
    Terminated (a ++ t) := by
  obtain ⟨b, hb, rfl⟩ := ht
  exact ⟨a ++ b, by simp [ha, hb], by simp⟩

/-- A terminated line behind a text that does not end in a line feed joins its last line. -/
theorem splitInclusive_append_glued {before : List Str} {lastLine t : Str}
    (hb : ∀ l ∈ before, Terminated l) (hn : '\n' ∉ lastLine) (ht : Terminated t) :
    splitInclusive ((before ++ [lastLine]).flatten ++ t) = before ++ [lastLine ++ t] := by
  have hs : IsSplit (before ++ [lastLine ++ t]) :=
    IsSplit.append_iff.mpr (.inr ⟨hb, .cons (.prepend hn ht) .nil⟩)
  rw [← splitInclusive_flatten hs]
  simp

/-- What `str::lines` leaves of a line: `\n` and then `\r` stripped from its end. -/
def stripLineEnding (l : Str) : Str :=
  if l.getLast? = some '\n' then
    let l' := l.dropLast
    if l'.getLast? = some '\r' then l'.dropLast else l'
  else l

/-- `str::lines`. -/
def lines (s : Str) : List Str := (splitInclusive s).map stripLineEnding

theorem eq_dropLast_append {l : Str} {c : Char} (h : l.getLast? = some c) :
    l = l.dropLast ++ [c] := by
  have hne : l ≠ [] := fun h0 => by simp [h0] at h
  rw [List.getLast?_eq_some_getLast hne, Option.some.injEq] at h
  conv_lhs => rw [← List.dropLast_append_getLast hne, h]

/-- A line is what `lines` leaves of it and a blank ending. -/
theorem exists_stripLineEnding (l : Str) : ∃ w, Blank w ∧ l = stripLineEnding l ++ w := by
  unfold stripLineEnding
  split
  · rename_i h
    have hl := eq_dropLast_append h
    dsimp only
    split
    · rename_i h'
      refine ⟨['\r', '\n'], by decide, ?_⟩
      conv_lhs => rw [hl, eq_dropLast_append h']
      simp
    · exact ⟨['\n'], by decide, hl⟩
  · exact ⟨[], by simp [Blank], by simp⟩

end Str
end Rust
