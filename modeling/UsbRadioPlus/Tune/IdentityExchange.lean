import UsbRadioPlus.Rust.Names
import UsbRadioPlus.Tune.HardwareIdentity

/-!
# What an exchange of two USB devices exchanges

The writes of an exchange change two sections, in three options. They touch no header of a channel and
no selector, so every channel resolves to the section from before (`resolvedSection_kept`), and a value
that a channel resolves is that of its section over the flat one (`get?_resolvedValues`).

Where every write stands on a line of its own (`StandAlone`), the exchange does what it is for
(`Exchanged`) if and only if no later assignment of an option shadows the written one, or the two values
are the same (`Unshadowed`): `set_value` writes the first assignment and the readers take the last one.
-/

namespace UsbRadioPlus
namespace Tune

open UsbRadioPlus.Core UsbRadioPlus.Core.ConfigDocument UsbRadioPlus.Station Rust Rust.Str Sys

variable {document document' : ConfigDocument} {channel source sectionName : Str}
  {warnings : List Station.ResolutionWarning}

/-! ## The section of a channel -/

/-- A channel that is configured, in some spelling. -/
def Configured (document : ConfigDocument) (channel : Str) : Prop :=
  ∃ candidate ∈ document.configuredChannels, asciiKey candidate = asciiKey channel

/-- The sections that hold hardware: the flat one and the scoped ones. -/
def IsHardware (sectionName : Str) : Prop :=
  sectionName = HARDWARE ∨ ∃ selected, sectionName = HARDWARE ++ ' ' :: selected

theorem hasSection_iff {requested : Str} :
    document.hasSection requested = true ↔ document.HasHeader requested := by
  have hheaders : document.lines.filterMap sectionHeader = document.headers := by
    rw [ConfigDocument.lines, Str.lines, List.filterMap_map, ConfigDocument.headers]
    congr 1
    funext l
    exact sectionHeader_stripLineEnding l
  rw [ConfigDocument.hasSection, hheaders, List.any_eq_true]
  simp [HasHeader]

/-- Headers of shared sections behind the others add no channel. -/
theorem configuredChannels_kept {added : List Str}
    (hheaders : document'.headers = document.headers ++ added)
    (hflat : ∀ s ∈ added, FLAT_SECTIONS.any (eqIgnoreAsciiCase s) = true) :
    document'.configuredChannels = document.configuredChannels := by
  have hsections : document'.sectionNames = added.foldl nameStep document.sectionNames := by
    rw [sectionNames_eq, sectionNames_eq, show (splitInclusive document'.text).filterMap
      sectionHeader = _ from hheaders, List.foldl_append]
    rfl
  rw [configuredChannels, configuredChannels, hsections]
  generalize document.sectionNames = names
  clear hheaders hsections
  induction added generalizing names with
  | nil => rfl
  | cons s added ih =>
    obtain ⟨hs, hadded⟩ := List.forall_mem_cons.mp hflat
    rw [List.foldl_cons, ih hadded, nameStep]
    split
    · rfl
    · rw [List.filter_append, List.filter_cons_of_neg (by simp [hs]), List.filter_nil, List.append_nil]

/-- A section of hardware is no channel. -/
theorem IsHardware.ne_channel (h : IsHardware sectionName) (hc : Configured document channel) :
    asciiKey channel ≠ asciiKey sectionName := by
  obtain ⟨candidate, hmem, he⟩ := hc
  have hfilter := (List.mem_filter.mp hmem).2
  rw [Bool.and_eq_true, Bool.not_eq_true', Bool.not_eq_true'] at hfilter
  obtain ⟨hspace, hflat⟩ := hfilter
  rw [← he]
  rcases h with rfl | ⟨selected, rfl⟩
  · intro hk
    have := List.any_eq_false.mp hflat HARDWARE (by decide)
    exact this (eqIgnoreAsciiCase_iff.mpr hk)
  · intro hk
    have hmem : ' ' ∈ asciiKey candidate := by
      rw [hk, asciiKey, List.mem_map]
      exact ⟨' ', by simp, by decide⟩
    obtain ⟨c, hcmem, hc⟩ := List.mem_map.mp hmem
    have := List.any_eq_false.mp hspace c hcmem
    rw [← isWhitespace_toLower, hc] at this
    exact this (by decide)

/-- The profile that a channel selects. -/
def selectedProfile (document : ConfigDocument) (channel : Str) : Str :=
  (document.selections channel HARDWARE).head?.getD channel

/-- `resolved_section` of the hardware, branch after branch. -/
theorem resolvedSection_eq (document : ConfigDocument) (channel source : Str) :
    resolvedSection document channel HARDWARE source =
      match validateSectionName channel with
      | .error e => .error e
      | .ok () =>
        if !document.configuredChannels.any fun candidate => eqIgnoreAsciiCase candidate channel then
          .error (.missingChannel channel)
        else if document.hasSection (HARDWARE ++ ' ' :: selectedProfile document channel) then
          .ok (HARDWARE ++ ' ' :: selectedProfile document channel, [])
        else if eqIgnoreAsciiCase (selectedProfile document channel) channel then .ok (HARDWARE, [])
        else
          let fallback :=
            if document.hasSection (HARDWARE ++ ' ' :: channel) then HARDWARE ++ ' ' :: channel
            else HARDWARE
          .ok (fallback, [missingWarning document channel HARDWARE source fallback]) := by
  have hgeneral : eqIgnoreAsciiCase HARDWARE "general".toList = false := by decide
  have hkind : validateSectionName HARDWARE = .ok () := by decide
  have hselected : (document.selections channel HARDWARE).head?.getD channel =
    selectedProfile document channel := rfl
  unfold resolvedSection selectedSection
  simp only [hkind, hgeneral, hselected, bind, Except.bind]
  cases hname : validateSectionName channel with
  | error e =>
    unfold validateSectionName at hname
    split at hname
    · cases hname; rfl
    · cases hname
  | ok u =>
    cases document.configuredChannels.any fun candidate => eqIgnoreAsciiCase candidate channel with
    | false => rfl
    | true =>
      cases document.hasSection (HARDWARE ++ ' ' :: selectedProfile document channel) with
      | true => rfl
      | false => cases eqIgnoreAsciiCase (selectedProfile document channel) channel <;> rfl

/-- **What a resolved section is**. -/
theorem isHardware_of_resolvedSection
    (h : resolvedSection document channel HARDWARE source = .ok (sectionName, warnings)) :
    Configured document channel ∧ IsHardware sectionName ∧
      (sectionName ≠ HARDWARE → document.HasHeader sectionName) := by
  rw [resolvedSection_eq] at h
  split at h
  · cases h
  · split at h
    · cases h
    · rename_i hany
      have hconfigured : Configured document channel := by
        simpa [Configured] using hany
      refine ⟨hconfigured, ?_⟩
      split at h
      · rename_i hhas
        obtain rfl := (Prod.mk.inj (Except.ok.inj h)).1
        exact ⟨.inr ⟨_, rfl⟩, fun _ => hasSection_iff.mp hhas⟩
      · split at h
        · obtain rfl := (Prod.mk.inj (Except.ok.inj h)).1
          exact ⟨.inl rfl, fun hne => absurd rfl hne⟩
        · obtain rfl := (Prod.mk.inj (Except.ok.inj h)).1
          split
          · rename_i hhas
            exact ⟨.inr ⟨_, rfl⟩, fun _ => hasSection_iff.mp hhas⟩
          · exact ⟨.inl rfl, fun hne => absurd rfl hne⟩

/-- **What keeps the sections of all channels**. -/
theorem resolvedSection_kept
    (hchannels : document'.configuredChannels = document.configuredChannels)
    (hhas : ∀ selected, document'.hasSection (HARDWARE ++ ' ' :: selected) =
      document.hasSection (HARDWARE ++ ' ' :: selected))
    (hvalues : ∀ channel, Configured document channel →
      document'.explicitValues channel = document.explicitValues channel) (channel source : Str) :
    resolvedSection document' channel HARDWARE source =
      resolvedSection document channel HARDWARE source := by
  rw [resolvedSection_eq, resolvedSection_eq, hchannels]
  split
  · rfl
  · split
    · rfl
    · rename_i hany
      have hselections :
          document'.selections channel HARDWARE = document.selections channel HARDWARE := by
        rw [ConfigDocument.selections, hvalues channel (by simpa [Configured] using hany)]
        rfl
      have hprofile : selectedProfile document' channel = selectedProfile document channel := by
        rw [selectedProfile, hselections, selectedProfile]
      simp only [hprofile, hhas, missingWarning, hselections]

/-! ## The values of a channel -/

/-- What a channel with this section reads: the value of the section, or the flat one. -/
def inherited (document : ConfigDocument) (sectionName key : Str) : Option Str :=
  ((document.explicitValues sectionName).get? key).or ((document.explicitValues HARDWARE).get? key)

theorem get?_resolvedValues
    (h : resolvedSection document channel HARDWARE source = .ok (sectionName, warnings)) :
    ∃ values, resolvedValues document channel HARDWARE source = .ok (values, warnings) ∧
      ∀ key, values.get? key = inherited document sectionName key := by
  obtain ⟨hconfigured, hhardware, -⟩ := isHardware_of_resolvedSection h
  have hne : eqIgnoreAsciiCase sectionName channel = false :=
    eqIgnoreAsciiCase_eq_false_iff.mpr (hhardware.ne_channel hconfigured).symm
  unfold resolvedValues
  simp only [h, bind, Except.bind, hne, Bool.false_eq_true, if_false]
  cases hflat : eqIgnoreAsciiCase sectionName HARDWARE with
  | true =>
    refine ⟨_, rfl, fun key => ?_⟩
    rw [inherited, explicitValues_congr document (eqIgnoreAsciiCase_iff.mp hflat), Option.or_self]
  | false => exact ⟨_, rfl, fun key => BTreeMap.get?_extend _ _ key⟩

/-- The value of an option that `resolved_values` gives, where it succeeds. -/
def resolvedValue (document : ConfigDocument) (source channel key : Str) : Option (Option Str) :=
  (resolvedValues document channel HARDWARE source).toOption.map fun resolved => resolved.1.get? key

/-- The same for an option of the identity: an absent one counts as its default. -/
def identityValue (document : ConfigDocument) (source channel : Str) (entry : Str × Str) :
    Option Str :=
  (resolvedValue document source channel entry.1).map fun value => value.getD entry.2

theorem resolvedValue_eq
    (h : resolvedSection document channel HARDWARE source = .ok (sectionName, warnings)) (key : Str) :
    resolvedValue document source channel key = some (inherited document sectionName key) := by
  obtain ⟨values, hvalues, hget⟩ := get?_resolvedValues h
  rw [resolvedValue, hvalues]
  exact congrArg some (hget key)

theorem resolvedValue_error {e : ConfigError}
    (h : resolvedSection document channel HARDWARE source = .error e) (key : Str) :
    resolvedValue document source channel key = none := by
  simp only [resolvedValue, resolvedValues, h]
  rfl

/-! ## The channels that share a section -/

theorem usesTarget_eq_false_iff {target resolved : Str} :
    usesTarget document target resolved = false ↔
      asciiKey resolved ≠ asciiKey target ∧ (asciiKey target = asciiKey HARDWARE →
        ∀ entry ∈ HARDWARE_IDENTITY_DEFAULTS,
          ((document.explicitValues resolved).get? entry.1).isSome) := by
  rw [usesTarget, Bool.or_eq_false_iff, Bool.and_eq_false_imp, eqIgnoreAsciiCase_eq_false_iff,
    eqIgnoreAsciiCase_iff, List.any_eq_false]
  simp only [Bool.not_eq_true, Option.isNone_eq_false_iff]

theorem sharedWith_eq_false_iff {first second target : Str} {channels : List Str} :
    (sharedWith document first second source target channels).1 = false ↔
      ∀ channel ∈ channels, eqIgnoreAsciiCase channel first = false →
        eqIgnoreAsciiCase channel second = false → ∀ resolved warnings,
          resolvedSection document channel HARDWARE source = .ok (resolved, warnings) →
            usesTarget document target resolved = false := by
  induction channels with
  | nil => simp [sharedWith]
  | cons channel channels ih =>
    rw [sharedWith, List.forall_mem_cons, ← ih]
    cases hfirst : eqIgnoreAsciiCase channel first with
    | true => simp
    | false =>
      cases hsecond : eqIgnoreAsciiCase channel second with
      | true => simp
      | false =>
        cases hsection : resolvedSection document channel HARDWARE source with
        | error e => simp
        | ok r =>
          obtain ⟨resolved, more⟩ := r
          cases huses : usesTarget document target resolved with
          | true => simp [huses]
          | false => simp [huses]

/-! ## The law -/

/-- What an exchange is for. -/
structure Exchanged (source first second : Str) (document document' : ConfigDocument) : Prop where
  exchanged : ∀ entry ∈ HARDWARE_IDENTITY_DEFAULTS,
    identityValue document' source first entry = identityValue document source second entry ∧
      identityValue document' source second entry = identityValue document source first entry
  /-- The identity of every other channel. -/
  others : ∀ channel ∈ document.configuredChannels, eqIgnoreAsciiCase channel first = false →
    eqIgnoreAsciiCase channel second = false → ∀ entry ∈ HARDWARE_IDENTITY_DEFAULTS,
      identityValue document' source channel entry = identityValue document source channel entry
  /-- Every other value of every channel. -/
  values : ∀ channel key,
    (∀ entry ∈ HARDWARE_IDENTITY_DEFAULTS, eqIgnoreAsciiCase key entry.1 = false) →
      resolvedValue document' source channel key = resolvedValue document source channel key
  /-- A second exchange restores the values from before the first. -/
  again : ∀ warnings, ∃ document'' warnings',
    swapHardwareIdentity first second source ⟨document', warnings⟩ =
      some (.ok (), ⟨document'', warnings'⟩) ∧
    ∀ channel ∈ [first, second], ∀ entry ∈ HARDWARE_IDENTITY_DEFAULTS,
      identityValue document'' source channel entry = identityValue document source channel entry

/-- The section that the hardware of a channel resolves to. -/
def hardwareSection (document : ConfigDocument) (source channel : Str) : Str :=
  match resolvedSection document channel HARDWARE source with
  | .ok (sectionName, _) => sectionName
  | .error _ => []

/-- Every write stands on a line of its own: where an option is missing from a section that ends in an
open line with text, the other section is appended before it. -/
def StandAlone (document : ConfigDocument) (firstTarget secondTarget : Str) : Prop :=
  ((∀ entry ∈ HARDWARE_IDENTITY_DEFAULTS, document.Lands firstTarget entry.1) ∨
    ¬ document.HasHeader secondTarget ∧
      ∀ entry ∈ HARDWARE_IDENTITY_DEFAULTS.head?, document.Lands firstTarget entry.1) ∧
  ((∀ entry ∈ HARDWARE_IDENTITY_DEFAULTS, document.Lands secondTarget entry.1) ∨
    ¬ document.HasHeader firstTarget)

/-- No written value is shadowed by another one. -/
def Unshadowed (source first second : Str) (document : ConfigDocument)
    (firstTarget secondTarget : Str) : Prop :=
  ∀ entry ∈ HARDWARE_IDENTITY_DEFAULTS,
    identityValue document source first entry = identityValue document source second entry ∨
      ¬ document.Shadowed firstTarget entry.1 ∧ ¬ document.Shadowed secondTarget entry.1

/-! ## The writes of an exchange -/

section Writes

variable {firstTarget secondTarget : Str} {firstValues secondValues : BTreeMap Str Str}

theorem mem_identityWrites {w : Write} :
    w ∈ identityWrites firstTarget secondTarget firstValues secondValues ↔
      ∃ entry ∈ HARDWARE_IDENTITY_DEFAULTS,
        w = ⟨firstTarget, entry.1, (secondValues.get? entry.1).getD entry.2⟩ ∨
          w = ⟨secondTarget, entry.1, (firstValues.get? entry.1).getD entry.2⟩ := by
  simp [identityWrites]

theorem distinct_identityWrites (hne : asciiKey firstTarget ≠ asciiKey secondTarget) :
    Distinct (identityWrites firstTarget secondTarget firstValues secondValues) := by
  have hkeys : HARDWARE_IDENTITY_DEFAULTS.Pairwise fun entry entry' =>
      asciiKey entry'.1 ≠ asciiKey entry.1 := by decide
  refine List.pairwise_flatMap.mpr ⟨fun entry _ => ?_, hkeys.imp fun {entry entry'} hkey => ?_⟩
  · simp only [List.pairwise_cons, List.mem_singleton, forall_eq, List.not_mem_nil, false_imp_iff,
      implies_true, List.Pairwise.nil, and_true]
    exact fun h => hne h.1.symm
  · simp only [List.mem_cons, List.not_mem_nil, or_false, forall_eq_or_imp, forall_eq, SamePair]
    exact ⟨⟨fun h => hkey h.2, fun h => hkey h.2⟩, fun h => hkey h.2, fun h => hkey h.2⟩

/-- An option of another section, or another option, is not written. -/
theorem not_samePair_identityWrites {r k : Str}
    (h : (asciiKey r ≠ asciiKey firstTarget ∧ asciiKey r ≠ asciiKey secondTarget) ∨
      ∀ entry ∈ HARDWARE_IDENTITY_DEFAULTS, eqIgnoreAsciiCase k entry.1 = false) :
    ∀ w ∈ identityWrites firstTarget secondTarget firstValues secondValues,
      ¬ SamePair w.sectionName w.name r k := by
  intro w hw hpair
  obtain ⟨entry, hentry, rfl | rfl⟩ := mem_identityWrites.mp hw
  · rcases h with h | h
    · exact h.1 hpair.1
    · exact eqIgnoreAsciiCase_eq_false_iff.mp (h entry hentry) hpair.2
  · rcases h with h | h
    · exact h.2 hpair.1
    · exact eqIgnoreAsciiCase_eq_false_iff.mp (h entry hentry) hpair.2

/-- What a channel with the section of a write inherits behind it. -/
theorem inherited_written {ws : List Write} (h : WrittenAll ws document document') {w : Write}
    (hw : w ∈ ws) :
    (document.Shadowed w.sectionName w.name →
      inherited document' w.sectionName w.name = inherited document w.sectionName w.name) ∧
    (¬ document.Shadowed w.sectionName w.name →
      inherited document' w.sectionName w.name = some (valueText w.value)) := by
  obtain ⟨hshadowed, hfree⟩ := h.get?_written hw
  constructor
  · intro hs
    obtain ⟨hsome, heq⟩ := hshadowed hs
    obtain ⟨v, hv⟩ := Option.isSome_iff_exists.mp hsome
    rw [inherited, inherited, heq, hv, Option.some_or, Option.some_or]
  · intro hs
    rw [inherited, hfree hs, Option.some_or]

theorem valueText_inherited {key v : Str} (h : inherited document sectionName key = some v) :
    valueText v = v := by
  rcases Option.or_eq_some_iff.mp h with h | ⟨-, h⟩
  · exact valueText_of_get? h
  · exact valueText_of_get? h

end Writes

/-! ## One exchange -/

section Exchange

variable {first second firstTarget secondTarget : Str} {firstValues secondValues : BTreeMap Str Str}

section Sections

variable
  (hplan : Planned source first second document firstTarget secondTarget firstValues secondValues)
  (h : WrittenAll (identityWrites firstTarget secondTarget firstValues secondValues) document
    document')
include hplan h

/-- Only the flat section may have been missing. -/
theorem Planned.headers_kept : ∃ added, document'.headers = document.headers ++ added ∧
    ∀ s ∈ added, s = HARDWARE := by
  obtain ⟨_, hfirst⟩ := hplan.firstSection
  obtain ⟨_, hsecond⟩ := hplan.secondSection
  obtain ⟨added, hadded, hnames⟩ := h.headers
  refine ⟨added, hadded, fun s hs => ?_⟩
  obtain ⟨hno, w, hw, rfl⟩ := hnames s hs
  by_contra hne
  obtain ⟨entry, -, rfl | rfl⟩ := mem_identityWrites.mp hw
  · exact hno ((isHardware_of_resolvedSection hfirst).2.2 hne)
  · exact hno ((isHardware_of_resolvedSection hsecond).2.2 hne)

theorem Planned.configuredChannels_kept :
    document'.configuredChannels = document.configuredChannels := by
  obtain ⟨added, hadded, hflat⟩ := hplan.headers_kept h
  exact Tune.configuredChannels_kept hadded fun s hs => by rw [hflat s hs]; decide

/-- The writes leave every channel its section. -/
theorem Planned.resolvedSection_kept (channel source : Str) :
    resolvedSection document' channel HARDWARE source =
      resolvedSection document channel HARDWARE source := by
  obtain ⟨_, hfirst⟩ := hplan.firstSection
  obtain ⟨_, hsecond⟩ := hplan.secondSection
  obtain ⟨added, hadded, hflat⟩ := hplan.headers_kept h
  refine Tune.resolvedSection_kept (hplan.configuredChannels_kept h) (fun selected => ?_)
    (fun channel hc => ?_) channel source
  · rw [Bool.eq_iff_iff, hasSection_iff, hasSection_iff, HasHeader, HasHeader, hadded]
    constructor
    · rintro ⟨found, hf, he⟩
      rcases List.mem_append.mp hf with hf | hf
      · exact ⟨found, hf, he⟩
      · rw [hflat found hf] at he
        exact absurd he (ne_of_length_lt (by simp))
    · rintro ⟨found, hf, he⟩
      exact ⟨found, List.mem_append_left _ hf, he⟩
  · have hF := (isHardware_of_resolvedSection hfirst).2.1
    have hS := (isHardware_of_resolvedSection hsecond).2.1
    exact BTreeMap.ext_get? fun k => h.get?_other
      (not_samePair_identityWrites (.inl ⟨hF.ne_channel hc, hS.ne_channel hc⟩))

end Sections

theorem identityValue_eq
    (h : resolvedSection document channel HARDWARE source = .ok (sectionName, warnings))
    (entry : Str × Str) : identityValue document source channel entry =
      some ((inherited document sectionName entry.1).getD entry.2) := by
  rw [identityValue, resolvedValue_eq h]
  rfl

/-- Behind a write of the value that the other section inherits. -/
theorem inherited_getD_written {entry : Str × Str} (hentry : entry ∈ HARDWARE_IDENTITY_DEFAULTS)
    {ws : List Write} (h : WrittenAll ws document document') {target other : Str}
    (hw : (⟨target, entry.1, (inherited document other entry.1).getD entry.2⟩ : Write) ∈ ws)
    (hfree : ¬ document.Shadowed target entry.1) :
    (inherited document' target entry.1).getD entry.2 =
      (inherited document other entry.1).getD entry.2 := by
  have hdefault : ∀ entry ∈ HARDWARE_IDENTITY_DEFAULTS, valueText entry.2 = entry.2 := by decide
  have hvalue := (inherited_written h hw).2 hfree
  simp only at hvalue
  rw [hvalue, Option.getD_some]
  cases hother : inherited document other entry.1 with
  | none => exact hdefault entry hentry
  | some v => exact valueText_inherited hother

section Planned

variable
  (hplan : Planned source first second document firstTarget secondTarget firstValues secondValues)
include hplan

theorem Planned.get?_values (key : Str) : firstValues.get? key = inherited document firstTarget key ∧
    secondValues.get? key = inherited document secondTarget key := by
  obtain ⟨_, hfirst⟩ := hplan.firstSection
  obtain ⟨_, hsecond⟩ := hplan.secondSection
  obtain ⟨_, hvalues, hget⟩ := get?_resolvedValues hfirst
  obtain ⟨_, hvalues', hget'⟩ := get?_resolvedValues hsecond
  obtain ⟨_, hfv⟩ := hplan.first
  obtain ⟨_, hsv⟩ := hplan.second
  rw [hvalues] at hfv
  rw [hvalues'] at hsv
  rw [← (Prod.mk.inj (Except.ok.inj hfv)).1, ← (Prod.mk.inj (Except.ok.inj hsv)).1]
  exact ⟨hget key, hget' key⟩

/-- The two writes of an option. -/
theorem Planned.mem_writes {entry : Str × Str} (hentry : entry ∈ HARDWARE_IDENTITY_DEFAULTS) :
    (⟨firstTarget, entry.1, (inherited document secondTarget entry.1).getD entry.2⟩ : Write) ∈
        identityWrites firstTarget secondTarget firstValues secondValues ∧
      (⟨secondTarget, entry.1, (inherited document firstTarget entry.1).getD entry.2⟩ : Write) ∈
        identityWrites firstTarget secondTarget firstValues secondValues := by
  obtain ⟨hfv, hsv⟩ := hplan.get?_values entry.1
  rw [← hfv, ← hsv]
  exact ⟨mem_identityWrites.mpr ⟨entry, hentry, .inl rfl⟩,
    mem_identityWrites.mpr ⟨entry, hentry, .inr rfl⟩⟩

variable (h : WrittenAll (identityWrites firstTarget secondTarget firstValues secondValues) document
  document')
include h

/-- **The identities are exchanged** if and only if no other one shadows a written one. -/
theorem Planned.exchanged_iff :
    (∀ entry ∈ HARDWARE_IDENTITY_DEFAULTS,
      identityValue document' source first entry = identityValue document source second entry ∧
        identityValue document' source second entry = identityValue document source first entry) ↔
      Unshadowed source first second document firstTarget secondTarget := by
  obtain ⟨_, hfirst⟩ := hplan.firstSection
  obtain ⟨_, hsecond⟩ := hplan.secondSection
  have hfirst' := (hplan.resolvedSection_kept h first source).trans hfirst
  have hsecond' := (hplan.resolvedSection_kept h second source).trans hsecond
  refine forall₂_congr fun entry hentry => ?_
  obtain ⟨hw, hw'⟩ := hplan.mem_writes hentry
  simp only [identityValue_eq hfirst, identityValue_eq hsecond, identityValue_eq hfirst',
    identityValue_eq hsecond', Option.some.injEq]
  constructor
  · rintro ⟨hexchanged, hexchanged'⟩
    by_cases hs : document.Shadowed firstTarget entry.1
    · rw [(inherited_written h hw).1 hs] at hexchanged
      exact .inl hexchanged
    · by_cases hs' : document.Shadowed secondTarget entry.1
      · rw [(inherited_written h hw').1 hs'] at hexchanged'
        exact .inl hexchanged'.symm
      · exact .inr ⟨hs, hs'⟩
  · rintro (hsame | ⟨hs, hs'⟩)
    · constructor
      · by_cases hs : document.Shadowed firstTarget entry.1
        · rw [(inherited_written h hw).1 hs, hsame]
        · exact inherited_getD_written hentry h hw hs
      · by_cases hs : document.Shadowed secondTarget entry.1
        · rw [(inherited_written h hw').1 hs, hsame]
        · exact inherited_getD_written hentry h hw' hs
    · exact ⟨inherited_getD_written hentry h hw hs, inherited_getD_written hentry h hw' hs'⟩

omit hplan in
/-- What a channel with a section of its own inherits. -/
theorem inherited_kept {resolved key : Str}
    (hF : asciiKey resolved ≠ asciiKey firstTarget) (hS : asciiKey resolved ≠ asciiKey secondTarget)
    (hkey : (asciiKey firstTarget = asciiKey HARDWARE ∨ asciiKey secondTarget = asciiKey HARDWARE) →
      ((document.explicitValues resolved).get? key).isSome) :
    inherited document' resolved key = inherited document resolved key := by
  have hsection : (document'.explicitValues resolved).get? key =
      (document.explicitValues resolved).get? key :=
    h.get?_other (not_samePair_identityWrites (.inl ⟨hF, hS⟩))
  rw [inherited, inherited, hsection]
  by_cases hflat : asciiKey firstTarget = asciiKey HARDWARE ∨
      asciiKey secondTarget = asciiKey HARDWARE
  · obtain ⟨v, hv⟩ := Option.isSome_iff_exists.mp (hkey hflat)
    rw [hv, Option.some_or, Option.some_or]
  · rw [not_or] at hflat
    rw [h.get?_other (not_samePair_identityWrites (.inl ⟨Ne.symm hflat.1, Ne.symm hflat.2⟩))]

/-- **Every other value** of every channel. -/
theorem Planned.values_kept {key : Str}
    (hkey : ∀ entry ∈ HARDWARE_IDENTITY_DEFAULTS, eqIgnoreAsciiCase key entry.1 = false)
    (channel : Str) :
    resolvedValue document' source channel key = resolvedValue document source channel key := by
  have hkept := hplan.resolvedSection_kept h channel source
  cases hsection : resolvedSection document channel HARDWARE source with
  | error e => rw [resolvedValue_error hsection, resolvedValue_error (hkept.trans hsection)]
  | ok r =>
    obtain ⟨resolved, more⟩ := r
    rw [resolvedValue_eq hsection, resolvedValue_eq (hkept.trans hsection), inherited, inherited,
      h.get?_other (not_samePair_identityWrites (.inr hkey)),
      h.get?_other (not_samePair_identityWrites (.inr hkey))]

/-- **Every other channel** keeps its identity. -/
theorem Planned.others_kept (hc : channel ∈ document.configuredChannels)
    (hfirst : eqIgnoreAsciiCase channel first = false)
    (hsecond : eqIgnoreAsciiCase channel second = false) {entry : Str × Str}
    (hentry : entry ∈ HARDWARE_IDENTITY_DEFAULTS) :
    identityValue document' source channel entry = identityValue document source channel entry := by
  have hkept := hplan.resolvedSection_kept h channel source
  rw [identityValue, identityValue]
  cases hsection : resolvedSection document channel HARDWARE source with
  | error e => rw [resolvedValue_error hsection, resolvedValue_error (hkept.trans hsection)]
  | ok r =>
    obtain ⟨resolved, more⟩ := r
    obtain ⟨hF, hflatF⟩ := usesTarget_eq_false_iff.mp
      (sharedWith_eq_false_iff.mp (hplan.unshared firstTarget (by simp)) channel hc hfirst hsecond
        resolved more hsection)
    obtain ⟨hS, hflatS⟩ := usesTarget_eq_false_iff.mp
      (sharedWith_eq_false_iff.mp (hplan.unshared secondTarget (by simp)) channel hc hfirst hsecond
        resolved more hsection)
    rw [resolvedValue_eq hsection, resolvedValue_eq (hkept.trans hsection), inherited_kept h hF hS]
    rintro (hflat | hflat)
    · exact hflatF hflat entry hentry
    · exact hflatS hflat entry hentry

/-- The checks of a second exchange pass. -/
theorem Planned.again : ∃ firstValues' secondValues',
    Planned source first second document' firstTarget secondTarget firstValues' secondValues' := by
  obtain ⟨more, hfirst⟩ := hplan.firstSection
  obtain ⟨more', hsecond⟩ := hplan.secondSection
  have hkept := hplan.resolvedSection_kept h
  have hfirst' := (hkept first source).trans hfirst
  have hsecond' := (hkept second source).trans hsecond
  obtain ⟨values, hvalues, -⟩ := get?_resolvedValues hfirst'
  obtain ⟨values', hvalues', -⟩ := get?_resolvedValues hsecond'
  refine ⟨values, values', ⟨_, hfirst'⟩, ⟨_, hsecond'⟩, hplan.different, fun target htarget => ?_,
    ⟨_, hvalues⟩, ⟨_, hvalues'⟩⟩
  have hchannels : document'.configuredChannels = document.configuredChannels :=
    hplan.configuredChannels_kept h
  rw [sharedWith_eq_false_iff, hchannels]
  intro channel hc hne hne' resolved more hsection
  rw [hkept] at hsection
  have huses := fun target htarget => usesTarget_eq_false_iff.mp (sharedWith_eq_false_iff.mp
    (hplan.unshared target htarget) channel hc hne hne' resolved more hsection)
  have hvalues : document'.explicitValues resolved = document.explicitValues resolved :=
    BTreeMap.ext_get? fun k => h.get?_other (not_samePair_identityWrites
      (.inl ⟨(huses firstTarget (by simp)).1, (huses secondTarget (by simp)).1⟩))
  rw [usesTarget_eq_false_iff, hvalues]
  exact huses target htarget

end Planned

/-! ## A second exchange -/

section Again

variable
  (hplan : Planned source first second document firstTarget secondTarget firstValues secondValues)

include hplan

/-- Where the writes stand alone they all land. -/
theorem Planned.landAll (halone : StandAlone document firstTarget secondTarget)
    (hwrites : writeAll (identityWrites firstTarget secondTarget firstValues secondValues) document =
      (.ok (), document')) :
    LandAll (identityWrites firstTarget secondTarget firstValues secondValues) document := by
  obtain ⟨_, hfirst⟩ := hplan.firstSection
  obtain ⟨_, hsecond⟩ := hplan.secondSection
  have htrim {channel target : Str} {more : List Station.ResolutionWarning}
      (h : resolvedSection document channel HARDWARE source = .ok (target, more)) :
      trim target = target := by
    by_cases hflat : target = HARDWARE
    · rw [hflat]; decide
    · exact trim_of_hasHeader ((isHardware_of_resolvedSection h).2.2 hflat)
  have hF := htrim hfirst
  have hS := htrim hsecond
  have htrimmed : ∀ w ∈ identityWrites firstTarget secondTarget firstValues secondValues,
      trim w.sectionName = w.sectionName := by
    intro w hw
    obtain ⟨entry, -, rfl | rfl⟩ := mem_identityWrites.mp hw
    · exact hF
    · exact hS
  by_cases hmissing : document.HasHeader firstTarget
  · obtain ⟨hlands | ⟨hmissing', hlands⟩, hlands' | hno⟩ := halone
    · refine landAll_of_lands fun w hw => ?_
      obtain ⟨entry, hentry, rfl | rfl⟩ := mem_identityWrites.mp hw
      · exact hlands entry hentry
      · exact hlands' entry hentry
    · exact absurd hmissing hno
    · -- The first section is there, so the second write appends the second one.
      obtain ⟨middle, hset, hrest⟩ := writeAll_cons hwrites
      have hland := hlands _ rfl
      have hwritten := written_of_setValue hset hland
      have hheaders : middle.headers = document.headers := by
        rcases hwritten.headers with h | ⟨hno, -⟩
        · exact h
        · exact absurd hmissing hno
      have hmissing'' : ¬ middle.HasHeader secondTarget := by rwa [HasHeader, hheaders]
      refine ⟨hland, ?_⟩
      rw [hset]
      exact landAll_of_absent hrest (lands_of_not_hasHeader hmissing'' hS _) hmissing''
        fun w hw => htrimmed w (List.mem_cons_of_mem _ (List.mem_cons_of_mem _ hw))
    · exact absurd hmissing hno
  · exact landAll_of_absent hwrites (lands_of_not_hasHeader hmissing hF _) hmissing
      fun w hw => htrimmed w (List.mem_cons_of_mem _ hw)

/-- **A second exchange** succeeds and restores the identities. -/
theorem Planned.restored
    (hwrites : writeAll (identityWrites firstTarget secondTarget firstValues secondValues) document =
      (.ok (), document'))
    (h : WrittenAll (identityWrites firstTarget secondTarget firstValues secondValues) document
      document') (hfree : Unshadowed source first second document firstTarget secondTarget)
    (warnings : List Station.ResolutionWarning) : ∃ document'' warnings',
    swapHardwareIdentity first second source ⟨document', warnings⟩ =
      some (.ok (), ⟨document'', warnings'⟩) ∧
    ∀ channel ∈ [first, second], ∀ entry ∈ HARDWARE_IDENTITY_DEFAULTS,
      identityValue document'' source channel entry = identityValue document source channel entry := by
  obtain ⟨firstValues', secondValues', hplan'⟩ := hplan.again h
  have hexchanged := (hplan.exchanged_iff h).mpr hfree
  -- Every write of the second exchange replaces a line of the first, with a value of the first.
  have hlines : ∀ w ∈ identityWrites firstTarget secondTarget firstValues' secondValues',
      ∃ w' ∈ identityWrites firstTarget secondTarget firstValues secondValues,
        w'.sectionName = w.sectionName ∧ w'.name = w.name := by
    intro w hw
    obtain ⟨entry, hentry, rfl | rfl⟩ := mem_identityWrites.mp hw
    · exact ⟨_, (hplan.mem_writes hentry).1, rfl, rfl⟩
    · exact ⟨_, (hplan.mem_writes hentry).2, rfl, rfl⟩
  have hvalues : ∀ w ∈ identityWrites firstTarget secondTarget firstValues' secondValues',
      ∃ w' ∈ identityWrites firstTarget secondTarget firstValues secondValues,
        w'.value = w.value := by
    intro w hw
    obtain ⟨_, hfirst⟩ := hplan.firstSection
    obtain ⟨_, hsecond⟩ := hplan.secondSection
    obtain ⟨_, hfirst'⟩ := hplan'.firstSection
    obtain ⟨_, hsecond'⟩ := hplan'.secondSection
    obtain ⟨entry, hentry, he⟩ := mem_identityWrites.mp hw
    have hboth := hexchanged entry hentry
    rw [identityValue_eq hfirst, identityValue_eq hfirst', identityValue_eq hsecond,
      identityValue_eq hsecond', Option.some.injEq, Option.some.injEq] at hboth
    rcases he with rfl | rfl
    · refine ⟨_, (hplan.mem_writes hentry).2, ?_⟩
      rw [(hplan'.get?_values entry.1).2]
      exact hboth.2.symm
    · refine ⟨_, (hplan.mem_writes hentry).1, ?_⟩
      rw [(hplan'.get?_values entry.1).1]
      exact hboth.1.symm
  have hsections : ∀ w ∈ identityWrites firstTarget secondTarget firstValues' secondValues',
      document'.HasHeader w.sectionName := by
    intro w hw
    obtain ⟨w', hw', hs, -⟩ := hlines w hw
    exact hs ▸ h.hasHeader_written hw'
  have hargs : ∀ w ∈ identityWrites firstTarget secondTarget firstValues' secondValues',
      Edit.ValidArguments w.sectionName w.name w.value := by
    intro w hw
    obtain ⟨w', hw', hs, hn⟩ := hlines w hw
    obtain ⟨w'', hw'', hv⟩ := hvalues w hw
    obtain ⟨hvs, hvn, -⟩ := validArguments_of_writeAll hwrites w' hw'
    obtain ⟨-, -, hvv⟩ := validArguments_of_writeAll hwrites w'' hw''
    exact ⟨hs ▸ hvs, hn ▸ hvn, hv ▸ hvv⟩
  have hland : LandAll (identityWrites firstTarget secondTarget firstValues' secondValues')
      document' := by
    refine landAll_of_lands fun w hw => ?_
    obtain ⟨w', hw', hs, hn⟩ := hlines w hw
    refine lands_of_replaces ?_ (trim_of_hasHeader (hsections w hw))
    rw [← hs, ← hn]
    exact h.replaced w' hw'
  obtain ⟨document'', hwrites'⟩ := exists_writeAll hsections hargs hland
  have h' := writtenAll_of_writeAll hwrites' hland (distinct_identityWrites hplan.different)
  obtain ⟨warnings', hrun⟩ : SwapsTo (swapHardwareIdentity first second source) ⟨document', warnings⟩
      document'' := swapHardwareIdentity_ok_iff.mpr ⟨_, _, _, _, hplan', hwrites'⟩
  have hfree' : Unshadowed source first second document' firstTarget secondTarget := by
    intro entry hentry
    obtain ⟨hw, hw'⟩ := hplan.mem_writes hentry
    rw [(hexchanged entry hentry).1, (hexchanged entry hentry).2, Shadowed, Shadowed,
      h.shadowPairs_written hw, h.shadowPairs_written hw']
    exact (hfree entry hentry).imp_left Eq.symm
  have hrestored := (hplan'.exchanged_iff h').mpr hfree'
  refine ⟨document'', warnings', hrun, ?_⟩
  simp only [List.forall_mem_cons, List.not_mem_nil, false_imp_iff, implies_true, and_true]
  exact ⟨fun entry hentry => (hrestored entry hentry).1.trans (hexchanged entry hentry).2,
    fun entry hentry => (hrestored entry hentry).2.trans (hexchanged entry hentry).1⟩

end Again

end Exchange

/-- **The exchange of two devices**: it exchanges their identities, keeps all other values and can be
taken back, if and only if no other assignment shadows a written one. -/
theorem swapHardwareIdentity_exchanged {first second : Str}
    {warnings' : List Station.ResolutionWarning}
    (h : swapHardwareIdentity first second source ⟨document, warnings⟩ =
      some (.ok (), ⟨document', warnings'⟩))
    (halone : StandAlone document (hardwareSection document source first)
      (hardwareSection document source second)) :
    Exchanged source first second document document' ↔
      Unshadowed source first second document (hardwareSection document source first)
        (hardwareSection document source second) := by
  obtain ⟨F, S, fv, sv, hplan, hwrites⟩ := swapHardwareIdentity_ok_iff.mp ⟨warnings', h⟩
  have hF : hardwareSection document source first = F := by
    obtain ⟨_, hfirst⟩ := hplan.firstSection
    rw [hardwareSection, hfirst]
  have hS : hardwareSection document source second = S := by
    obtain ⟨_, hsecond⟩ := hplan.secondSection
    rw [hardwareSection, hsecond]
  rw [hF, hS] at halone ⊢
  have hwritten := writtenAll_of_writeAll hwrites (hplan.landAll halone hwrites)
    (distinct_identityWrites hplan.different)
  refine ⟨fun hexchanged => (hplan.exchanged_iff hwritten).mp hexchanged.exchanged, fun hfree => ?_⟩
  exact ⟨(hplan.exchanged_iff hwritten).mpr hfree,
    fun channel hc hfirst hsecond entry hentry =>
      hplan.others_kept hwritten hc hfirst hsecond hentry,
    fun channel key hkey => hplan.values_kept hwritten hkey channel,
    hplan.restored hwrites hwritten hfree⟩

theorem exists_of_any {m : Fallible Swapping Str Unit} {s : Swapping} {P : Swapping → Bool}
    (h : ((m s).any fun r => r.1.isOk && P r.2) = true) :
    ∃ document warnings, m s = some (.ok (), ⟨document, warnings⟩) ∧ P ⟨document, warnings⟩ = true := by
  obtain ⟨⟨result, after⟩, hrun, hboth⟩ := (Option.any_eq_true _ _).mp h
  obtain ⟨hok, hafter⟩ := (Bool.and_eq_true _ _).mp hboth
  cases result with
  | error e => cases hok
  | ok u => exact ⟨after.document, after.warnings, hrun, hafter⟩

/-- Two channels with a section each. -/
def scopedDocument : ConfigDocument :=
  ⟨"[one]\n[two]\n[hardware one]\nhardware_serial = A\n[hardware two]\nhardware_serial = C\n".toList⟩

theorem swapHardwareIdentity_scoped : ∃ document' warnings',
    swapHardwareIdentity "one".toList "two".toList [] ⟨scopedDocument, []⟩ =
      some (.ok (), ⟨document', warnings'⟩) ∧
    Exchanged [] "one".toList "two".toList scopedDocument document' := by
  obtain ⟨document', warnings', hrun, -⟩ := exists_of_any (m := swapHardwareIdentity "one".toList
    "two".toList []) (s := ⟨scopedDocument, []⟩) (P := fun _ => true)
    (Spelled.of_literal (P := fun text => ((swapHardwareIdentity "one".toList "two".toList []
      ⟨⟨text⟩, []⟩).any fun r => r.1.isOk && true) = true) rfl (by decide +kernel))
  refine ⟨document', warnings', hrun, (swapHardwareIdentity_exchanged hrun ?_).mpr ?_⟩
  · have hclosed : ¬ scopedDocument.OpenEnd :=
      Spelled.of_literal (P := fun text => ¬ (⟨text⟩ : ConfigDocument).OpenEnd) rfl
        (fun hopen => hopen (.inr rfl))
    have htrim (channel : Str) (hchannel : channel = "one".toList ∨ channel = "two".toList) :
        trim (hardwareSection scopedDocument [] channel) =
          hardwareSection scopedDocument [] channel := by
      refine Spelled.of_literal (P := fun text => trim (hardwareSection ⟨text⟩ [] channel) =
        hardwareSection ⟨text⟩ [] channel) rfl ?_
      rcases hchannel with rfl | rfl <;> decide +kernel
    exact ⟨.inl fun entry _ => lands_of_not_openEnd hclosed (htrim _ (.inl rfl)) _,
      .inl fun entry _ => lands_of_not_openEnd hclosed (htrim _ (.inr rfl)) _⟩
  · have hfree : ∀ entry ∈ HARDWARE_IDENTITY_DEFAULTS,
        ¬ scopedDocument.Shadowed (hardwareSection scopedDocument [] "one".toList) entry.1 ∧
          ¬ scopedDocument.Shadowed (hardwareSection scopedDocument [] "two".toList) entry.1 := by
      refine Spelled.of_literal (P := fun text => ∀ entry ∈ HARDWARE_IDENTITY_DEFAULTS,
        ¬ (⟨text⟩ : ConfigDocument).Shadowed (hardwareSection ⟨text⟩ [] "one".toList) entry.1 ∧
          ¬ (⟨text⟩ : ConfigDocument).Shadowed (hardwareSection ⟨text⟩ [] "two".toList) entry.1) rfl ?_
      unfold Shadowed
      decide +kernel
    exact fun entry hentry => .inr (hfree entry hentry)

/-- Two serial numbers, and the exchange of the first. -/
def shadowedDocument : ConfigDocument :=
  ⟨("[one]\n[two]\n[hardware one]\nhardware_serial = A\nhardware_serial = B\n" ++
    "[hardware two]\nhardware_serial = C\n").toList⟩

/-- The channel keeps its device. -/
theorem swapHardwareIdentity_shadowed : ∃ document' warnings',
    swapHardwareIdentity "one".toList "two".toList [] ⟨shadowedDocument, []⟩ =
      some (.ok (), ⟨document', warnings'⟩) ∧
    ¬ Exchanged [] "one".toList "two".toList shadowedDocument document' := by
  obtain ⟨document', warnings', hrun, hserial⟩ := exists_of_any
    (m := swapHardwareIdentity "one".toList "two".toList []) (s := ⟨shadowedDocument, []⟩)
    (P := fun after => identityValue after.document [] "one".toList ("hardware_serial".toList, []) =
      some "B".toList)
    (Spelled.of_literal (P := fun text => ((swapHardwareIdentity "one".toList "two".toList []
      ⟨⟨text⟩, []⟩).any fun r => r.1.isOk && decide (identityValue r.2.document [] "one".toList
        ("hardware_serial".toList, []) = some "B".toList)) = true)
      String.ofList_append.symm (by decide +kernel))
  refine ⟨document', warnings', hrun, fun h => ?_⟩
  have hother : identityValue shadowedDocument [] "two".toList ("hardware_serial".toList, []) =
      some "C".toList :=
    Spelled.of_literal (P := fun text => identityValue ⟨text⟩ [] "two".toList
      ("hardware_serial".toList, []) = some "C".toList) String.ofList_append.symm (by decide +kernel)
  have hexchanged := (h.exchanged ("hardware_serial".toList, []) (by decide)).1
  rw [hother, of_decide_eq_true hserial] at hexchanged
  exact absurd hexchanged (by decide)

end Tune
end UsbRadioPlus
