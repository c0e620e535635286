import UsbRadioPlus.Core.ConfigReading
import UsbRadioPlus.Station.ConfigOptions

/-!
# What a tolerant resolution gives

In a section the assignments of one name agree, and the first one counts (`counted`). The value of an option
is the valid one of the selected section, of the flat section or the default, the first that there is;
every counted assignment that is invalid or unknown has one warning (`Resolved`).

The modes of the GPIO pins are left out where a section names a pin in two ways (`Sole`): there the names
do not conflict, and the order of the names decides.
-/

namespace UsbRadioPlus
namespace Station

open Sys Rust Rust.Str UsbRadioPlus.Core

/-! ## A section -/

/-- The assignments of a section that count. -/
def counted (values : BTreeMap Str Str) : List Entry := firsts Entry.key (overlayEntries values)

/-- The value that a section gives to an option. -/
def assigned (values : BTreeMap Str Str) (name : Str) (target : ConfigTarget) :
    Option target.field.Value :=
  ((counted values).find? fun entry => entry.key = name).bind fun entry =>
    (target.parse entry.2).toOption

/-- No option of the field has another name. -/
def Sole (applier : SettingApplier) (values : BTreeMap Str Str) (name : Str) (f : ConfigField) : Prop :=
  ∀ entry ∈ counted values, ∀ target, applier.target entry.key = some target → target.field = f →
    entry.key = name

/-- A warning without the value that the field keeps. -/
def ResolutionWarning.bare (warning : ResolutionWarning) : ResolutionWarning :=
  { warning with fallback := [] }

/-- The warning for an assignment. -/
def SettingApplier.warned (applier : SettingApplier) (source sectionName : Str) (entry : Entry) :
    Option ResolutionWarning :=
  match applier.target entry.key with
  | some target =>
    match target.parse entry.2 with
    | .ok _ => none
    | .error reason => some (invalidWarning source sectionName entry [] reason)
  | none =>
    if applier.consumes entry.key then none else some (unknownWarning source sectionName entry).bare

variable {applier : SettingApplier} {source sectionName name : Str} {entry : Entry}
  {target : ConfigTarget} {values : BTreeMap Str Str} {state state' : Resolving} {f : ConfigField}

/-- The section of a kind that the channel selects. -/
def selectedName (document : ConfigDocument) (channel kind source : Str) : Str :=
  match resolvedSection document channel kind source with
  | .ok (sectionName, _) => sectionName
  | .error _ => kind

/-- The warning where the selected profile is missing. -/
def missing (document : ConfigDocument) (channel kind source : Str) : List ResolutionWarning :=
  match resolvedSection document channel kind source with
  | .ok (_, warnings) => warnings
  | .error _ => []

/-- The warnings of a section. -/
def warnings (document : ConfigDocument) (source : Str) (applier : SettingApplier)
    (sectionName : Str) : List ResolutionWarning :=
  (counted (document.explicitValues sectionName)).filterMap (applier.warned source sectionName)

/-- The warnings of a kind: for its profile, its flat section and its selected one. -/
def kindWarnings (document : ConfigDocument) (source channel : Str) (entry : Str × SettingApplier) :
    List ResolutionWarning :=
  (missing document channel entry.1 source).map ResolutionWarning.bare ++
    (warnings document source entry.2 entry.1 ++
      if eqIgnoreAsciiCase (selectedName document channel entry.1 source) entry.1 then []
      else warnings document source entry.2 (selectedName document channel entry.1 source))

variable {document : ConfigDocument} {channel kind : Str}

theorem explicitValues_congr {requested requested' : Str}
    (h : eqIgnoreAsciiCase requested requested' = true) :
    document.explicitValues requested = document.explicitValues requested' := by
  rw [ConfigDocument.explicitValues_eq, ConfigDocument.explicitValues_eq, ConfigDocument.assigned,
    ConfigDocument.assigned, (reading_congr (eqIgnoreAsciiCase_iff.mp h) false _).2]

/-- The sections that the resolution reads, with their appliers. -/
def sectionsRead (document : ConfigDocument) (source channel : Str) : List (SettingApplier × Str) :=
  (.general, "general".toList) :: (.radio, channel) :: PROFILE_KINDS.flatMap fun entry =>
    [(entry.2, selectedName document channel entry.1 source), (entry.2, entry.1)]

/-- The option of a channel that is no profile. -/
def enabledTarget : ConfigTarget := .flag .channelEnabled

/-- The values and the warnings before the normalisation. -/
structure Resolved (document : ConfigDocument) (source channel : Str) (before : Resolving) : Prop where
  /-- The selected section, the flat section, the default. -/
  value : ∀ entry ∈ PROFILE_KINDS, ∀ name target, entry.2.target name = some target →
    ((∃ i, target.field = .gpioMode i) →
      ∀ read ∈ [selectedName document channel entry.1 source, entry.1],
        Sole entry.2 (document.explicitValues read) name target.field) →
    before.1 target.field =
      ((assigned (document.explicitValues (selectedName document channel entry.1 source)) name
        target).or (assigned (document.explicitValues entry.1) name target)).getD
          (ConfigValues.default target.field)
  /-- The section of the channel, the general section, the default. -/
  channelEnabled : before.1 enabledTarget.field =
    ((assigned (document.explicitValues channel) "channel_enabled".toList enabledTarget).or
      (assigned (document.explicitValues "general".toList) "channel_enabled".toList
        enabledTarget)).getD (ConfigValues.default enabledTarget.field)
  /-- In the order of the sections, in a section in the order of the names. -/
  warned : before.2.map ResolutionWarning.bare =
    (missing document channel "general".toList source).map ResolutionWarning.bare ++
      warnings document source .general "general".toList ++ warnings document source .radio channel ++
        PROFILE_KINDS.flatMap (kindWarnings document source channel)
  /-- Two assignments for one field have one value. -/
  agreeing : ∀ read ∈ sectionsRead document source channel,
    ∀ a ∈ overlayEntries (document.explicitValues read.2),
      ∀ b ∈ overlayEntries (document.explicitValues read.2), ∀ target target',
        read.1.target a.key = some target → read.1.target b.key = some target' →
          target.field = target'.field → (∀ i, target.field ≠ .gpioMode i) → trim a.2 = trim b.2

variable {a b : Str} {ls ls' : List Str} {document' : ConfigDocument}

end Station
end UsbRadioPlus
