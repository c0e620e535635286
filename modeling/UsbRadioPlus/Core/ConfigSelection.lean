import UsbRadioPlus.Core.ConfigDocument

/-!
# Selected sections (`rust/core/src/config_document.rs`)

A channel selects a profile of every kind; its section is `kind profile`, or the flat one of the kind.
-/

namespace UsbRadioPlus
namespace Core

open Rust Rust.Str

namespace ConfigDocument

/-- Named radio channels in file order. -/
def configuredChannels (self : ConfigDocument) : List Str :=
  self.sectionNames.filter fun sectionName =>
    !sectionName.any isWhitespace && !FLAT_SECTIONS.any (eqIgnoreAsciiCase sectionName)

/-- `has_section` -/
def hasSection (self : ConfigDocument) (requested : Str) : Bool :=
  (self.lines.filterMap sectionHeader).any fun sectionName => eqIgnoreAsciiCase sectionName requested

/-- The option that selects a profile. -/
def selector (kind : Str) : Str := kind ++ "_profile".toList

/-- The values of the option, in the order of its spellings. -/
def selections (self : ConfigDocument) (channel kind : Str) : List Str :=
  ((self.explicitValues channel).entries.filter fun entry =>
    eqIgnoreAsciiCase entry.1 (selector kind)).map (·.2)

/-- Resolve one channel's selected profile section or its flat fallback. -/
def selectedSection (self : ConfigDocument) (channel kind : Str) : Except ConfigError Str := do
  validateSectionName channel
  validateSectionName kind
  let selected := (self.selections channel kind).head?.getD channel
  let scopedName := kind ++ ' ' :: selected
  if !self.configuredChannels.any fun candidate => eqIgnoreAsciiCase candidate channel then
    .error (.missingChannel channel)
  else if eqIgnoreAsciiCase kind "general".toList then .ok channel
  else if self.hasSection scopedName then .ok scopedName
  else if eqIgnoreAsciiCase selected channel then .ok kind
  else .error (.missingProfile scopedName)

end ConfigDocument

end Core
end UsbRadioPlus
