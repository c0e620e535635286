import UsbRadioPlus.Core.ConfigWrites
import UsbRadioPlus.Station.Resolution
import UsbRadioPlus.Tune.Menus

/-!
# Exchanging two USB devices (`rust/tune/src/menus.rs`)

`swapHardwareIdentity` exchanges the three values that tell USB devices apart, between the sections
that the hardware of two channels resolves to (`identityWrites`). It refuses where the two are one
section, and where another channel has its identity from one of them (`sharedWith`).
`swapHardwareIdentity_ok_iff` is the only proof that looks at the function.
-/

namespace UsbRadioPlus
namespace Tune

open UsbRadioPlus.Core UsbRadioPlus.Core.ConfigDocument UsbRadioPlus.Station Rust Rust.Str Sys

/-! ## Resolved values -/

/-- `resolved_values`, with the warnings of the section. -/
def resolvedValues (document : ConfigDocument) (channel kind source : Str) :
    Except ConfigError (BTreeMap Str Str × List Station.ResolutionWarning) := do
  let (resolved, warnings) ← resolvedSection document channel kind source
  if eqIgnoreAsciiCase resolved channel then pure (document.explicitValues channel, warnings)
  else
    let values := document.explicitValues kind
    if eqIgnoreAsciiCase resolved kind then pure (values, warnings)
    else pure (values.extend (document.explicitValues resolved), warnings)

/-! ## The exchange -/

/-- `HARDWARE` -/
def HARDWARE : Str := "hardware".toList

/-- The options and their defaults. -/
def HARDWARE_IDENTITY_DEFAULTS : List (Str × Str) :=
  [("hardware_device_identifier".toList, []), ("hardware_serial".toList, []),
    ("hardware_gpio_usb_port_path".toList, [])]

/-- A document while its devices are exchanged. -/
structure Swapping where
  document : ConfigDocument
  warnings : List Station.ResolutionWarning

/-- A resolution appends its warnings. -/
def resolving {α : Type}
    (resolve : ConfigDocument → Except ConfigError (α × List Station.ResolutionWarning)) :
    Fallible Swapping Str α := fun s =>
  match resolve s.document with
  | .ok (a, warnings) => some (.ok a, { s with warnings := s.warnings ++ warnings })
  | .error e => some (.error (message e), s)

/-- A channel with this section has its identity from the target. -/
def usesTarget (document : ConfigDocument) (target resolved : Str) : Bool :=
  eqIgnoreAsciiCase resolved target ||
    -- Scoped profiles can still inherit identity from flat defaults.
    (eqIgnoreAsciiCase target HARDWARE && HARDWARE_IDENTITY_DEFAULTS.any fun entry =>
      ((document.explicitValues resolved).get? entry.1).isNone)

/-- `any` over the channels: whether one of them other than the two uses the target. -/
def sharedWith (document : ConfigDocument) (first second source target : Str) :
    List Str → Bool × List Station.ResolutionWarning
  | [] => (false, [])
  | candidate :: rest =>
    if eqIgnoreAsciiCase candidate first || eqIgnoreAsciiCase candidate second then
      sharedWith document first second source target rest
    else
      match resolvedSection document candidate HARDWARE source with
      | .error _ => sharedWith document first second source target rest
      | .ok (resolved, warnings) =>
        if usesTarget document target resolved then (true, warnings)
        else
          let (shared, more) := sharedWith document first second source target rest
          (shared, warnings ++ more)

/-- A profile that a third station uses is not changed. -/
def refuseShared (first second source : Str) (entry : Str × Str) : Fallible Swapping Str Unit :=
  fun s =>
    let (channel, target) := entry
    let (shared, warnings) :=
      sharedWith s.document first second source target s.document.configuredChannels
    some (if shared then
        .error ("Cannot swap ".toList ++ channel ++ ": hardware profile [".toList ++ target ++
          "] is shared by another channel.".toList)
      else .ok (), { s with warnings := s.warnings ++ warnings })

/-- The writes of the loop over the options. -/
def identityWrites (firstTarget secondTarget : Str) (first second : BTreeMap Str Str) : List Write :=
  HARDWARE_IDENTITY_DEFAULTS.flatMap fun (key, defaultValue) =>
    [⟨firstTarget, key, (second.get? key).getD defaultValue⟩,
      ⟨secondTarget, key, (first.get? key).getD defaultValue⟩]

/-- The writes, one behind the other. -/
def writing (writes : List Write) : Fallible Swapping Str Unit := fun s =>
  let (result, document) := writeAll writes s.document
  some (result.mapError message, { s with document })

/-- Two stations with one profile have nothing to exchange. -/
def refuseSame (first second firstTarget secondTarget : Str) : Except Str Unit :=
  if eqIgnoreAsciiCase firstTarget secondTarget then
    .error (first ++ " and ".toList ++ second ++ " use the same hardware profile [".toList ++
      firstTarget ++ "].".toList)
  else .ok ()

/-- `swap_hardware_identity`. -/
def swapHardwareIdentity (first second source : Str) : Fallible Swapping Str Unit := do
  let firstTarget ← resolving fun document => resolvedSection document first HARDWARE source
  let secondTarget ← resolving fun document => resolvedSection document second HARDWARE source
  Fallible.of (refuseSame first second firstTarget secondTarget)
  [(first, firstTarget), (second, secondTarget)].forM (refuseShared first second source)
  let firstValues ← resolving fun document => resolvedValues document first HARDWARE source
  let secondValues ← resolving fun document => resolvedValues document second HARDWARE source
  writing (identityWrites firstTarget secondTarget firstValues secondValues)

/-! ## What it takes -/

/-- The checks of an exchange have passed. -/
structure Planned (source first second : Str) (document : ConfigDocument)
    (firstTarget secondTarget : Str) (firstValues secondValues : BTreeMap Str Str) : Prop where
  firstSection : ∃ warnings,
    resolvedSection document first HARDWARE source = .ok (firstTarget, warnings)
  secondSection : ∃ warnings,
    resolvedSection document second HARDWARE source = .ok (secondTarget, warnings)
  different : asciiKey firstTarget ≠ asciiKey secondTarget
  unshared : ∀ target ∈ [firstTarget, secondTarget],
    (sharedWith document first second source target document.configuredChannels).1 = false
  first : ∃ warnings, resolvedValues document first HARDWARE source = .ok (firstValues, warnings)
  second : ∃ warnings, resolvedValues document second HARDWARE source = .ok (secondValues, warnings)

section Inversion

variable {document document' : ConfigDocument} {first second source : Str}
  {warnings : List Station.ResolutionWarning}

/-- The computation succeeds with this document. -/
def SwapsTo (m : Fallible Swapping Str Unit) (s : Swapping) (document : ConfigDocument) : Prop :=
  ∃ warnings, m s = some (.ok (), ⟨document, warnings⟩)

theorem swapsTo_resolving {α : Type}
    {resolve : ConfigDocument → Except ConfigError (α × List Station.ResolutionWarning)}
    {f : α → Fallible Swapping Str Unit} :
    SwapsTo (resolving resolve >>= f) ⟨document, warnings⟩ document' ↔
      ∃ a more, resolve document = .ok (a, more) ∧
        SwapsTo (f a) ⟨document, warnings ++ more⟩ document' := by
  unfold SwapsTo
  rw [Fallible.bind_apply, resolving]
  cases h : resolve document with
  | error e => simp
  | ok r =>
    obtain ⟨a, more⟩ := r
    simp

theorem swapsTo_of {r : Except Str Unit} {f : Unit → Fallible Swapping Str Unit} {s : Swapping} :
    SwapsTo (Fallible.of r >>= f) s document' ↔ r = .ok () ∧ SwapsTo (f ()) s document' := by
  unfold SwapsTo
  rw [Fallible.bind_apply, Fallible.of]
  cases r with
  | error e => simp
  | ok u => simp

theorem swapsTo_refuseShared {f : Unit → Fallible Swapping Str Unit} (entries : List (Str × Str)) :
    SwapsTo (entries.forM (refuseShared first second source) >>= f) ⟨document, warnings⟩ document' ↔
      (∀ entry ∈ entries,
        (sharedWith document first second source entry.2 document.configuredChannels).1 = false) ∧
      SwapsTo (f ()) ⟨document, warnings ++ entries.flatMap fun entry =>
        (sharedWith document first second source entry.2 document.configuredChannels).2⟩
        document' := by
  induction entries generalizing warnings with
  | nil =>
    rw [List.flatMap_nil, List.append_nil]
    exact ⟨fun h => ⟨by simp, h⟩, fun h => h.2⟩
  | cons entry entries ih =>
    rw [List.forall_mem_cons, List.flatMap_cons, ← List.append_assoc, and_assoc, ← ih]
    show SwapsTo ((refuseShared first second source entry >>= fun _ =>
      entries.forM (refuseShared first second source)) >>= f) _ _ ↔ _
    simp only [SwapsTo, Fallible.bind_apply, refuseShared]
    cases (sharedWith document first second source entry.2 document.configuredChannels).1 with
    | true => simp
    | false => simp

theorem swapsTo_writing {writes : List Write} {s : Swapping} :
    SwapsTo (writing writes) s document' ↔ writeAll writes s.document = (.ok (), document') := by
  unfold SwapsTo writing
  obtain ⟨result, after⟩ := writeAll writes s.document
  cases result with
  | error e => simp [Except.mapError]
  | ok u => simp [Except.mapError]

theorem refuseSame_ok_iff {firstTarget secondTarget : Str} :
    refuseSame first second firstTarget secondTarget = .ok () ↔
      asciiKey firstTarget ≠ asciiKey secondTarget := by
  unfold refuseSame
  split <;> rename_i h <;> simp at h <;> simp [h]

/-- **An exchange succeeds** where the checks pass and the writes succeed. -/
theorem swapHardwareIdentity_ok_iff :
    SwapsTo (swapHardwareIdentity first second source) ⟨document, warnings⟩ document' ↔
      ∃ firstTarget secondTarget firstValues secondValues,
        Planned source first second document firstTarget secondTarget firstValues secondValues ∧
          writeAll (identityWrites firstTarget secondTarget firstValues secondValues) document =
            (.ok (), document') := by
  unfold swapHardwareIdentity
  simp only [swapsTo_resolving, swapsTo_of, refuseSame_ok_iff, swapsTo_refuseShared, swapsTo_writing,
    List.forall_mem_cons]
  constructor
  · rintro ⟨F, _, hF, S, _, hS, hne, ⟨hshared, hshared', -⟩, fv, _, hfv, sv, _, hsv, hwrites⟩
    refine ⟨F, S, fv, sv, ⟨⟨_, hF⟩, ⟨_, hS⟩, hne, ?_, ⟨_, hfv⟩, ⟨_, hsv⟩⟩, hwrites⟩
    simpa using ⟨hshared, hshared'⟩
  · rintro ⟨F, S, fv, sv, ⟨⟨_, hF⟩, ⟨_, hS⟩, hne, hshared, ⟨_, hfv⟩, ⟨_, hsv⟩⟩, hwrites⟩
    simp only [List.forall_mem_cons] at hshared
    exact ⟨F, _, hF, S, _, hS, hne, ⟨hshared.1, hshared.2.1, by simp⟩, fv, _, hfv, sv, _, hsv,
      hwrites⟩

end Inversion

end Tune
end UsbRadioPlus
