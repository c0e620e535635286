import UsbRadioPlus.Core.ConfigDocument
import UsbRadioPlus.Station.RemoteHistory
import UsbRadioPlus.Sys.Run

/-!
# The rules of a station under remote tuning (`rust/core/src/station_config.rs`)

The resolver accepts a configuration behind `normalizeVad` and `validate` (`Accepted`), so its
cross-field rules hold (`Ruled`). A remote tune changes the configuration of a plan without either
check. `ruled_iff` says which tunes keep the rules: the one that encodes by DSP needs an output that
carries signaling, and none may take away the carrier that the voice detector needs or the last gate
that ends a kerchunk.
-/

namespace UsbRadioPlus
namespace Station

open Rust Rust.Str UsbRadioPlus.Core

variable {F : Type}

/-! ## Acceptance -/

/-- Cross-field condition which prevents construction of a safe station configuration. -/
inductive StationValidationError where
  /-- Receive CTCSS was selected with its indication source disabled. -/
  | disabledCtcssReceiveSource
  /-- Simultaneous receive/transmit CTCSS lists had different lengths. -/
  | ctcssMapLength (receive transmit : Nat)
  /-- Transmit CTCSS or DCS was selected without a hardware signaling route. -/
  | missingTransmitSignalingRoute
  deriving DecidableEq, Repr

/-- What a warning is about. -/
inductive ResolutionWarningKind where
  | unknownSection
  | unknownOption
  | unsupportedOption
  | invalidValue
  deriving DecidableEq, Repr

/-- A warning about one setting. -/
structure ResolutionWarning where
  kind : ResolutionWarningKind
  source : Str
  section_ : Str
  name : Str
  suppliedValue : Str
  fallback : Str
  reason : Str
  deriving DecidableEq, Repr

/-- `parse_vad_mode` -/
def parseVadMode (value : Str) : Except Str VadMode :=
  if eqIgnoreAsciiCase value "off".toList then .ok .off
  else if eqIgnoreAsciiCase value "kerchunk".toList then .ok .kerchunk
  else if eqIgnoreAsciiCase value "on".toList then .ok .on
  else .error "requires off, kerchunk, or on".toList

namespace StationConfig

/-- Validate cross-field requirements which cannot be resolved per setting. -/
def validate (self : StationConfig F) : Except StationValidationError Unit :=
  if self.receive.signalingMethod = .ctcss ∧ self.ctcss.receiveSource = .disabled then
    .error .disabledCtcssReceiveSource
  else if self.receive.signalingMethod = .ctcss ∧ self.transmit.signalingMethod = .ctcss ∧
      self.ctcss.receiveFrequencies.length ≠ self.ctcss.transmitFrequencies.length then
    .error (.ctcssMapLength self.ctcss.receiveFrequencies.length
      self.ctcss.transmitFrequencies.length)
  else if (self.transmit.signalingMethod = .ctcss ∨ self.transmit.signalingMethod = .dcs) ∧
      !self.hardware.outputAAssignment.carriesSignaling ∧
      !self.hardware.outputBAssignment.carriesSignaling then
    .error .missingTransmitSignalingRoute
  else .ok ()

/-- The carrier can end the RF burst. -/
def carrierGate (self : StationConfig F) : Bool :=
  !(self.receive.cosAssignment == .disabled || self.receive.cosAssignment == .open)

/-- The tone can end the RF burst. -/
def toneGate (self : StationConfig F) : Bool :=
  !self.ctcss.receiveOverrideEnabled &&
    match self.receive.signalingMethod with
    | .carrier => false
    | .ctcss => self.ctcss.receiveSource != .disabled
    | .dcs => true

/-- The last explicit assignment of the kerchunk mode, or the setting itself. -/
def kerchunkOrigin (document : ConfigDocument) (receiveSection : Str) : Str × Str × Str :=
  ["receive".toList, receiveSection].foldl
    (fun origin section_ => (document.explicitValues section_).entries.foldl
      (fun origin entry =>
        if eqIgnoreAsciiCase entry.1 "vad_mode".toList &&
            parseVadMode (trim entry.2) matches .ok .kerchunk then
          (section_, entry.1, entry.2)
        else origin)
      origin)
    ("receive".toList, "vad_mode".toList, "kerchunk".toList)

/-- The warning of a kerchunk mode that no gate ends. -/
def kerchunkWarning (document : ConfigDocument) (source receiveSection : Str) :
    ResolutionWarning :=
  let (section_, name, value) := kerchunkOrigin document receiveSection
  { kind := .invalidValue
    source
    section_
    name
    suppliedValue := value
    fallback := "on".toList
    reason := "requires a carrier or tone qualification capable of ending the RF burst".toList }

/-- A voice detector without a carrier source gets the open one. -/
def withCarrier (config : StationConfig F) : StationConfig F :=
  if config.receive.cosAssignment = .disabled then
    { config with receive := { config.receive with cosAssignment := .open } }
  else config

/-- `normalize_vad`: the configuration and the warnings after the call. -/
def normalizeVad (config : StationConfig F) (document : ConfigDocument)
    (source receiveSection : Str) (warnings : List ResolutionWarning) :
    StationConfig F × List ResolutionWarning :=
  if config.receive.vadMode = .off then (config, warnings)
  -- the gates are those of the configuration before the call
  else if config.receive.vadMode ≠ .kerchunk ∨ config.carrierGate ∨ config.toneGate then
    (config.withCarrier, warnings)
  else
    ({ config.withCarrier with receive := { config.withCarrier.receive with vadMode := .on } },
      warnings ++ [kerchunkWarning document source receiveSection])

/-- What the resolver accepts: its last two steps, on any values of the settings. -/
def Accepted (config : StationConfig F) : Prop :=
  ∃ (parsed : StationConfig F) (document : ConfigDocument) (source receiveSection : Str)
    (warnings : List ResolutionWarning),
    (parsed.normalizeVad document source receiveSection warnings).1 = config ∧
      config.validate = .ok ()

/-- The cross-field rules of a station. -/
structure Ruled (config : StationConfig F) : Prop where
  valid : config.validate = .ok ()
  vad : config.receive.vadMode = .off ∨ config.receive.cosAssignment ≠ .disabled
  kerchunk : config.receive.vadMode = .kerchunk →
    config.carrierGate = true ∨ config.toneGate = true

theorem cosAssignment_withCarrier (config : StationConfig F) :
    config.withCarrier.receive.cosAssignment ≠ .disabled := by
  unfold withCarrier
  split
  · simp
  · assumption

theorem vadMode_withCarrier (config : StationConfig F) :
    config.withCarrier.receive.vadMode = config.receive.vadMode := by
  unfold withCarrier
  split <;> rfl

/-- The gates of the configuration stay: the open carrier is no gate. -/
theorem gates_withCarrier (config : StationConfig F) :
    config.withCarrier.carrierGate = config.carrierGate ∧
      config.withCarrier.toneGate = config.toneGate := by
  unfold withCarrier
  split
  · next h => exact ⟨by simp [carrierGate, h], rfl⟩
  · exact ⟨rfl, rfl⟩

theorem Accepted.ruled {config : StationConfig F} (h : config.Accepted) : config.Ruled := by
  obtain ⟨parsed, document, source, receiveSection, warnings, rfl, hvalid⟩ := h
  refine ⟨hvalid, ?_, ?_⟩ <;> clear hvalid <;> unfold normalizeVad <;> split
  · next hoff => exact .inl hoff
  · split
    · exact .inr (cosAssignment_withCarrier parsed)
    · exact .inr (cosAssignment_withCarrier parsed)
  · next hoff => exact fun hkerchunk => absurd (hoff.symm.trans hkerchunk) (by decide)
  · split
    · next hgates =>
      intro hkerchunk
      rw [vadMode_withCarrier] at hkerchunk
      rw [(gates_withCarrier parsed).1, (gates_withCarrier parsed).2]
      exact hgates.resolve_left (not_not.mpr hkerchunk)
    · exact fun hkerchunk => by cases hkerchunk

/-! ## One tune -/

/-- An output carries signaling. -/
def carriesSignaling (self : StationConfig F) : Bool :=
  self.hardware.outputAAssignment.carriesSignaling ||
    self.hardware.outputBAssignment.carriesSignaling

theorem validate_eq_ok {config : StationConfig F} : config.validate = .ok () ↔
    (config.receive.signalingMethod = .ctcss → config.ctcss.receiveSource ≠ .disabled) ∧
      (config.receive.signalingMethod = .ctcss → config.transmit.signalingMethod = .ctcss →
        config.ctcss.receiveFrequencies.length = config.ctcss.transmitFrequencies.length) ∧
      (config.transmit.signalingMethod ≠ .carrier → config.carriesSignaling = true) := by
  have hmethod : (config.transmit.signalingMethod = .ctcss ∨
      config.transmit.signalingMethod = .dcs) ↔ config.transmit.signalingMethod ≠ .carrier := by
    cases config.transmit.signalingMethod <;> simp
  unfold validate carriesSignaling
  rw [← hmethod]
  split
  · next h => exact iff_of_false nofun fun hvalid => hvalid.1 h.1 h.2
  · next hsource =>
    have hsource := not_and.mp hsource
    split
    · next h => exact iff_of_false nofun fun hvalid => h.2.2 (hvalid.2.1 h.1 h.2.1)
    · next hlength =>
      have hlength : config.receive.signalingMethod = .ctcss →
          config.transmit.signalingMethod = .ctcss →
          config.ctcss.receiveFrequencies.length = config.ctcss.transmitFrequencies.length :=
        fun hreceive htransmit => not_not.mp fun hne => hlength ⟨hreceive, htransmit, hne⟩
      split
      · next h =>
        obtain ⟨hactive, ha, hb⟩ := h
        refine iff_of_false nofun fun hvalid => ?_
        rw [Bool.not_eq_true'] at ha hb
        have hcarries := hvalid.2.2 hactive
        rw [ha, hb] at hcarries
        cases hcarries
      · next hroute =>
        refine iff_of_true rfl ⟨hsource, hlength, fun hne => ?_⟩
        simpa [hne, Bool.or_eq_true, or_iff_not_imp_left] using hroute

end StationConfig

namespace RemotePlan

open StationConfig

variable {dbToLinear : F → F} {H R : Type} [DecidableEq H] [DecidableEq R]
  {plan plan' : RemotePlan dbToLinear H R} {selection : Selection} {state : RemoteOperatingState}
  {externalDecode : SubaudibleSource}

/-- What a remote owner calls on a plan. -/
inductive Retuning where
  | carrier (carrier : CarrierSource)
  | signaling (state : RemoteOperatingState) (externalDecode : SubaudibleSource)

/-- The plan behind a call that returns `Ok`. -/
def retune (plan : RemotePlan dbToLinear H R) : Retuning → Option (RemotePlan dbToLinear H R)
  | .carrier carrier => some (plan.withRemoteCarrier carrier)
  | .signaling state externalDecode =>
    match plan.withRemoteSignaling state externalDecode with
    | .ok plan => some plan
    | .error _ => none

/-- The state transmits a tone or a code of the DSP. -/
def encodes (state : RemoteOperatingState) : Bool :=
  state.encode.enabled && state.encode.source == .dsp

/-- The tune keeps the rules of the configuration. -/
def KeepsRules (plan : RemotePlan dbToLinear H R) : Retuning → Prop
  | .carrier carrier =>
    (plan.configuration.receive.vadMode = .off ∨ carrier ≠ .disabled) ∧
      (plan.configuration.receive.vadMode = .kerchunk →
        (carrier ≠ .disabled ∧ carrier ≠ .open) ∨ plan.configuration.toneGate = true)
  | .signaling state _ =>
    (encodes state = true → plan.configuration.carriesSignaling = true) ∧
      (plan.configuration.receive.vadMode = .kerchunk → plan.configuration.carrierGate = true ∨
        (state.decode.enabled = true ∧ plan.configuration.ctcss.receiveOverrideEnabled = false))

theorem ruled_withRemoteCarrier {carrier : CarrierSource} (h : plan.configuration.Ruled) :
    (plan.withRemoteCarrier carrier).configuration.Ruled ↔ KeepsRules plan (.carrier carrier) := by
  have hgate : (plan.withRemoteCarrier carrier).configuration.carrierGate = true ↔
      carrier ≠ .disabled ∧ carrier ≠ .open := by
    simp [StationPlan.withRemoteCarrier, carrierSettings, carrierGate]
  constructor
  · intro hruled
    exact ⟨hruled.vad, fun hkerchunk => (hruled.kerchunk hkerchunk).imp hgate.mp id⟩
  · rintro ⟨hvad, hkerchunk⟩
    exact ⟨h.valid, hvad, fun hmode => (hkerchunk hmode).imp hgate.mpr id⟩

/-- What a selection leaves of the values that the rules read. -/
theorem kept_withSelection (plan : RemotePlan dbToLinear H R) (selection : Selection) (state : RemoteOperatingState) :
    let configuration := (plan.withSelection selection state).configuration
    configuration.receive.vadMode = plan.configuration.receive.vadMode ∧
      configuration.carrierGate = plan.configuration.carrierGate ∧
      configuration.carriesSignaling = plan.configuration.carriesSignaling ∧
      configuration.ctcss.receiveOverrideEnabled =
        plan.configuration.ctcss.receiveOverrideEnabled := by
  obtain ⟨decode, qualification, encode⟩ := selection
  rcases decode with _ | ⟨_ | _, _⟩ <;> rcases encode with _ | _ | _ <;>
    exact ⟨rfl, rfl, rfl, rfl⟩

/-- The lists of the two directions have the same length behind a selection of both. -/
theorem length_withSelection (selection : Selection) (state : RemoteOperatingState)
    (hmethod : transmitMethod selection.encode = .ctcss) :
    (plan.withSelection selection state).configuration.ctcss.receiveFrequencies.length =
      (plan.withSelection selection state).configuration.ctcss.transmitFrequencies.length := by
  obtain ⟨decode, qualification, encode⟩ := selection
  rcases encode with _ | _ | _
  · cases hmethod
  · rcases decode with _ | ⟨_ | _, _⟩ <;> exact (List.length_replicate ..).symm
  · cases hmethod

theorem receiveSource_withSelection (plan : RemotePlan dbToLinear H R)
    (hselect : select state externalDecode = .ok selection) :
    (plan.withSelection selection state).configuration.receive.signalingMethod = .ctcss →
      (plan.withSelection selection state).configuration.ctcss.receiveSource ≠ .disabled := by
  intro hmethod
  rw [receiveMethod_withSelection] at hmethod
  have hcase := decodeCase_of_select hselect
  obtain ⟨decode, qualification, encode⟩ := selection
  cases hcase with
  | disabled => cases hmethod
  | dsp selected =>
    cases selected with
    | tone tone => rcases encode with _ | _ | _ <;> exact CtcssSource.noConfusion
    | code code => cases hmethod
  | external selected source _ _ _ hsource =>
    have hne := (externalSource_ne_dsp hsource).2.2.2
    cases selected with
    | tone tone => rcases encode with _ | _ | _ <;> exact hne
    | code code => cases hmethod

theorem toneGate_withSelection (plan : RemotePlan dbToLinear H R)
    (hselect : select state externalDecode = .ok selection) :
    (plan.withSelection selection state).configuration.toneGate = true ↔
      state.decode.enabled = true ∧ plan.configuration.ctcss.receiveOverrideEnabled = false := by
  have hsource := receiveSource_withSelection plan hselect
  have hoverride := (kept_withSelection plan selection state).2.2.2
  have hmethod : (plan.withSelection selection state).configuration.receive.signalingMethod ≠
      .carrier ↔ state.decode.enabled = true := by
    rw [receiveMethod_withSelection]
    have hcase := decodeCase_of_select hselect
    obtain ⟨decode, qualification, encode⟩ := selection
    cases hcase with
    | disabled henabled => simp [receiveMethod, henabled]
    | dsp selected henabled => cases selected <;> simp [receiveMethod, henabled]
    | external selected source henabled => cases selected <;> simp [receiveMethod, henabled]
  unfold toneGate
  rw [hoverride, ← hmethod]
  rcases hreceive : (plan.withSelection selection state).configuration.receive.signalingMethod
  · simp
  · simp [hsource hreceive]
  · simp

theorem transmitMethod_ne_carrier (hselect : select state externalDecode = .ok selection) :
    transmitMethod selection.encode ≠ .carrier ↔ encodes state = true := by
  unfold select at hselect
  split at hselect
  · cases hselect
  · cases hencode : selectEncode state.encode with
    | error e => rw [hencode] at hselect; cases hselect
    | ok encode =>
      rw [hencode] at hselect
      obtain rfl := Except.ok.inj hselect
      unfold selectEncode at hencode
      unfold encodes
      split at hencode
      · next hencodes =>
        rw [hencodes]
        cases hsquelch : squelch state.encode with
        | error e => rw [hsquelch] at hencode; cases hencode
        | ok selected =>
          rw [hsquelch] at hencode
          obtain rfl := Except.ok.inj hencode
          cases selected <;> simp [transmitMethod]
      · next hencodes =>
        split at hencode
        · cases hencode
        · obtain rfl := Except.ok.inj hencode
          simp [transmitMethod, hencodes]

theorem ruled_withSelection (h : plan.configuration.Ruled)
    (hselect : select state externalDecode = .ok selection) :
    (plan.withSelection selection state).configuration.Ruled ↔
      KeepsRules plan (.signaling state externalDecode) := by
  obtain ⟨hvadMode, hcarrier, hcarries, -⟩ := kept_withSelection plan selection state
  have htone := toneGate_withSelection plan hselect
  have hencodes := transmitMethod_ne_carrier hselect
  have hvalid : (plan.withSelection selection state).configuration.validate = .ok () ↔
      (encodes state = true → plan.configuration.carriesSignaling = true) := by
    rw [validate_eq_ok, hcarries, transmitMethod_withSelection, hencodes]
    exact ⟨fun hall => hall.2.2, fun hroute =>
      ⟨receiveSource_withSelection plan hselect, fun _ => length_withSelection selection state, hroute⟩⟩
  constructor
  · intro hruled
    refine ⟨hvalid.mp hruled.valid, fun hmode => ?_⟩
    have hgate := hruled.kerchunk (hvadMode.trans hmode)
    rw [hcarrier, htone] at hgate
    exact hgate
  · rintro ⟨hroute, hkerchunk⟩
    refine ⟨hvalid.mpr hroute, ?_, fun hmode => ?_⟩
    · rw [hvadMode, cosAssignment_withSelection]
      exact h.vad
    · rw [hcarrier, htone]
      exact hkerchunk (hvadMode.symm.trans hmode)

/-! ## Runs of tunes -/

/-- The tunes of a plan that was accepted. -/
def retunings (dbToLinear : F → F) (H R : Type) [DecidableEq H] [DecidableEq R] :
    Sys.System (RemotePlan dbToLinear H R) Retuning where
  init plan := plan.configuration.Accepted
  step := retune

/-- A tune that returns `Ok` keeps the rules exactly where it meets `KeepsRules`. -/
theorem ruled_retune {retuning : Retuning} (h : plan.configuration.Ruled)
    (hstep : retune plan retuning = some plan') :
    plan'.configuration.Ruled ↔ KeepsRules plan retuning := by
  cases retuning with
  | carrier carrier =>
    obtain rfl := Option.some.inj hstep
    exact ruled_withRemoteCarrier h
  | signaling state externalDecode =>
    cases hok : plan.withRemoteSignaling state externalDecode with
    | error e => simp [retune, hok] at hstep
    | ok next =>
      simp only [retune, hok, Option.some.injEq] at hstep
      obtain ⟨selection, hselect, -, rfl⟩ := withRemoteSignaling_eq_ok.mp hok
      obtain rfl := hstep
      exact ruled_withSelection h hselect

/-- **Remote tunes keep the rules of a station** exactly where every tune keeps them. -/
theorem ruled_iff {last : RemotePlan dbToLinear H R} {retunes : List Retuning}
    (haccepted : (retunings dbToLinear H R).init plan)
    (hrun : (retunings dbToLinear H R).run plan retunes = some last) :
    (retunings dbToLinear H R).Always (fun plan => plan.configuration.Ruled) plan retunes ↔
      (retunings dbToLinear H R).Meets KeepsRules plan retunes :=
  Sys.System.always_iff_meets (fun _ _ _ h hstep => ruled_retune h hstep)
    (Accepted.ruled haccepted) hrun

/-- An output of `rawPlan` is plain voice, so it cannot carry the tone that is transmitted. -/
def toneEncoded : RemoteOperatingState where
  mode := 1
  encode := {
    source := .dsp, enabled := true, toneTenthsHz := 1000, dcsCode := 0, inverted := false }
  decode := {
    source := .disabled, enabled := false, toneTenthsHz := 0, dcsCode := 0, inverted := false }

theorem accepted_rawPlan : rawPlan.configuration.Accepted :=
  ⟨rawPlan.configuration, ⟨[]⟩, [], [], [], rfl, rfl⟩

/-- A decoded tone and another carrier keep the rules. -/
theorem ruled_of_tones : ∃ last,
    (retunings (id : Unit → Unit) Unit Unit).run rawPlan
      [.signaling toneDecoded .disabled, .carrier .usb] = some last ∧
    ((retunings (id : Unit → Unit) Unit Unit).Always (fun plan => plan.configuration.Ruled) rawPlan
        [.signaling toneDecoded .disabled, .carrier .usb] ↔
      (retunings (id : Unit → Unit) Unit Unit).Meets KeepsRules rawPlan
        [.signaling toneDecoded .disabled, .carrier .usb]) :=
  ⟨_, rfl, ruled_iff accepted_rawPlan rfl⟩

/-- A tone is transmitted though no output carries it. -/
theorem not_ruled : ∃ last, (retunings (id : Unit → Unit) Unit Unit).init rawPlan ∧
    (retunings (id : Unit → Unit) Unit Unit).run rawPlan [.signaling toneEncoded .disabled] =
      some last ∧
    last.configuration.validate = .error .missingTransmitSignalingRoute ∧
    ¬ last.configuration.Ruled :=
  ⟨_, accepted_rawPlan, rfl, rfl, fun h => absurd h.valid nofun⟩

end RemotePlan
end Station
end UsbRadioPlus
