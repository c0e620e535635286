import Mathlib.Tactic.ByContra
import UsbRadioPlus.Station.RemotePlan

/-!
# Remote signaling does not depend on its history

A sequence of operating states leaves the signaling of its last state (`SameSignaling`), but for the
notch mask: a state without a DSP tone empties the mask, and where the local profile selects no
notch, an empty mask stays empty (`NotchKept`).

A state is first read for itself (`Selection`), and what it selects is then applied to the settings of
a plan (`signalingSettings_eq`).
-/

namespace UsbRadioPlus
namespace Station

variable {F : Type} {dbToLinear : F → F}

/-! ## What a state selects -/

/-- A tone or a code. -/
inductive Squelch where
  | tone (tone : CtcssTone)
  | code (code : DcsCode)

/-- What a state selects in both directions. -/
structure Selection where
  decode : Option (Squelch × CtcssSource)
  qualification : SubaudibleSource
  encode : Option Squelch

/-- The tone or the code of a signal. -/
def squelch (signal : RemoteSignal) : Except RadioError Squelch :=
  if signal.toneTenthsHz ≠ 0 then (tone signal.toneTenthsHz).map .tone
  else (dcs signal).map .code

/-- What the station decodes, and what it is told. -/
def selectDecode (decode : RemoteSignal) (externalDecode : SubaudibleSource) :
    Except RadioError (Option (Squelch × CtcssSource) × SubaudibleSource) :=
  if !decode.enabled then .ok (none, .disabled)
  else match squelch decode with
    | .error e => .error e
    | .ok selected => match decode.source with
      | .dsp => .ok (some (selected, .dsp), .dsp)
      | .external => (externalSource externalDecode).map fun source =>
        (some (selected, source), externalDecode)
      | _ => .error .invalidArgument

/-- What the station encodes. -/
def selectEncode (encode : RemoteSignal) : Except RadioError (Option Squelch) :=
  if encode.enabled && encode.source == .dsp then (squelch encode).map some
  else if encode.enabled && !(encode.source == .external || encode.source == .rig) then
    .error .invalidArgument
  else .ok none

namespace StationConfig

variable (self : StationConfig F)

/-- The configuration with a decoder. -/
def decodeWith : Option (Squelch × CtcssSource) → StationConfig F
  | none => self
  | some (.tone tone, source) => { self with
      ctcss := { self.ctcss with receiveFrequencies := [tone], receiveSource := source }
      receive := { self.receive with signalingMethod := .ctcss } }
  | some (.code code, source) => { self with
      ctcss := { self.ctcss with receiveSource := source }
      dcs := { self.dcs with receiveCode := code }
      receive := { self.receive with signalingMethod := .dcs } }

/-- The configuration with an encoder. -/
def encodeWith : Option Squelch → StationConfig F
  | none => self
  | some (.tone tone) => { self with
      ctcss := { self.ctcss with
        transmitDefault := tone
        transmitFrequencies := List.replicate self.ctcss.receiveFrequencies.length tone }
      transmit := { self.transmit with signalingMethod := .ctcss } }
  | some (.code code) => { self with
      dcs := { self.dcs with transmitCode := code }
      transmit := { self.transmit with signalingMethod := .dcs } }

end StationConfig

theorem applyDecode_eq (station : StationConfig F) (decode : RemoteSignal)
    (externalDecode : SubaudibleSource) : applyDecode station decode externalDecode =
      (selectDecode decode externalDecode).map fun selected =>
        (station.decodeWith selected.1, selected.2) := by
  unfold applyDecode selectDecode squelch
  cases decode.enabled with
  | false => rfl
  | true =>
    simp only [Bool.not_true, Bool.false_eq_true, if_false]
    by_cases htone : decode.toneTenthsHz ≠ 0
    · rw [if_pos htone, if_pos htone]
      cases tone decode.toneTenthsHz with
      | error e => rfl
      | ok selected =>
        cases decode.source <;> try rfl
        cases externalSource externalDecode <;> rfl
    · rw [if_neg htone, if_neg htone]
      cases dcs decode with
      | error e => rfl
      | ok code =>
        cases decode.source <;> try rfl
        cases externalSource externalDecode <;> rfl

theorem applyEncode_eq (station : StationConfig F) (encode : RemoteSignal) :
    applyEncode station encode = (selectEncode encode).map station.encodeWith := by
  unfold applyEncode selectEncode squelch
  split
  · split
    · cases tone encode.toneTenthsHz <;> rfl
    · cases dcs encode <;> rfl
  · split <;> rfl

/-- The settings with a selection. -/
def applySelection (dbToLinear : F → F) (selection : Selection) (mode : Nat)
    (transport : ControllerTransport) : Settings F → Settings F
  | (configuration, radio, processing) =>
    let configuration :=
      ((withoutSignaling configuration).decodeWith selection.decode).encodeWith selection.encode
    let receive :=
      if selection.qualification = .dsp then receiveSignaling configuration else .disabled
    let transmit := transmitSignaling dbToLinear configuration
    (configuration,
      { radio with
        generationId := radio.generationId + 1
        receiveSignaling := receive
        subaudibleSource := selection.qualification
        transmitSignaling := transmit
        advancedTransport := isFm mode && transport == .rptAdvanced },
      { processing with
        receiveInputGain := radio.receiveInputGain
        receiveDeemphasis := isFm mode && configuration.receive.audioSource == .flat
        transmitPreemphasis := isFm mode && configuration.transmit.preemphasisEnabled
        receiveCtcssMask := notchMask receive processing
        transmitDcs := match transmit with
          | .dcs _ => true
          | _ => false })

/-- What a state selects; the settings decide nothing about it. -/
def select (state : RemoteOperatingState) (externalDecode : SubaudibleSource) :
    Except RadioError Selection :=
  match selectDecode state.decode externalDecode with
  | .error e => .error e
  | .ok (decode, qualification) =>
    (selectEncode state.encode).map fun encode => ⟨decode, qualification, encode⟩

theorem signalingSettings_eq (dbToLinear : F → F) (state : RemoteOperatingState) (externalDecode : SubaudibleSource)
    (transport : ControllerTransport) (settings : Settings F) :
    signalingSettings dbToLinear state externalDecode transport settings =
      match select state externalDecode with
      | .error e => .error e
      | .ok selection =>
        if settings.2.1.generationId + 1 < WORD then
          .ok (applySelection dbToLinear selection state.mode transport settings)
        else .error .invalidArgument := by
  obtain ⟨configuration, radio, processing⟩ := settings
  unfold signalingSettings select
  simp only [applyDecode_eq, applyEncode_eq]
  cases selectDecode state.decode externalDecode with
  | error e => rfl
  | ok decode =>
    cases selectEncode state.encode with
    | error e => rfl
    | ok encode =>
      simp only [Except.map, bind, Except.bind]
      split <;> rfl

/-! ## What a selection leaves -/

/-- The settings agree on what no selection writes. -/
structure SameBase (a b : Settings F) : Prop where
  audioSource : a.1.receive.audioSource = b.1.receive.audioSource
  preemphasis : a.1.transmit.preemphasisEnabled = b.1.transmit.preemphasisEnabled
  relax : a.1.ctcss.receiveRelax = b.1.ctcss.receiveRelax
  ctcssPeak : a.1.ctcss.transmitPeakDbfs = b.1.ctcss.transmitPeakDbfs
  phaseShift : a.1.ctcss.phaseShiftDegrees = b.1.ctcss.phaseShiftDegrees
  tailDuration : a.1.ctcss.tailDurationMs = b.1.ctcss.tailDurationMs
  tailFrequency : a.1.ctcss.tailFrequencyHz = b.1.ctcss.tailFrequencyHz
  turnoffCode : a.1.dcs.turnoffCodeEnabled = b.1.dcs.turnoffCodeEnabled
  turnoffDuration : a.1.dcs.turnoffDurationMs = b.1.dcs.turnoffDurationMs
  dcsPeak : a.1.dcs.peakDbfs = b.1.dcs.peakDbfs
  plFilter : a.2.2.localPlFilter = b.2.2.localPlFilter

theorem SameBase.refl (a : Settings F) : SameBase a a :=
  ⟨rfl, rfl, rfl, rfl, rfl, rfl, rfl, rfl, rfl, rfl, rfl⟩

theorem SameBase.trans {a b c : Settings F} (h : SameBase a b) (h' : SameBase b c) : SameBase a c :=
  ⟨h.audioSource.trans h'.audioSource, h.preemphasis.trans h'.preemphasis, h.relax.trans h'.relax,
    h.ctcssPeak.trans h'.ctcssPeak, h.phaseShift.trans h'.phaseShift,
    h.tailDuration.trans h'.tailDuration, h.tailFrequency.trans h'.tailFrequency,
    h.turnoffCode.trans h'.turnoffCode, h.turnoffDuration.trans h'.turnoffDuration,
    h.dcsPeak.trans h'.dcsPeak, h.plFilter.trans h'.plFilter⟩

variable {selection : Selection} {mode : Nat} {transport : ControllerTransport} {a b : Settings F}

theorem sameBase_applySelection (selection : Selection) (mode : Nat)
    (transport : ControllerTransport) (a : Settings F) :
    SameBase (applySelection dbToLinear selection mode transport a) a := by
  obtain ⟨decode, qualification, encode⟩ := selection
  rcases decode with _ | ⟨_ | _, _⟩ <;> rcases encode with _ | _ | _ <;>
    exact ⟨rfl, rfl, rfl, rfl, rfl, rfl, rfl, rfl, rfl, rfl, rfl⟩

/-- The decoder of a selection. -/
def Selection.receive (selection : Selection) (relax : Nat) : ReceiveSignaling :=
  if selection.qualification = .dsp then match selection.decode with
    | none => .disabled
    | some (.tone tone, source) =>
      if source = .dsp then .ctcss (receiveToneMask [tone]) (relax != 0) else .disabled
    | some (.code code, _) => .dcs code.value code.inverted
  else .disabled

theorem receiveSignaling_applySelection (dbToLinear : F → F) (selection : Selection) (mode : Nat)
    (transport : ControllerTransport) (a : Settings F) :
    (applySelection dbToLinear selection mode transport a).2.1.receiveSignaling =
      selection.receive a.1.ctcss.receiveRelax := by
  obtain ⟨decode, qualification, encode⟩ := selection
  rcases decode with _ | ⟨_ | _, _⟩ <;> rcases encode with _ | _ | _ <;> rfl

/-- The transmit tone that the map selects for a receive tone. -/
def CtcssTransmitConfig.selected (config : CtcssTransmitConfig F) (i : Fin CTCSS_TONE_COUNT) : Nat :=
  if config.mappedFrequenciesTenthsHz i = 0 then config.defaultFrequencyTenthsHz
  else config.mappedFrequenciesTenthsHz i

/-- The receiver decodes this tone. -/
def ReceiveSignaling.Decodes (signaling : ReceiveSignaling) (i : Fin CTCSS_TONE_COUNT) : Prop :=
  ∃ tones relaxed, signaling = .ctcss tones relaxed ∧ tones.getLsbD i.val = true

/-- The same tone or code is transmitted, with the same levels and tails. For a decoded tone the maps
have the same entry; an entry that is missing stands for the default. -/
def SameTransmit (receive : ReceiveSignaling) : TransmitSignaling F → TransmitSignaling F → Prop
  | .disabled, .disabled => True
  | .ctcss c, .ctcss d => c.defaultFrequencyTenthsHz = d.defaultFrequencyTenthsHz ∧
      c.peak = d.peak ∧ c.turnoffDurationMilliseconds = d.turnoffDurationMilliseconds ∧
      c.turnoffPhaseShiftDegrees = d.turnoffPhaseShiftDegrees ∧
      c.turnoffTailToneHz = d.turnoffTailToneHz ∧
      (∀ i, receive.Decodes i →
        c.mappedFrequenciesTenthsHz i = d.mappedFrequenciesTenthsHz i) ∧
      ∀ i, c.selected i = d.selected i
  | .dcs c, .dcs d => c = d
  | _, _ => False

/-- The resulting signaling is the same. -/
structure SameSignaling (a b : Settings F) : Prop where
  receive : a.2.1.receiveSignaling = b.2.1.receiveSignaling
  qualification : a.2.1.subaudibleSource = b.2.1.subaudibleSource
  transmit : SameTransmit b.2.1.receiveSignaling a.2.1.transmitSignaling b.2.1.transmitSignaling
  deemphasis : a.2.2.receiveDeemphasis = b.2.2.receiveDeemphasis
  preemphasis : a.2.2.transmitPreemphasis = b.2.2.transmitPreemphasis
  notch : a.2.2.receiveCtcssMask = b.2.2.receiveCtcssMask

/-- A map to one tone has only this tone. -/
theorem mappedFrequencies_replicate (receive : List CtcssTone) (tone : CtcssTone)
    (i : Fin CTCSS_TONE_COUNT) :
    mappedFrequencies receive (List.replicate receive.length tone) i = 0 ∨
      mappedFrequencies receive (List.replicate receive.length tone) i = tone.tenthsHz := by
  unfold mappedFrequencies
  suffices h : ∀ mapped : Fin CTCSS_TONE_COUNT → Nat, (mapped i = 0 ∨ mapped i = tone.tenthsHz) →
      let result := (receive.zip (List.replicate receive.length tone)).foldl
        (fun mapped pair => Function.update mapped pair.1.tableIndex pair.2.tenthsHz) mapped
      result i = 0 ∨ result i = tone.tenthsHz from h _ (.inl rfl)
  induction receive with
  | nil => exact fun _ h => h
  | cons first rest ih =>
    intro mapped h
    rw [List.length_cons, List.replicate_succ, List.zip_cons_cons, List.foldl_cons]
    refine ih _ ?_
    by_cases hi : i = first.tableIndex
    · subst hi
      exact .inr (Function.update_self ..)
    · rw [Function.update_of_ne hi]
      exact h

theorem selected_replicate {config : CtcssTransmitConfig F} {receive : List CtcssTone}
    {tone : CtcssTone} (hdefault : config.defaultFrequencyTenthsHz = tone.tenthsHz)
    (hmap : config.mappedFrequenciesTenthsHz =
      mappedFrequencies receive (List.replicate receive.length tone)) (i : Fin CTCSS_TONE_COUNT) :
    config.selected i = tone.tenthsHz := by
  unfold CtcssTransmitConfig.selected
  rw [hmap, hdefault]
  split
  · rfl
  · next hne => exact (mappedFrequencies_replicate receive tone i).resolve_left hne

/-- One selection, on settings with the same base: everything but the notch mask agrees. -/
theorem sameSignaling_applySelection (h : SameBase a b) (hnotch :
    (applySelection dbToLinear selection mode transport a).2.2.receiveCtcssMask =
      (applySelection dbToLinear selection mode transport b).2.2.receiveCtcssMask) :
    SameSignaling (applySelection dbToLinear selection mode transport a)
      (applySelection dbToLinear selection mode transport b) := by
  obtain ⟨decode, qualification, encode⟩ := selection
  have hreceive : (applySelection dbToLinear ⟨decode, qualification, encode⟩ mode transport
      a).2.1.receiveSignaling = (applySelection dbToLinear ⟨decode, qualification, encode⟩ mode
        transport b).2.1.receiveSignaling := by
    rw [receiveSignaling_applySelection, receiveSignaling_applySelection, h.relax]
  refine ⟨hreceive, rfl, ?_, ?_, ?_, hnotch⟩
  · rcases encode with _ | tone | code
    · rcases decode with _ | ⟨_ | _, _⟩ <;> trivial
    · -- only a decoded tone has an entry that has to agree, and then both maps have just this tone
      rcases decode with _ | ⟨received | code, source⟩
      · refine ⟨rfl, congrArg dbToLinear h.ctcssPeak, h.tailDuration, h.phaseShift,
          h.tailFrequency, fun i hi => ?_, fun i => ?_⟩
        · obtain ⟨tones, relaxed, heq, -⟩ := hi
          simp [applySelection, receiveSignaling, StationConfig.decodeWith,
            StationConfig.encodeWith, withoutSignaling] at heq
        · exact (selected_replicate rfl rfl i).trans (selected_replicate rfl rfl i).symm
      · exact ⟨rfl, congrArg dbToLinear h.ctcssPeak, h.tailDuration, h.phaseShift,
          h.tailFrequency, fun i _ => rfl,
          fun i => (selected_replicate rfl rfl i).trans (selected_replicate rfl rfl i).symm⟩
      · refine ⟨rfl, congrArg dbToLinear h.ctcssPeak, h.tailDuration, h.phaseShift,
          h.tailFrequency, fun i hi => ?_, fun i => ?_⟩
        · obtain ⟨tones, relaxed, heq, -⟩ := hi
          simp only [applySelection, receiveSignaling, StationConfig.decodeWith,
            StationConfig.encodeWith, withoutSignaling] at heq
          split at heq <;> cases heq
        · exact (selected_replicate rfl rfl i).trans (selected_replicate rfl rfl i).symm
    · rcases decode with _ | ⟨_ | _, _⟩ <;>
        simp [applySelection, transmitSignaling, StationConfig.decodeWith,
          StationConfig.encodeWith, withoutSignaling, SameTransmit, h.dcsPeak, h.turnoffCode,
          h.turnoffDuration]
  · rcases decode with _ | ⟨_ | _, _⟩ <;> rcases encode with _ | _ | _ <;>
      simp [applySelection, StationConfig.decodeWith, StationConfig.encodeWith, withoutSignaling,
        h.audioSource]
  · rcases decode with _ | ⟨_ | _, _⟩ <;> rcases encode with _ | _ | _ <;>
      simp [applySelection, StationConfig.decodeWith, StationConfig.encodeWith, withoutSignaling,
        h.preemphasis]

/-! ## Selections of a state -/

/-- The state decodes a tone by DSP. -/
def RemoteOperatingState.decodesTone (state : RemoteOperatingState) : Bool :=
  state.decode.enabled && state.decode.source == .dsp && state.decode.toneTenthsHz != 0

theorem squelch_tone {signal : RemoteSignal} {selected : Squelch} (h : squelch signal = .ok selected) :
    (signal.toneTenthsHz ≠ 0 → ∃ tone, selected = .tone tone) ∧
      (signal.toneTenthsHz = 0 → ∃ code, selected = .code code) := by
  unfold squelch at h
  split at h
  · next hne =>
    refine ⟨fun _ => ?_, fun hzero => absurd hzero hne⟩
    cases htone : tone signal.toneTenthsHz with
    | error e => rw [htone] at h; cases h
    | ok tone => rw [htone] at h; exact ⟨tone, (Except.ok.inj h).symm⟩
  · next hzero =>
    refine ⟨fun hne => absurd hne hzero, fun _ => ?_⟩
    cases hcode : dcs signal with
    | error e => rw [hcode] at h; cases h
    | ok code => rw [hcode] at h; exact ⟨code, (Except.ok.inj h).symm⟩

theorem externalSource_ne_dsp {externalDecode : SubaudibleSource} {source : CtcssSource}
    (h : externalSource externalDecode = .ok source) :
    externalDecode ≠ .dsp ∧ externalDecode ≠ .disabled ∧ source ≠ .dsp ∧ source ≠ .disabled := by
  cases externalDecode <;> cases h <;> decide

/-- What `selectDecode` selects. -/
inductive DecodeCase (decode : RemoteSignal) (externalDecode : SubaudibleSource) :
    Option (Squelch × CtcssSource) → SubaudibleSource → Prop
  | disabled : decode.enabled = false → DecodeCase decode externalDecode none .disabled
  | dsp (selected : Squelch) : decode.enabled = true → decode.source = .dsp →
    squelch decode = .ok selected → DecodeCase decode externalDecode (some (selected, .dsp)) .dsp
  | external (selected : Squelch) (source : CtcssSource) : decode.enabled = true →
    decode.source = .external → squelch decode = .ok selected →
    externalSource externalDecode = .ok source →
    DecodeCase decode externalDecode (some (selected, source)) externalDecode

theorem decodeCase_of_select {state : RemoteOperatingState} {externalDecode : SubaudibleSource}
    (h : select state externalDecode = .ok selection) :
    DecodeCase state.decode externalDecode selection.decode selection.qualification := by
  unfold select at h
  split at h
  · cases h
  · next decode qualification hdecode =>
    have hselection : selection.decode = decode ∧ selection.qualification = qualification := by
      cases hencode : selectEncode state.encode with
      | error e => rw [hencode] at h; cases h
      | ok encode =>
        rw [hencode] at h
        obtain rfl := Except.ok.inj h
        exact ⟨rfl, rfl⟩
    rw [hselection.1, hselection.2]
    unfold selectDecode at hdecode
    cases henabled : state.decode.enabled with
    | false =>
      rw [henabled] at hdecode
      obtain ⟨rfl, rfl⟩ := Prod.mk.inj (Except.ok.inj hdecode)
      exact .disabled henabled
    | true =>
      rw [henabled] at hdecode
      cases hsquelch : squelch state.decode with
      | error e => rw [hsquelch] at hdecode; cases hdecode
      | ok selected =>
        rw [hsquelch] at hdecode
        cases hsource : state.decode.source <;> rw [hsource] at hdecode
        case dsp =>
          obtain ⟨rfl, rfl⟩ := Prod.mk.inj (Except.ok.inj hdecode)
          exact .dsp selected henabled hsource hsquelch
        case external =>
          cases hexternal : externalSource externalDecode with
          | error e => simp [hexternal, Except.map] at hdecode
          | ok source =>
            simp only [hexternal, Except.map, Bool.not_true, Bool.false_eq_true, if_false] at hdecode
            obtain ⟨rfl, rfl⟩ := Prod.mk.inj (Except.ok.inj hdecode)
            exact .external selected source henabled hsource hsquelch hexternal
        all_goals simp at hdecode

/-- The decoder runs exactly where the qualification is DSP. -/
theorem receive_ne_disabled {state : RemoteOperatingState} {externalDecode : SubaudibleSource}
    (h : select state externalDecode = .ok selection) (relax : Nat) :
    selection.receive relax ≠ .disabled ↔ selection.qualification = .dsp := by
  have hcase := decodeCase_of_select h
  obtain ⟨decode, qualification, encode⟩ := selection
  unfold Selection.receive
  cases hcase with
  | disabled => simp
  | dsp selected => cases selected <;> simp
  | external selected source _ _ _ hsource => simp [(externalSource_ne_dsp hsource).1]

/-- A tone that is decoded by DSP is the only one of its mask. -/
theorem receive_of_decodesTone {state : RemoteOperatingState} {externalDecode : SubaudibleSource}
    (h : select state externalDecode = .ok selection) (relax : Nat) :
    (state.decodesTone = true →
      ∃ tone, selection.receive relax = .ctcss (receiveToneMask [tone]) (relax != 0)) ∧
    (state.decodesTone = false →
      ∀ tones relaxed, selection.receive relax ≠ .ctcss tones relaxed) := by
  have hcase := decodeCase_of_select h
  obtain ⟨decode, qualification, encode⟩ := selection
  unfold Selection.receive RemoteOperatingState.decodesTone
  cases hcase with
  | disabled henabled => simp [henabled]
  | dsp selected henabled hsource hsquelch =>
    obtain ⟨htone, hcode⟩ := squelch_tone hsquelch
    by_cases hzero : state.decode.toneTenthsHz = 0
    · obtain ⟨code, rfl⟩ := hcode hzero
      simp [henabled, hsource, hzero]
    · obtain ⟨tone, rfl⟩ := htone hzero
      exact ⟨fun _ => ⟨tone, rfl⟩, fun hfalse => by simp [henabled, hsource, hzero] at hfalse⟩
  | external selected source henabled hsource _ hexternal =>
    simp [henabled, hsource, (externalSource_ne_dsp hexternal).1]

/-- The qualification of a selection is an external decoder that selects the same again. -/
theorem select_qualification {state : RemoteOperatingState} {externalDecode : SubaudibleSource}
    (h : select state externalDecode = .ok selection) :
    select state selection.qualification = .ok selection := by
  have hcase := decodeCase_of_select h
  have hsame : selectDecode state.decode selection.qualification =
      selectDecode state.decode externalDecode := by
    unfold selectDecode
    obtain ⟨decode, qualification, encode⟩ := selection
    cases hcase with
    | disabled henabled => simp [henabled]
    | dsp selected henabled hsource hsquelch => simp [henabled, hsource, hsquelch]
    | external selected source => rfl
  unfold select at h ⊢
  rw [hsame]
  exact h

theorem receiveToneMask_ne_zero (tone : CtcssTone) : receiveToneMask [tone] ≠ 0 := by
  intro h
  have hbit := congrArg (·.getLsbD tone.tableIndex.val) h
  have hlt : tone.tableIndex.val < 64 := Nat.lt_of_lt_of_le tone.tableIndex.isLt (by decide)
  simp [receiveToneMask, hlt] at hbit

/-! ## Sequences of states -/

variable {H R : Type} [DecidableEq H] [DecidableEq R]

/-- Plans with the signaling of `RemotePlan`. -/
abbrev RemotePlan (dbToLinear : F → F) (H R : Type) [DecidableEq H] [DecidableEq R] :=
  StationPlan (signalingParts dbToLinear H R)

namespace RemotePlan

/-- An operating state, with the external decoder of its wiring. -/
abbrev Tuning := RemoteOperatingState × SubaudibleSource

/-- The settings of a plan. -/
def settings (plan : RemotePlan dbToLinear H R) : Settings F :=
  (plan.configuration, plan.radio, plan.processing)

/-- The plan with a selection. -/
def withSelection (plan : RemotePlan dbToLinear H R) (selection : Selection)
    (state : RemoteOperatingState) : RemotePlan dbToLinear H R :=
  let settings := applySelection dbToLinear selection state.mode plan.transport plan.settings
  { plan with
    configuration := settings.1
    radio := settings.2.1
    processing := settings.2.2
    remoteOperating := some state }

/-- A sequence of states, each on the plan of the one before. -/
def withRemoteSignalings (plan : RemotePlan dbToLinear H R) :
    List Tuning → Except (StationPreparationError (signalingParts dbToLinear H R))
      (RemotePlan dbToLinear H R)
  | [] => .ok plan
  | (state, externalDecode) :: rest =>
    match plan.withRemoteSignaling state externalDecode with
    | .error e => .error e
    | .ok plan => withRemoteSignalings plan rest

variable {plan plan' : RemotePlan dbToLinear H R} {state : RemoteOperatingState}
  {externalDecode : SubaudibleSource} {tunings : List Tuning}

theorem withRemoteSignaling_eq_ok : plan.withRemoteSignaling state externalDecode = .ok plan' ↔
    ∃ selection, select state externalDecode = .ok selection ∧
      plan.settings.2.1.generationId + 1 < WORD ∧ plan' = plan.withSelection selection state := by
  have hsettings := signalingSettings_eq dbToLinear state externalDecode
    plan.transport plan.settings
  have hok : ∀ settings, signalingSettings dbToLinear state externalDecode plan.transport
      plan.settings = .ok settings → plan.withRemoteSignaling state externalDecode = .ok { plan with
        configuration := settings.1, radio := settings.2.1, processing := settings.2.2,
        remoteOperating := some state } := by
    intro settings h
    unfold StationPlan.withRemoteSignaling
    rw [show (signalingParts dbToLinear H R).signalingSettings state externalDecode plan.transport
      (plan.configuration, plan.radio, plan.processing) = .ok settings from h]
  have herror : ∀ e, signalingSettings dbToLinear state externalDecode plan.transport
      plan.settings = .error e →
      plan.withRemoteSignaling state externalDecode = .error (.radio e) := by
    intro e h
    unfold StationPlan.withRemoteSignaling
    rw [show (signalingParts dbToLinear H R).signalingSettings state externalDecode plan.transport
      (plan.configuration, plan.radio, plan.processing) = .error e from h]
  cases hselect : select state externalDecode with
  | error e =>
    rw [hselect] at hsettings
    rw [herror e hsettings]
    simp
  | ok selection =>
    rw [hselect] at hsettings
    by_cases hgeneration : plan.settings.2.1.generationId + 1 < WORD
    · rw [hok _ (hsettings.trans (if_pos hgeneration))]
      constructor
      · intro h
        exact ⟨selection, rfl, hgeneration, (Except.ok.inj h).symm⟩
      · rintro ⟨selection', hsame, -, rfl⟩
        obtain rfl := Except.ok.inj hsame
        rfl
    · rw [herror _ (hsettings.trans (if_neg hgeneration))]
      simp [hgeneration]

theorem withRemoteSignalings_append {earlier : List Tuning} {last : Tuning}
    (h : plan.withRemoteSignalings (earlier ++ [last]) = .ok plan') :
    ∃ middle, plan.withRemoteSignalings earlier = .ok middle ∧
      middle.withRemoteSignaling last.1 last.2 = .ok plan' := by
  induction earlier generalizing plan with
  | nil =>
    refine ⟨plan, rfl, ?_⟩
    simp only [List.nil_append, withRemoteSignalings] at h
    split at h
    · cases h
    · next hok =>
      obtain rfl := Except.ok.inj h
      exact hok
  | cons first rest ih =>
    simp only [List.cons_append, withRemoteSignalings] at h ⊢
    split at h
    · cases h
    · exact ih h

/-- The mask behind one state, where the local profile selects no notch. -/
theorem mask_withSelection {selection : Selection} (hselect : select state externalDecode = .ok selection)
    (hnotch : plan.settings.2.2.localPlFilter ≠ some .decodedToneNotch) :
    (plan.withSelection selection state).settings.2.2.receiveCtcssMask ≠ 0 ↔
      plan.settings.2.2.receiveCtcssMask ≠ 0 ∧ state.decodesTone = true := by
  obtain ⟨htone, hnone⟩ := receive_of_decodesTone hselect plan.settings.1.ctcss.receiveRelax
  have hmask : (plan.withSelection selection state).settings.2.2.receiveCtcssMask =
      notchMask (selection.receive plan.settings.1.ctcss.receiveRelax) plan.settings.2.2 :=
    congrArg (notchMask · plan.settings.2.2)
      (receiveSignaling_applySelection dbToLinear selection state.mode plan.transport plan.settings)
  rw [hmask]
  unfold notchMask
  cases hdecodes : state.decodesTone with
  | true =>
    obtain ⟨tone, hreceive⟩ := htone hdecodes
    rw [hreceive]
    by_cases hzero : plan.settings.2.2.receiveCtcssMask = 0
    · simp [hzero, hnotch]
    · simp only [hzero, ne_eq, not_false_eq_true, true_or, if_true, and_self, iff_true]
      exact receiveToneMask_ne_zero tone
  | false =>
    cases hreceive : selection.receive plan.settings.1.ctcss.receiveRelax with
    | ctcss tones relaxed => exact absurd hreceive (hnone hdecodes tones relaxed)
    | disabled => simp
    | dcs code inverted => simp

/-- What a sequence of states keeps. -/
structure Follows (plan plan' : RemotePlan dbToLinear H R) (tunings : List Tuning) : Prop where
  base : SameBase plan'.settings plan.settings
  generation : plan.settings.2.1.generationId ≤ plan'.settings.2.1.generationId
  transport : plan'.transport = plan.transport
  remote : plan'.remote = plan.remote
  mask : plan.settings.2.2.localPlFilter ≠ some .decodedToneNotch →
    (plan'.settings.2.2.receiveCtcssMask ≠ 0 ↔ plan.settings.2.2.receiveCtcssMask ≠ 0 ∧
      ∀ tuning ∈ tunings, tuning.1.decodesTone = true)

theorem follows_of_ok (h : plan.withRemoteSignalings tunings = .ok plan') :
    Follows plan plan' tunings := by
  induction tunings generalizing plan with
  | nil =>
    obtain rfl := Except.ok.inj h
    exact ⟨.refl _, Nat.le_refl _, rfl, rfl, fun _ => by simp⟩
  | cons first rest ih =>
    simp only [withRemoteSignalings] at h
    split at h
    · cases h
    · next next hok =>
      obtain ⟨selection, hselect, -, rfl⟩ := withRemoteSignaling_eq_ok.mp hok
      have hrest := ih h
      have hbase : SameBase (plan.withSelection selection first.1).settings plan.settings :=
        sameBase_applySelection selection first.1.mode plan.transport plan.settings
      refine ⟨hrest.base.trans hbase, Nat.le_trans (Nat.le_succ _) hrest.generation, hrest.transport,
        hrest.remote, fun hnotch => ?_⟩
      rw [hrest.mask (hbase.plFilter ▸ hnotch), mask_withSelection hselect hnotch]
      simp only [List.mem_cons, forall_eq_or_imp, and_assoc]

end RemotePlan
end Station
end UsbRadioPlus
