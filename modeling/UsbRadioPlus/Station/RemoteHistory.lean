import UsbRadioPlus.Station.RemoteSignaling

/-!
# The law of a sequence of operating states

A sequence of states on a plan leaves what its last state alone would leave, exactly where the notch
mask is kept (`historyIndependent_iff`). The method of each direction is one method, the decoder runs
exactly where the qualification is DSP, and a file edit that is not a remote tune takes the live
signaling over.
-/

namespace UsbRadioPlus
namespace Station
namespace RemotePlan

variable {F : Type} {dbToLinear : F → F} {H R : Type} [DecidableEq H] [DecidableEq R]
  {plan live edited : RemotePlan dbToLinear H R} {earlier : List Tuning} {last : Tuning}

/-- The signaling of each direction is the configured method, if any. -/
structure OneMethod (plan : RemotePlan dbToLinear H R) : Prop where
  receiveCtcss : (∃ tones relaxed, plan.radio.receiveSignaling = .ctcss tones relaxed) →
    plan.configuration.receive.signalingMethod = .ctcss
  receiveDcs : (∃ code inverted, plan.radio.receiveSignaling = .dcs code inverted) →
    plan.configuration.receive.signalingMethod = .dcs
  transmitCtcss : (∃ config, plan.radio.transmitSignaling = .ctcss config) ↔
    plan.configuration.transmit.signalingMethod = .ctcss
  transmitDcs : (∃ config, plan.radio.transmitSignaling = .dcs config) ↔
    plan.configuration.transmit.signalingMethod = .dcs
  shaping : plan.processing.transmitDcs = true ↔
    plan.configuration.transmit.signalingMethod = .dcs

/-- The signaling of the live plan: methods, tones or codes, and the qualification. -/
structure Retains (live plan : RemotePlan dbToLinear H R) : Prop where
  receiveMethod : plan.configuration.receive.signalingMethod =
    live.configuration.receive.signalingMethod
  transmitMethod : plan.configuration.transmit.signalingMethod =
    live.configuration.transmit.signalingMethod
  receiveTone : live.configuration.receive.signalingMethod = .ctcss →
    plan.configuration.ctcss.receiveFrequencies = live.configuration.ctcss.receiveFrequencies ∧
      plan.configuration.ctcss.receiveSource = live.configuration.ctcss.receiveSource
  receiveCode : live.configuration.receive.signalingMethod = .dcs →
    plan.configuration.dcs.receiveCode = live.configuration.dcs.receiveCode
  transmitTone : live.configuration.transmit.signalingMethod = .ctcss →
    plan.configuration.ctcss.transmitDefault = live.configuration.ctcss.transmitDefault
  transmitCode : live.configuration.transmit.signalingMethod = .dcs →
    plan.configuration.dcs.transmitCode = live.configuration.dcs.transmitCode
  qualification : plan.radio.subaudibleSource = live.radio.subaudibleSource
  carrier : plan.configuration.receive.cosAssignment = live.configuration.receive.cosAssignment

/-- A plan of a file edit under the same remote policy, that is not a remote tune. -/
structure Edits (live edited : RemotePlan dbToLinear H R) : Prop where
  policy : edited.remote.isSome = true
  same : edited.remote = live.remote
  untuned : edited.remoteOperating = none
  /-- A generation is left for the signaling. -/
  generation : edited.radio.generationId + 1 < WORD

/-- What is claimed about the plan `live` that a sequence of states leaves. -/
structure HistoryIndependent (plan : RemotePlan dbToLinear H R) (last : Tuning)
    (live : RemotePlan dbToLinear H R) : Prop where
  same : ∃ only, plan.withRemoteSignaling last.1 last.2 = .ok only ∧
    SameSignaling (settings live) (settings only)
  oneMethod : OneMethod live
  dsp : live.radio.receiveSignaling ≠ .disabled ↔ live.radio.subaudibleSource = .dsp
  retained : ∀ edited, Edits live edited →
    ∃ retained, edited.retainRemoteOperating live = .ok retained ∧ Retains live retained

/-- The sequence keeps the notch mask. -/
def NotchKept (plan : RemotePlan dbToLinear H R) (earlier : List Tuning) (last : Tuning) : Prop :=
  last.1.decodesTone = false ∨
    plan.processing.localPlFilter = some .decodedToneNotch ∨
    plan.processing.receiveCtcssMask = 0 ∨
    ∀ tuning ∈ earlier, tuning.1.decodesTone = true

/-- The receive method of a selection. -/
def receiveMethod : Option (Squelch × CtcssSource) → SignalingMethod
  | none => .carrier
  | some (.tone _, _) => .ctcss
  | some (.code _, _) => .dcs

/-- The transmit method of a selection. -/
def transmitMethod : Option Squelch → SignalingMethod
  | none => .carrier
  | some (.tone _) => .ctcss
  | some (.code _) => .dcs

variable {selection : Selection} {state : RemoteOperatingState}

theorem receiveMethod_withSelection (selection : Selection) (state : RemoteOperatingState) :
    (plan.withSelection selection state).configuration.receive.signalingMethod =
      receiveMethod selection.decode := by
  obtain ⟨decode, qualification, encode⟩ := selection
  rcases decode with _ | ⟨_ | _, _⟩ <;> rcases encode with _ | _ | _ <;> rfl

theorem transmitMethod_withSelection (selection : Selection) (state : RemoteOperatingState) :
    (plan.withSelection selection state).configuration.transmit.signalingMethod =
      transmitMethod selection.encode := by
  obtain ⟨decode, qualification, encode⟩ := selection
  rcases decode with _ | ⟨_ | _, _⟩ <;> rcases encode with _ | _ | _ <;> rfl

theorem receiveSignaling_withSelection (selection : Selection) (state : RemoteOperatingState) :
    (plan.withSelection selection state).radio.receiveSignaling =
      selection.receive plan.configuration.ctcss.receiveRelax :=
  receiveSignaling_applySelection dbToLinear selection state.mode plan.transport plan.settings

/-- What is transmitted is of the method of the selection. -/
theorem transmitSignaling_withSelection (selection : Selection) (state : RemoteOperatingState) :
    match transmitMethod selection.encode with
    | .carrier => (plan.withSelection selection state).radio.transmitSignaling = .disabled ∧
      (plan.withSelection selection state).processing.transmitDcs = false
    | .ctcss => (∃ config,
        (plan.withSelection selection state).radio.transmitSignaling = .ctcss config) ∧
      (plan.withSelection selection state).processing.transmitDcs = false
    | .dcs => (∃ config,
        (plan.withSelection selection state).radio.transmitSignaling = .dcs config) ∧
      (plan.withSelection selection state).processing.transmitDcs = true := by
  obtain ⟨decode, qualification, encode⟩ := selection
  rcases encode with _ | _ | _
  · rcases decode with _ | ⟨_ | _, _⟩ <;> exact ⟨rfl, rfl⟩
  · rcases decode with _ | ⟨_ | _, _⟩ <;> exact ⟨⟨_, rfl⟩, rfl⟩
  · rcases decode with _ | ⟨_ | _, _⟩ <;> exact ⟨⟨_, rfl⟩, rfl⟩

theorem oneMethod_withSelection (selection : Selection) (state : RemoteOperatingState) :
    OneMethod (plan.withSelection selection state) := by
  have htransmit := @transmitSignaling_withSelection F dbToLinear H R _ _ plan selection state
  constructor
  · rw [receiveMethod_withSelection, receiveSignaling_withSelection]
    rintro ⟨tones, relaxed, h⟩
    unfold Selection.receive at h
    rcases hdecode : selection.decode with _ | ⟨_ | _, _⟩ <;> rw [hdecode] at h
    · split at h <;> cases h
    · rfl
    · split at h <;> cases h
  · rw [receiveMethod_withSelection, receiveSignaling_withSelection]
    rintro ⟨code, inverted, h⟩
    unfold Selection.receive at h
    rcases hdecode : selection.decode with _ | ⟨_ | _, _⟩ <;> rw [hdecode] at h
    · split at h <;> cases h
    · simp only at h
      split at h
      · split at h <;> cases h
      · cases h
    · rfl
  all_goals
    rw [transmitMethod_withSelection]
    rcases hencode : transmitMethod selection.encode <;> rw [hencode] at htransmit
  · simp [htransmit.1]
  · obtain ⟨⟨config, h⟩, -⟩ := htransmit
    simp [h]
  · obtain ⟨⟨config, h⟩, -⟩ := htransmit
    simp [h]
  · simp [htransmit.1]
  · obtain ⟨⟨config, h⟩, -⟩ := htransmit
    simp [h]
  · obtain ⟨⟨config, h⟩, -⟩ := htransmit
    simp [h]
  · simp [htransmit.2]
  · simp [htransmit.2]
  · simp [htransmit.2]

/-- The same selection on two plans. -/
theorem retains_withSelection (selection : Selection) (state : RemoteOperatingState)
    (hcarrier : plan.configuration.receive.cosAssignment =
      live.configuration.receive.cosAssignment) :
    Retains (live.withSelection selection state) (plan.withSelection selection state) := by
  have hreceive := (@receiveMethod_withSelection F dbToLinear H R _ _ plan selection state).trans
    (@receiveMethod_withSelection F dbToLinear H R _ _ live selection state).symm
  have htransmit := (@transmitMethod_withSelection F dbToLinear H R _ _ plan selection state).trans
    (@transmitMethod_withSelection F dbToLinear H R _ _ live selection state).symm
  refine ⟨hreceive, htransmit, fun h => ?_, fun h => ?_, fun h => ?_, fun h => ?_, rfl, ?_⟩
  · rw [receiveMethod_withSelection] at h
    obtain ⟨decode, qualification, encode⟩ := selection
    rcases decode with _ | ⟨_ | _, _⟩
    · cases h
    · rcases encode with _ | _ | _ <;> exact ⟨rfl, rfl⟩
    · cases h
  · rw [receiveMethod_withSelection] at h
    obtain ⟨decode, qualification, encode⟩ := selection
    rcases decode with _ | ⟨_ | _, _⟩
    · cases h
    · cases h
    · rcases encode with _ | _ | _ <;> rfl
  · rw [transmitMethod_withSelection] at h
    obtain ⟨decode, qualification, encode⟩ := selection
    rcases encode with _ | _ | _
    · cases h
    · rcases decode with _ | ⟨_ | _, _⟩ <;> rfl
    · cases h
  · rw [transmitMethod_withSelection] at h
    obtain ⟨decode, qualification, encode⟩ := selection
    rcases encode with _ | _ | _
    · cases h
    · cases h
    · rcases decode with _ | ⟨_ | _, _⟩ <;> rfl
  · obtain ⟨decode, qualification, encode⟩ := selection
    rcases decode with _ | ⟨_ | _, _⟩ <;> rcases encode with _ | _ | _ <;> exact hcarrier

theorem cosAssignment_withSelection (selection : Selection) (state : RemoteOperatingState) :
    (plan.withSelection selection state).configuration.receive.cosAssignment =
      plan.configuration.receive.cosAssignment := by
  obtain ⟨decode, qualification, encode⟩ := selection
  rcases decode with _ | ⟨_ | _, _⟩ <;> rcases encode with _ | _ | _ <;> rfl

/-- A file edit takes the live signaling over. -/
theorem retained_of_edits {externalDecode : SubaudibleSource}
    (hselect : select state externalDecode = .ok selection)
    (hedits : Edits (plan.withSelection selection state) edited) :
    ∃ retained, edited.retainRemoteOperating (plan.withSelection selection state) = .ok retained ∧
      Retains (plan.withSelection selection state) retained := by
  let carried : RemotePlan dbToLinear H R :=
    edited.withRemoteCarrier (plan.withSelection selection state).configuration.receive.cosAssignment
  refine ⟨carried.withSelection selection state, ?_,
    retains_withSelection selection state (cosAssignment_withSelection selection state)⟩
  unfold StationPlan.retainRemoteOperating
  rw [if_pos ⟨hedits.policy, hedits.same, by rw [hedits.untuned]; rfl⟩]
  exact withRemoteSignaling_eq_ok.mpr
    ⟨selection, select_qualification hselect, hedits.generation, rfl⟩

/-- The two masks agree exactly where the notch mask is kept. -/
theorem notchMask_eq_iff {middle : RemotePlan dbToLinear H R} {relax : Nat}
    (hselect : select last.1 last.2 = .ok selection) (hfollows : Follows plan middle earlier) :
    notchMask (selection.receive relax) middle.processing =
      notchMask (selection.receive relax) plan.processing ↔ NotchKept plan earlier last := by
  obtain ⟨htone, hnone⟩ := receive_of_decodesTone hselect relax
  have hfilter : middle.processing.localPlFilter = plan.processing.localPlFilter :=
    hfollows.base.plFilter
  unfold NotchKept
  cases hdecodes : last.1.decodesTone with
  | false =>
    refine iff_of_true ?_ (.inl rfl)
    cases hreceive : selection.receive relax with
    | ctcss tones relaxed => exact absurd hreceive (hnone hdecodes tones relaxed)
    | disabled => rfl
    | dcs code inverted => rfl
  | true =>
    obtain ⟨tone, hreceive⟩ := htone hdecodes
    rw [hreceive]
    simp only [notchMask, hfilter]
    by_cases hnotch : plan.processing.localPlFilter = some .decodedToneNotch
    · simp [hnotch]
    have hkept : middle.processing.receiveCtcssMask ≠ 0 ↔
        plan.processing.receiveCtcssMask ≠ 0 ∧ ∀ tuning ∈ earlier, tuning.1.decodesTone = true :=
      hfollows.mask hnotch
    by_cases hmiddle : middle.processing.receiveCtcssMask = 0
    · rw [if_neg (not_or.mpr ⟨not_not.mpr hmiddle, hnotch⟩)]
      by_cases hzero : plan.processing.receiveCtcssMask = 0
      · rw [if_neg (not_or.mpr ⟨not_not.mpr hzero, hnotch⟩)]
        exact iff_of_true rfl (.inr (.inr (.inl hzero)))
      · rw [if_pos (.inl hzero)]
        refine iff_of_false (receiveToneMask_ne_zero tone).symm ?_
        rintro (h | h | h | h)
        · cases h
        · exact hnotch h
        · exact hzero h
        · exact hkept.mpr ⟨hzero, h⟩ hmiddle
    · obtain ⟨hzero, hall⟩ := hkept.mp hmiddle
      rw [if_pos (.inl hmiddle), if_pos (.inl hzero)]
      exact iff_of_true rfl (.inr (.inr (.inr hall)))

/-- A plan without a local profile, that decodes 100 Hz by DSP and rejects it. -/
def rawPlan : RemotePlan (id : Unit → Unit) Unit Unit where
  transport := .appRpt
  configuration := {
    receive := {
      signalingMethod := .ctcss, audioSource := .flat, cosAssignment := .dsp, vadMode := .off }
    transmit := { signalingMethod := .carrier, preemphasisEnabled := false }
    ctcss := {
      receiveFrequencies := [⟨1000, by decide⟩]
      transmitFrequencies := [⟨1000, by decide⟩]
      receiveSource := .dsp
      receiveOverrideEnabled := false
      receiveRelax := 1
      transmitDefault := ⟨1000, by decide⟩
      transmitPeakDbfs := ()
      phaseShiftDegrees := ()
      tailDurationMs := 0
      tailFrequencyHz := () }
    dcs := {
      receiveCode := ⟨19, false, by decide⟩
      transmitCode := ⟨19, false, by decide⟩
      turnoffCodeEnabled := false
      turnoffDurationMs := 0
      peakDbfs := () }
    hardware := { outputAAssignment := .voice, outputBAssignment := .voice } }
  hardware := ()
  radio := {
    generationId := 1
    maximumReceiveFrameCount := 960
    receiveInputGain := ()
    receiveSignaling := .ctcss (1#64 <<< 11) true
    carrierSource := .dspNoise
    subaudibleSource := .dsp
    advancedTransport := false
    transmitSignaling := .disabled }
  processing := {
    localPlFilter := none
    receiveInputGain := ()
    receiveDeemphasis := true
    transmitPreemphasis := false
    receiveCtcssMask := 1#64 <<< 11
    transmitDcs := false }
  remote := some ()
  remoteOperating := none

/-- FM without signaling. -/
def carrierOnly : RemoteOperatingState where
  mode := 1
  encode := {
    source := .disabled, enabled := false, toneTenthsHz := 0, dcsCode := 0, inverted := false }
  decode := {
    source := .disabled, enabled := false, toneTenthsHz := 0, dcsCode := 0, inverted := false }

/-- FM with a decoded tone of 100 Hz. -/
def toneDecoded : RemoteOperatingState where
  mode := 1
  encode := {
    source := .disabled, enabled := false, toneTenthsHz := 0, dcsCode := 0, inverted := false }
  decode := {
    source := .dsp, enabled := true, toneTenthsHz := 1000, dcsCode := 0, inverted := false }

/-- **Remote signaling is history independent** exactly where the notch mask is kept. -/
theorem historyIndependent_iff (h : plan.withRemoteSignalings (earlier ++ [last]) = .ok live) :
    HistoryIndependent plan last live ↔ NotchKept plan earlier last := by
  obtain ⟨middle, hearlier, hlast⟩ := withRemoteSignalings_append h
  have hfollows := follows_of_ok hearlier
  obtain ⟨selection, hselect, hgeneration, rfl⟩ := withRemoteSignaling_eq_ok.mp hlast
  have honly : plan.withRemoteSignaling last.1 last.2 = .ok (plan.withSelection selection last.1) :=
    withRemoteSignaling_eq_ok.mpr ⟨selection, hselect,
      Nat.lt_of_le_of_lt (Nat.succ_le_succ hfollows.generation) hgeneration, rfl⟩
  have hbase := hfollows.base
  have hmask : ∀ p : RemotePlan dbToLinear H R,
      (settings (p.withSelection selection last.1)).2.2.receiveCtcssMask =
        notchMask (selection.receive p.configuration.ctcss.receiveRelax) p.processing := fun p =>
    congrArg (notchMask · p.processing) (receiveSignaling_withSelection selection last.1)
  -- the masks decide: all else agrees
  have hmasks : (settings (middle.withSelection selection last.1)).2.2.receiveCtcssMask =
      (settings (plan.withSelection selection last.1)).2.2.receiveCtcssMask ↔
        NotchKept plan earlier last := by
    rw [hmask, hmask, show middle.configuration.ctcss.receiveRelax =
      plan.configuration.ctcss.receiveRelax from hbase.relax]
    exact notchMask_eq_iff hselect hfollows
  constructor
  · rintro ⟨⟨only, hok, hsame⟩, -, -, -⟩
    obtain rfl := Except.ok.inj (honly.symm.trans hok)
    exact hmasks.mp hsame.notch
  · intro hkept
    refine ⟨⟨_, honly, ?_⟩, oneMethod_withSelection selection last.1, ?_,
      fun edited hedits => retained_of_edits hselect hedits⟩
    · have htransport : (middle.withSelection selection last.1).settings =
          applySelection dbToLinear selection last.1.mode plan.transport middle.settings := by
        rw [← hfollows.transport]
        rfl
      have hnotch := hmasks.mpr hkept
      rw [htransport] at hnotch ⊢
      exact sameSignaling_applySelection hbase hnotch
    · rw [receiveSignaling_withSelection]
      exact receive_ne_disabled hselect _

/-- A tone is decoded and rejected after a tone as it is alone. -/
theorem historyIndependent_of_tones : ∃ live,
    rawPlan.withRemoteSignalings ([(toneDecoded, .disabled)] ++ [(toneDecoded, .disabled)]) =
      .ok live ∧
    (HistoryIndependent rawPlan (toneDecoded, .disabled) live ↔
      NotchKept rawPlan [(toneDecoded, .disabled)] (toneDecoded, .disabled)) :=
  ⟨_, rfl, historyIndependent_iff rfl⟩

/-- A carrier-only state on a plan without a local profile loses the notch of the next tone. -/
theorem not_historyIndependent : ∃ live,
    rawPlan.withRemoteSignalings ([(carrierOnly, .disabled)] ++ [(toneDecoded, .disabled)]) =
      .ok live ∧
    ¬ HistoryIndependent rawPlan (toneDecoded, .disabled) live := by
  refine ⟨_, rfl, fun h => ?_⟩
  obtain ⟨only, honly, hsame⟩ := h.same
  obtain rfl := Except.ok.inj honly
  exact absurd hsame.notch (by decide)

end RemotePlan
end Station
end UsbRadioPlus
