import UsbRadioPlus.Station.TransmitCallback
import UsbRadioPlus.Sys.Mask

/-!
# The transmit gate of a station

What a callback does follows from one inversion, `transmitCallback_outcome`. The gate is a latch:
a sample that forbids transmission closes it, and it stays closed until a sample that does not
forbid it finds an active request or no remote operation. A closed gate publishes no PTT and gives
silence, whatever the radio renders.

The epoch counts the rising edges of the keys that were published. It has 61 bits.
-/

namespace UsbRadioPlus.Station

open Sys

/-! ## Keys and their epoch -/

/-- The rising edges, 0 or 1, from one key to the next. -/
def risingEdge (before key : Bool) : Nat := if key && !before then 1 else 0

/-- The rising edges of a list of keys behind a first one. -/
def risingEdges : Bool → List Bool → Nat
  | _, [] => 0
  | before, key :: keys => risingEdge before key + risingEdges key keys

theorem risingEdges_append (before : Bool) (keys keys' : List Bool) :
    risingEdges before (keys ++ keys') =
      risingEdges before keys + risingEdges (keys.getLastD before) keys' := by
  induction keys generalizing before with
  | nil => simp [risingEdges]
  | cons key keys ih => simp only [List.cons_append, risingEdges, ih, List.getLastD_cons]; omega

namespace HardwareAtomics

variable (self : HardwareAtomics)

@[simp] theorem logicalPtt_publishTransmitIntent (requested ctcss linked : Bool) :
    (self.publishTransmitIntent requested ctcss linked).logicalPtt = self.logicalPtt := rfl

@[simp] theorem logicalPtt_publishTransmitFault :
    self.publishTransmitFault.logicalPtt = false := by
  simp [publishTransmitFault, publishTransmitIntent, logicalPtt, unpackLogicalPtt]

@[simp] theorem logicalPtt_noteTransmit (failed : Bool) :
    (self.noteTransmit failed).logicalPtt = self.logicalPtt := rfl

theorem unpackLogicalPtt_packOutputs (value : HardwareOutputs) :
    unpackLogicalPtt (packOutputs value) = value.logicalPtt := by
  cases h : value.logicalPtt <;> simp [packOutputs, unpackLogicalPtt, h]

/-- A result changes the published outputs and their tone, and nothing else. -/
theorem publishTransmitResult_eq (result : TransmitResult) :
    ∃ tone ready, self.publishTransmitResult result =
      { self with
        outputs := packOutputs ⟨result.logicalPtt, tone⟩, transmitCtcssReady := ready } := by
  unfold publishTransmitResult
  split <;> dsimp only <;> split <;> exact ⟨_, _, rfl⟩

@[simp] theorem logicalPtt_publishTransmitResult (result : TransmitResult) :
    (self.publishTransmitResult result).logicalPtt = result.logicalPtt := by
  obtain ⟨tone, ready, h⟩ := self.publishTransmitResult_eq result
  rw [h]
  exact unpackLogicalPtt_packOutputs _

theorem and_one_eq_zero_iff (x : BitVec 64) :
    x &&& (1 : BitVec 64) = 0 ↔ x.getLsbD 0 = false := by
  constructor
  · intro h
    simpa using congrArg (fun y : BitVec 64 => y.getLsbD 0) h
  · intro h
    refine BitVec.eq_of_getLsbD_eq fun i _ => ?_
    cases i with
    | zero => simpa using h
    | succ i => simp

@[simp] theorem transmitRequested_publishTransmitIntent (requested ctcss linked : Bool) :
    (self.publishTransmitIntent requested ctcss linked).transmitRequested = requested := by
  cases requested <;> cases ctcss <;> cases linked <;>
    simp [publishTransmitIntent, transmitRequested]

theorem flag_lt (b : Bool) {k : Nat} (hk : k < 3) :
    ((if b then (1 : BitVec 64) else 0) <<< k).toNat < 2 ^ 3 := by
  obtain rfl | rfl | rfl : k = 0 ∨ k = 1 ∨ k = 2 := by omega
  all_goals cases b <;> decide

/-- A publication counts the edge to its key. -/
theorem transmitEpoch_publishTransmitIntent (requested ctcss linked : Bool) :
    (self.publishTransmitIntent requested ctcss linked).transmitEpoch =
      (self.transmitEpoch + risingEdge self.transmitRequested requested) % 2 ^ 61 := by
  have hlt := self.remoteTransmit.isLt
  have hone : (1 : BitVec 64).toNat < 2 ^ 3 := by decide
  have hsix : (6 : BitVec 64).toNat < 2 ^ 3 := by decide
  -- the three flags stand below the epoch
  simp only [publishTransmitIntent, transmitEpoch, transmitRequested, risingEdge,
    Mask.fill_ushiftRight (flag_lt _ (by decide : 1 < 3)),
    Mask.fill_ushiftRight (flag_lt _ (by decide : 2 < 3)), Mask.clear_ushiftRight hsix]
  cases requested with
  | false =>
    simp only [Bool.false_and, Bool.false_eq_true, if_false, Mask.clear_ushiftRight hone,
      BitVec.toNat_ushiftRight, Nat.shiftRight_eq_div_pow]
    omega
  | true =>
    simp only [Bool.true_and, if_true, and_one_eq_zero_iff, Mask.fill_ushiftRight hone]
    cases h : self.remoteTransmit.getLsbD 0 with
    | false =>
      have h8 : (8 : BitVec 64).toNat = 8 := by decide
      simp only [Bool.not_false, if_true, BitVec.toNat_ushiftRight, BitVec.toNat_add,
        Nat.shiftRight_eq_div_pow, h8]
      omega
    | true =>
      have h0 : self.remoteTransmit + (0 : BitVec 64) = self.remoteTransmit := BitVec.add_zero _
      simp only [reduceCtorEq, Bool.not_true, Bool.false_eq_true, if_false, h0,
        BitVec.toNat_ushiftRight, Nat.shiftRight_eq_div_pow]
      omega

theorem transmitEpoch_lt : self.transmitEpoch < 2 ^ 61 := by
  have hlt := self.remoteTransmit.isLt
  simp only [transmitEpoch, BitVec.toNat_ushiftRight, Nat.shiftRight_eq_div_pow]
  omega

/-- Between the two words the keys were published, and each of their edges was counted once. -/
structure Publishes (hardware hardware' : HardwareAtomics) (keys : List Bool) : Prop where
  intents : hardware'.intents = hardware.intents ++ keys
  requested : hardware'.transmitRequested = keys.getLastD hardware.transmitRequested
  epoch : hardware'.transmitEpoch =
    (hardware.transmitEpoch + risingEdges hardware.transmitRequested keys) % 2 ^ 61

namespace Publishes

variable {hardware hardware' hardware'' : HardwareAtomics} {keys keys' : List Bool}

/-- A step that leaves the transmit word and its history alone. -/
theorem nil (h : hardware'.remoteTransmit = hardware.remoteTransmit)
    (hi : hardware'.intents = hardware.intents) : Publishes hardware hardware' [] where
  intents := by rw [hi, List.append_nil]
  requested := by rw [transmitRequested, h]; rfl
  epoch := by
    rw [transmitEpoch, h]
    exact (Nat.mod_eq_of_lt hardware.transmitEpoch_lt).symm

theorem intent (requested ctcss linked : Bool) :
    Publishes hardware (hardware.publishTransmitIntent requested ctcss linked) [requested] where
  intents := rfl
  requested := transmitRequested_publishTransmitIntent _ _ _ _
  epoch := transmitEpoch_publishTransmitIntent _ _ _ _

theorem append (h : Publishes hardware hardware' keys) (h' : Publishes hardware' hardware'' keys') :
    Publishes hardware hardware'' (keys ++ keys') where
  intents := by rw [h'.intents, h.intents, List.append_assoc]
  requested := by
    rw [h'.requested, h.requested]
    cases keys' <;> simp [List.getLastD_eq_getLast?, List.getLast?_append]
  epoch := by
    rw [h'.epoch, h.epoch, h.requested, risingEdges_append]
    omega

theorem fault : Publishes hardware hardware.publishTransmitFault [false] :=
  have h : Publishes hardware { hardware with outputs := 0, transmitCtcssReady := 0 } [] :=
    nil rfl rfl
  h.append (intent false false false)

theorem result (result : TransmitResult) :
    Publishes hardware (hardware.publishTransmitResult result) [] := by
  obtain ⟨tone, ready, h⟩ := hardware.publishTransmitResult_eq result
  rw [h]
  exact nil rfl rfl

theorem note (failed : Bool) : Publishes hardware (hardware.noteTransmit failed) [] := nil rfl rfl

end Publishes
end HardwareAtomics

/-! ## The outcomes of a callback -/

variable {S : Type}

namespace CallbackInputs

variable (i : CallbackInputs S)

/-- The direct controller of the station fails in this callback. -/
def failedDirect (context : TransmitContext) : Bool := context.direct && i.directFailed

/-- The radio fails to render. -/
def renderFailed : Bool := match i.render.1 with
  | .ok _ => false
  | .error _ => true

/-- The callback comes to its final sample of the remote policy. -/
def sampled (context : TransmitContext) : Bool :=
  i.served context && !(i.failedDirect context && context.native)

/-- The final sample opens the gate. -/
def admits (context : TransmitContext) : Bool :=
  i.sampled context && !i.forbidden &&
    ((i.controls context).externalPttRequest || !i.remote.enabled)

/-- The context behind the final sample. -/
def admission (context : TransmitContext) : TransmitContext :=
  if i.forbidden then { context with remoteBurstAdmitted := false }
  else if (i.controls context).externalPttRequest || !i.remote.enabled then
    { context with remoteBurstAdmitted := true }
  else context

/-- The keys that the callback publishes. A fault releases the key. -/
def keys (context : TransmitContext) : List Bool :=
  if i.served context then
    if i.failedDirect context then
      if context.native then [false] else [false, false]
    else if i.renderFailed && context.native then [(i.controls context).externalPttRequest, false]
    else [(i.controls context).externalPttRequest]
  else if context.native then [false] else []

/-- The words behind the publication of the intent. -/
def intended (context : TransmitContext) (hardware : HardwareAtomics) : HardwareAtomics :=
  hardware.publishTransmitIntent (i.controls context).externalPttRequest
    (!(i.controls context).ctcssInhibit) (i.linkedActivity context)

theorem controls_of_failedDirect {context : TransmitContext}
    (h : i.failedDirect context = true) :
    (i.controls context).externalPttRequest = false := by
  rw [failedDirect, Bool.and_eq_true] at h
  simp [controls, directControls, h.1, h.2]

theorem admission_of_forbidden (context : TransmitContext) (h : i.forbidden = true) :
    (i.admission context).remoteBurstAdmitted = false := by
  simp [admission, h]

/-- A closed gate stays closed at a sample that does not open it. -/
theorem admission_of_not_admits {context : TransmitContext} (hs : i.sampled context = true)
    (h : i.admits context = false) (hb : context.remoteBurstAdmitted = false) :
    (i.admission context).remoteBurstAdmitted = false := by
  cases hf : i.forbidden with
  | true => exact i.admission_of_forbidden context hf
  | false =>
    have hr : ((i.controls context).externalPttRequest || !i.remote.enabled) = false := by
      simpa only [admits, hs, hf, Bool.not_false, Bool.and_true, Bool.true_and] using h
    simpa only [admission, hf, hr, Bool.false_eq_true, if_false] using hb

end CallbackInputs

namespace TransmitSide

variable (s : TransmitSide S) (i : CallbackInputs S)

/-- What a callback can do. -/
inductive Outcome [Zero S] (t : TransmitSide S) : Prop
  | refused (hserved : i.served s.context = false) (hcontext : t.context = s.context)
      (hhardware : t.hardware = (if s.context.native then s.hardware.publishTransmitFault
        else s.hardware).noteTransmit true)
  | halted (hserved : i.served s.context = true) (hfailed : i.failedDirect s.context = true)
      (hnative : s.context.native = true) (hcontext : t.context = s.context)
      (hhardware : t.hardware = s.hardware.publishTransmitFault.noteTransmit true)
      (houtput : t.output = some (silence i.frameCount))
  | silenced (hserved : i.served s.context = true) (hfailed : i.failedDirect s.context = true)
      (hnative : s.context.native = false) (hcontext : t.context = i.admission s.context)
      (hhardware :
        t.hardware = (i.intended s.context s.hardware.publishTransmitFault).noteTransmit true)
      (houtput : t.output = some (silence i.frameCount))
  | unrendered (hserved : i.served s.context = true) (hdirect : i.failedDirect s.context = false)
      (hfailed : i.renderFailed = true) (hcontext : t.context = i.admission s.context)
      (hhardware : t.hardware =
        (if s.context.native then (i.intended s.context s.hardware).publishTransmitFault
        else i.intended s.context s.hardware).noteTransmit true)
      (houtput : t.output = some (silence i.frameCount))
  | withheld (hserved : i.served s.context = true) (hdirect : i.failedDirect s.context = false)
      (hrendered : i.renderFailed = false) (hcontext : t.context = i.admission s.context)
      (hgate : (i.admission s.context).remoteBurstAdmitted = false)
      (hhardware : t.hardware =
        ((i.intended s.context s.hardware).publishTransmitResult ⟨false, 0⟩).noteTransmit false)
      (houtput : t.output = some (silence i.frameCount))
  | transmitted (hserved : i.served s.context = true)
      (hdirect : i.failedDirect s.context = false) (hrendered : i.renderFailed = false)
      (hcontext : t.context = i.admission s.context)
      (hgate : (i.admission s.context).remoteBurstAdmitted = true)
      (result : TransmitResult)
      (hhardware : t.hardware =
        ((i.intended s.context s.hardware).publishTransmitResult result).noteTransmit false)

theorem native_admission (context : TransmitContext) :
    (i.admission context).native = context.native := by
  unfold CallbackInputs.admission
  split
  · rfl
  · split <;> rfl

variable [Zero S]

/-- The context that a served callback renders with is the one behind its final sample. -/
theorem transmitCallback_sampled (hs : i.sampled s.context = true) :
    let hardware := i.intended s.context
      (if i.failedDirect s.context then s.hardware.publishTransmitFault else s.hardware)
    let context := i.admission s.context
    let controls := if i.forbidden then (i.controls s.context).forbid else i.controls s.context
    let rendered := some (i.staged context, controls)
    s.transmitCallback i = match i.render with
      | (.ok result, samples) =>
        if i.failedDirect s.context then
          { context, hardware := hardware.noteTransmit true, returned := callbackFailed
            output := some (silence i.frameCount), rendered }
        else if !context.remoteBurstAdmitted then
          { context
            hardware := (hardware.publishTransmitResult ⟨false, 0⟩).noteTransmit false
            returned := callbackOk, output := some (silence i.frameCount), rendered }
        else
          { context, hardware := (hardware.publishTransmitResult result).noteTransmit false
            returned := callbackOk, output := some samples, rendered }
      | (.error _, _) =>
        let hardware := if context.native then hardware.publishTransmitFault else hardware
        { context, hardware := hardware.noteTransmit true, returned := callbackFailed
          output := some (silence i.frameCount), rendered } := by
  rw [CallbackInputs.sampled, Bool.and_eq_true, Bool.not_eq_true'] at hs
  have hdirect : (s.context.direct && i.directFailed && s.context.native) = false := hs.2
  unfold transmitCallback
  simp only [hs.1, hdirect, Bool.not_true, Bool.false_eq_true, if_false]
  rfl

theorem transmitCallback_outcome : Outcome s i (s.transmitCallback i) := by
  cases hserved : i.served s.context with
  | false =>
    cases hnative : s.context.native <;>
      exact .refused hserved (by simp [transmitCallback, hserved, hnative])
        (by simp [transmitCallback, hserved, hnative])
  | true =>
    cases hfailed : i.failedDirect s.context with
    | true =>
      have hdirect : (s.context.direct && i.directFailed) = true := hfailed
      cases hnative : s.context.native with
      | true =>
        refine .halted hserved hfailed hnative ?_ ?_ ?_ <;>
          simp [transmitCallback, hserved, hdirect, hnative]
      | false =>
        have hn := (native_admission i s.context).trans hnative
        have h := transmitCallback_sampled s i
          (by simp [CallbackInputs.sampled, hserved, hnative])
        rcases hrender : i.render with ⟨_ | result, samples⟩ <;>
          simp only [hrender, hfailed, hn, if_true, Bool.false_eq_true, if_false] at h <;>
          exact .silenced hserved hfailed hnative (by rw [h]) (by rw [h]) (by rw [h])
    | false =>
      have h := transmitCallback_sampled s i (by simp [CallbackInputs.sampled, hserved, hfailed])
      have hn := native_admission i s.context
      rcases hrender : i.render with ⟨_ | result, samples⟩
      · simp only [hrender, hfailed, hn, Bool.false_eq_true, if_false] at h
        exact .unrendered hserved hfailed (by simp [CallbackInputs.renderFailed, hrender])
          (by rw [h]) (by rw [h]) (by rw [h])
      · have hok : i.renderFailed = false := by simp [CallbackInputs.renderFailed, hrender]
        cases hgate : (i.admission s.context).remoteBurstAdmitted with
        | false =>
          simp only [hrender, hfailed, hgate, Bool.false_eq_true, if_false, Bool.not_false,
            if_true] at h
          exact .withheld hserved hfailed hok (by rw [h]) hgate (by rw [h]) (by rw [h])
        | true =>
          simp only [hrender, hfailed, hgate, Bool.false_eq_true, if_false, Bool.not_true] at h
          exact .transmitted hserved hfailed hok (by rw [h]) hgate result (by rw [h])

/-! ## A closed gate -/

/-- A callback that gives silence and publishes no PTT. Only the failed rendering of a station
that is not native leaves a PTT published that was there before. -/
structure Muted (t : TransmitSide S) : Prop where
  output : t.output = some (silence i.frameCount)
  ptt : t.hardware.logicalPtt = true →
    s.context.native = false ∧ i.renderFailed = true ∧ s.hardware.logicalPtt = true

variable {s i}

theorem muted_of_gate (hserved : i.served s.context = true)
    (hgate : i.sampled s.context = true → (i.admission s.context).remoteBurstAdmitted = false) :
    Muted s i (s.transmitCallback i) := by
  cases transmitCallback_outcome s i with
  | refused h => exact absurd (hserved.symm.trans h) (by simp)
  | halted _ _ _ _ hhardware houtput => exact ⟨houtput, fun h => by simp [hhardware] at h⟩
  | silenced _ _ _ _ hhardware houtput =>
    exact ⟨houtput, fun h => by simp [hhardware, CallbackInputs.intended] at h⟩
  | unrendered _ _ hfailed _ hhardware houtput =>
    refine ⟨houtput, fun h => ?_⟩
    rw [hhardware] at h
    cases hnative : s.context.native with
    | true => simp [hnative] at h
    | false => exact ⟨rfl, hfailed, by simpa [hnative, CallbackInputs.intended] using h⟩
  | withheld _ _ _ _ _ hhardware houtput => exact ⟨houtput, fun h => by simp [hhardware] at h⟩
  | transmitted _ hdirect _ _ hopen =>
    have hsampled : i.sampled s.context = true := by
      simp [CallbackInputs.sampled, hserved, hdirect]
    exact absurd ((hgate hsampled).symm.trans hopen) (by simp)

theorem remoteBurstAdmitted_transmitCallback (hsampled : i.sampled s.context = true) :
    (s.transmitCallback i).context = i.admission s.context := by
  rw [CallbackInputs.sampled, Bool.and_eq_true, Bool.not_eq_true'] at hsampled
  cases transmitCallback_outcome s i with
  | refused h => exact absurd (hsampled.1.symm.trans h) (by simp)
  | halted _ hfailed hnative => simp [hfailed, hnative] at hsampled
  | silenced _ _ _ hcontext => exact hcontext
  | unrendered _ _ _ hcontext => exact hcontext
  | withheld _ _ _ hcontext => exact hcontext
  | transmitted _ _ _ hcontext => exact hcontext

theorem context_transmitCallback_of_not_sampled (h : i.sampled s.context = false) :
    (s.transmitCallback i).context = s.context := by
  have hserved (hserved : i.served s.context = true) (hfailed : i.failedDirect s.context = true →
      s.context.native = false) : False := by
    cases hf : i.failedDirect s.context with
    | false => simp [CallbackInputs.sampled, hserved, hf] at h
    | true => simp [CallbackInputs.sampled, hserved, hfailed hf] at h
  cases transmitCallback_outcome s i with
  | refused _ hcontext => exact hcontext
  | halted _ _ _ hcontext => exact hcontext
  | silenced hs _ hnative => exact (hserved hs fun _ => hnative).elim
  | unrendered hs hdirect => exact (hserved hs fun h => by simp [hdirect] at h).elim
  | withheld hs hdirect => exact (hserved hs fun h => by simp [hdirect] at h).elim
  | transmitted hs hdirect => exact (hserved hs fun h => by simp [hdirect] at h).elim

/-- A closed gate at a callback that does not open it: it stays closed, and the callback turns no
PTT on. -/
theorem gate_step (hgate : s.context.remoteBurstAdmitted = false)
    (h : i.admits s.context = false) :
    (s.transmitCallback i).context.remoteBurstAdmitted = false ∧
      (i.served s.context = true → Muted s i (s.transmitCallback i)) ∧
      ((s.transmitCallback i).hardware.logicalPtt = true → s.hardware.logicalPtt = true) := by
  have hkept (hs : i.sampled s.context = true) :
      (i.admission s.context).remoteBurstAdmitted = false := i.admission_of_not_admits hs h hgate
  have hmuted (hserved : i.served s.context = true) : Muted s i (s.transmitCallback i) :=
    muted_of_gate hserved hkept
  refine ⟨?_, hmuted, fun hptt => ?_⟩
  · cases hs : i.sampled s.context with
    | true => rw [remoteBurstAdmitted_transmitCallback hs, hkept hs]
    | false => rw [context_transmitCallback_of_not_sampled hs, hgate]
  · cases hserved : i.served s.context with
    | true => exact ((hmuted hserved).ptt hptt).2.2
    | false =>
      cases transmitCallback_outcome s i with
      | refused _ _ hhardware =>
        rw [hhardware] at hptt
        cases hnative : s.context.native with
        | true => simp [hnative] at hptt
        | false => simpa [hnative] using hptt
      | halted hs => exact absurd (hserved.symm.trans hs) (by simp)
      | silenced hs => exact absurd (hserved.symm.trans hs) (by simp)
      | unrendered hs => exact absurd (hserved.symm.trans hs) (by simp)
      | withheld hs => exact absurd (hserved.symm.trans hs) (by simp)
      | transmitted hs => exact absurd (hserved.symm.trans hs) (by simp)

/-- The gate is closed, and no PTT is published that was not there at the start. -/
structure Latched (s t : TransmitSide S) : Prop where
  gate : t.context.remoteBurstAdmitted = false
  ptt : t.hardware.logicalPtt = true → s.hardware.logicalPtt = true

/-- A closed gate stays closed through callbacks that do not open it. -/
theorem latched_run {t : TransmitSide S} {is : List (CallbackInputs S)}
    (hgate : s.context.remoteBurstAdmitted = false)
    (h : transmitRuns.Meets (fun s i => i.admits s.context = false) s is)
    (hrun : transmitRuns.run s is = some t) : Latched s t := by
  refine h.kept (fun m i m' hm hi hstep => ?_) ⟨hgate, id⟩ hrun
  cases hstep
  have hnext := gate_step hm.gate hi
  exact ⟨hnext.1, fun hptt => hm.ptt (hnext.2.2 hptt)⟩

/-- A failed direct controller, and a failed rendering of a native station. -/
theorem muted_of_failed (hserved : i.served s.context = true)
    (h : i.failedDirect s.context = true ∨ i.renderFailed = true ∧ s.context.native = true) :
    (s.transmitCallback i).output = some (silence i.frameCount) ∧
      (s.transmitCallback i).hardware.logicalPtt = false := by
  cases transmitCallback_outcome s i with
  | refused hrefused => exact absurd (hserved.symm.trans hrefused) (by simp)
  | halted _ _ _ _ hhardware houtput => exact ⟨houtput, by simp [hhardware]⟩
  | silenced _ _ _ _ hhardware houtput =>
    exact ⟨houtput, by simp [hhardware, CallbackInputs.intended]⟩
  | unrendered _ hdirect _ _ hhardware houtput =>
    refine ⟨houtput, ?_⟩
    obtain hfailed | ⟨-, hnative⟩ := h
    · exact absurd (hfailed.symm.trans hdirect) (by simp)
    · simp [hhardware, hnative]
  | withheld _ hdirect hrendered => simp [hdirect, hrendered] at h
  | transmitted _ hdirect hrendered => simp [hdirect, hrendered] at h

open HardwareAtomics in
/-- A callback publishes its keys and counts their edges. -/
theorem publishes_transmitCallback :
    s.hardware.Publishes (s.transmitCallback i).hardware (i.keys s.context) := by
  have hintent (hardware : HardwareAtomics) : Publishes hardware (i.intended s.context hardware)
      [(i.controls s.context).externalPttRequest] := .intent _ _ _
  cases transmitCallback_outcome s i with
  | refused hserved _ hhardware =>
    rw [hhardware]
    cases hnative : s.context.native with
    | true => simpa [CallbackInputs.keys, hserved, hnative] using Publishes.fault.append (.note true)
    | false => simpa [CallbackInputs.keys, hserved, hnative] using Publishes.note true
  | halted hserved hfailed hnative _ hhardware =>
    rw [hhardware]
    simpa [CallbackInputs.keys, hserved, hnative, hfailed] using
      Publishes.fault.append (.note true)
  | silenced hserved hfailed hnative _ hhardware =>
    rw [hhardware]
    simpa [CallbackInputs.keys, hserved, hnative, hfailed,
      i.controls_of_failedDirect hfailed] using
      (Publishes.fault.append (hintent _)).append (.note true)
  | unrendered hserved hdirect hfailed _ hhardware =>
    rw [hhardware]
    cases hnative : s.context.native with
    | true =>
      simpa [CallbackInputs.keys, hserved, hnative, hfailed, hdirect] using
        ((hintent _).append .fault).append (.note true)
    | false =>
      simpa [CallbackInputs.keys, hserved, hnative, hfailed, hdirect] using
        (hintent _).append (.note true)
  | withheld hserved hdirect hrendered _ _ hhardware =>
    rw [hhardware]
    simpa [CallbackInputs.keys, hserved, hdirect, hrendered] using
      ((hintent _).append (.result _)).append (.note false)
  | transmitted hserved hdirect hrendered _ _ result hhardware =>
    rw [hhardware]
    simpa [CallbackInputs.keys, hserved, hdirect, hrendered] using
      ((hintent _).append (.result _)).append (.note false)

open HardwareAtomics in
/-- The published keys of a run are the history of its intents. -/
theorem publishes_of_reach (h : (transmitRuns (S := S)).Reach s) :
    initial.Publishes s.hardware s.hardware.intents := by
  have hinv : (transmitRuns (S := S)).Inductive (fun _ _ => True) fun s =>
      initial.Publishes s.hardware s.hardware.intents := by
    refine ⟨fun s hs => ?_, fun s i s' hs _ hstep => ?_⟩
    · rw [hs.2]
      exact .nil rfl rfl
    · cases hstep
      have hnext := publishes_transmitCallback (s := s) (i := i)
      rw [hnext.intents]
      exact hs.append hnext
  exact hinv.reach h

/-! ## The contract -/

/-- What holds of every callback and of what follows it. -/
structure Gated (s : TransmitSide S) : Prop where
  /-- A sample that forbids transmission. -/
  muted : ∀ i : CallbackInputs S, i.sampled s.context = true → i.forbidden = true →
    Muted s i (s.transmitCallback i)
  /-- Behind it PTT stays off, and every served callback gives silence, until a callback opens the
  gate. -/
  latched : ∀ (i : CallbackInputs S) (is : List (CallbackInputs S)) (t : TransmitSide S),
    i.sampled s.context = true → i.forbidden = true →
    transmitRuns.Meets (fun s i => i.admits s.context = false) (s.transmitCallback i) is →
    transmitRuns.run (s.transmitCallback i) is = some t →
    (t.hardware.logicalPtt = true → (s.transmitCallback i).hardware.logicalPtt = true) ∧
      ∀ j : CallbackInputs S, j.served t.context = true → j.admits t.context = false →
        Muted t j (t.transmitCallback j)
  /-- A failed direct controller, and a failed rendering of a native station. -/
  failed : ∀ i : CallbackInputs S, i.served s.context = true →
    (i.failedDirect s.context = true ∨ i.renderFailed = true ∧ s.context.native = true) →
    (s.transmitCallback i).output = some (silence i.frameCount) ∧
      (s.transmitCallback i).hardware.logicalPtt = false
  /-- The epoch counts the edges of the keys of the callback. -/
  counted : ∀ i : CallbackInputs S,
    s.hardware.Publishes (s.transmitCallback i).hardware (i.keys s.context)
  /-- The epoch counts the edges of all keys since the start. -/
  counted_run : s.hardware.transmitEpoch = risingEdges false s.hardware.intents % 2 ^ 61

/-- **The transmit gate**. -/
theorem gated_of_reach (s : TransmitSide S) (h : (transmitRuns (S := S)).Reach s) : Gated s where
  muted i hs hf := by
    rw [CallbackInputs.sampled, Bool.and_eq_true] at hs
    exact muted_of_gate hs.1 fun _ => i.admission_of_forbidden s.context hf
  latched i is t hs hf hmeets hrun := by
    have hgate : (s.transmitCallback i).context.remoteBurstAdmitted = false := by
      rw [remoteBurstAdmitted_transmitCallback hs]
      exact i.admission_of_forbidden s.context hf
    have hlatched := latched_run hgate hmeets hrun
    exact ⟨hlatched.ptt, fun j hj ha => (gate_step hlatched.gate ha).2.1 hj⟩
  failed _ hserved hfailed := muted_of_failed hserved hfailed
  counted _ := publishes_transmitCallback
  counted_run := by
    have hepoch := (publishes_of_reach h).epoch
    have h0 : HardwareAtomics.initial.transmitEpoch = 0 := by decide
    rwa [h0, Nat.zero_add] at hepoch

end TransmitSide

/-! ### Two stations -/

/-- A callback of two frames without a direct controller. -/
def sampleCallback (key : Bool) (remote : RemoteRadioControl)
    (render : Except Unit TransmitResult) : CallbackInputs Int where
  output := some [7, 7, 7, 7]
  frameCount := 2
  physicalPtt := false
  requests := ⟨key, true, false, false, false, none⟩
  remoteSignals := ⟨none, false, none⟩
  remoteTune := false
  direct := ⟨none, 0, 0, 0, [], none⟩
  remoteMuting := remote
  remote := remote
  render := (render, [5, 5, 5, 5])

/-- The remote operation, with and without the permission to transmit. -/
def remoteEnabled (transmitPermitted : Bool) : RemoteRadioControl :=
  ⟨true, true, transmitPermitted, false, false⟩

/-- A station before its first callback. -/
def sampleStation (native : Bool) : TransmitSide Int where
  context := ⟨native, false, 4, true⟩
  hardware := .initial
  returned := callbackOk
  output := none
  rendered := none

/-- A key that is held while transmission is forbidden. -/
def heldKey : CallbackInputs Int := sampleCallback true (remoteEnabled false) (.ok ⟨true, 0⟩)

/-- The same key behind the permission. -/
def permittedKey : CallbackInputs Int := sampleCallback true (remoteEnabled true) (.ok ⟨true, 0⟩)

/-- A rendering that fails while transmission is forbidden. -/
def failedKey : CallbackInputs Int := sampleCallback true (remoteEnabled false) (.error ())

/-- A transmission whose permission is withdrawn and given again. The gate closes for three callbacks, the
second of which fails to render and releases the key, and opens at the fourth. -/
theorem gated_of_heldKey : ∃ s t u : TransmitSide Int,
    transmitRuns.Reach s ∧ s.hardware.logicalPtt = true ∧ TransmitSide.Gated s ∧
    transmitRuns.run s [heldKey, failedKey, heldKey] = some t ∧ t.output = some [0, 0, 0, 0] ∧
    t.hardware.logicalPtt = false ∧
    u = t.transmitCallback permittedKey ∧ u.output = some [5, 5, 5, 5] ∧
    u.hardware.logicalPtt = true ∧ u.hardware.transmitEpoch = 2 ∧ TransmitSide.Gated u := by
  let s := (sampleStation true).transmitCallback permittedKey
  let t := ((s.transmitCallback heldKey).transmitCallback failedKey).transmitCallback heldKey
  have hs : (transmitRuns (S := Int)).Reach s :=
    ⟨sampleStation true, [permittedKey], ⟨rfl, rfl⟩, rfl⟩
  have hu : (transmitRuns (S := Int)).Reach (t.transmitCallback permittedKey) :=
    ⟨sampleStation true, [permittedKey, heldKey, failedKey, heldKey, permittedKey], ⟨rfl, rfl⟩, rfl⟩
  exact ⟨s, t, _, hs, by decide, TransmitSide.gated_of_reach _ hs, rfl, by decide, by decide, rfl,
    by decide, by decide, by decide, TransmitSide.gated_of_reach _ hu⟩

/-- A held key transmits as soon as it is permitted, without a new edge; and a station that is not
native keeps its PTT when a rendering fails. -/
theorem not_off_until_edge :
    (∃ s t : TransmitSide Int, transmitRuns.Reach s ∧ t = s.transmitCallback heldKey ∧
      heldKey.served s.context = true ∧ heldKey.forbidden = true ∧
      t.hardware.logicalPtt = false ∧
      (t.transmitCallback permittedKey).hardware.transmitEpoch = t.hardware.transmitEpoch ∧
      (t.transmitCallback permittedKey).hardware.logicalPtt = true) ∧
    ∃ s : TransmitSide Int, transmitRuns.Reach s ∧ failedKey.served s.context = true ∧
      failedKey.forbidden = true ∧ (s.transmitCallback failedKey).hardware.logicalPtt = true := by
  refine ⟨⟨sampleStation true, _, ⟨_, [], ⟨rfl, rfl⟩, rfl⟩, rfl, by decide⟩,
    ⟨(sampleStation false).transmitCallback permittedKey,
      ⟨sampleStation false, [permittedKey], ⟨rfl, rfl⟩, rfl⟩, by decide⟩⟩

end UsbRadioPlus.Station
