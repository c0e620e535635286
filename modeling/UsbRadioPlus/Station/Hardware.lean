import UsbRadioPlus.Driver.OutputState
import UsbRadioPlus.Station.Configuration

/-!
# Hardware of a station (`rust/station/src/hardware.rs`)

`hardwarePlan` translates the hardware options of a channel into requests for the audio and GPIO
adapters. The masks of the CM119 and of the parallel port are those that the driver receives
(`Driver.cm119Plan`, `Driver.ParallelPlan`).

A pin that may be an output of the CM119 is an output where its mode says so or where the clip LED is
wired to it. The input mask follows the modes alone, so the two have a pin in common exactly where the
LED is wired to a pin whose mode is left at input (`hardwarePlan_consistent_iff`).
-/

namespace UsbRadioPlus
namespace Station

open Sys Sys.Mask Rust
open Driver (U8 ParallelPlan Cm119Plan cm119Plan profileMasks)

/-! ## Plans -/

/-- How an audio device is selected. -/
inductive SelectionPolicy where
  | automatic | exact
  deriving DecidableEq, Repr

/-- The channels of a direction. -/
inductive ChannelCount where
  | mono | stereo
  deriving DecidableEq, Repr

/-- The audio device of a station. -/
structure DeviceSelector where
  policy : SelectionPolicy
  identifier : Option Str
  serial : Option Str
  inputChannels : ChannelCount
  outputChannels : ChannelCount
  deriving DecidableEq

/-- CM119 settings which do not depend on the resolved USB topology. -/
structure Cm119Request where
  requiredUsbPortPath : Option Str
  requiredSerial : Option Str
  plan : Cm119Plan

/-- Optional parallel-port settings and signal assignments. -/
structure ParallelRequest where
  ppdevPath : Option Str
  rawIoBase : Nat
  plan : ParallelPlan

/-- Immutable requests needed before one channel opens physical hardware. -/
structure HardwarePlan where
  audioSelector : DeviceSelector
  inputExtraBufferMs : Nat
  outputExtraBufferMs : Nat
  cm119 : Option Cm119Request
  pttInverted : Bool
  parallel : Option ParallelRequest

/-- The interface as the driver names it. -/
def HardwareInterfaceType.wiring : HardwareInterfaceType → Driver.HardwareInterfaceType
  | .dudeUsb => .dudeUsb
  | .sphUsb => .sphUsb
  | .nhrc => .nhrc
  | .custom => .custom

/-- The mode as the driver names it. -/
def GpioMode.wiring : GpioMode → Driver.GpioMode
  | .input => .input
  | .outputLow => .outputLow
  | .outputHigh => .outputHigh

/-- An empty text stands for none. -/
def optionalText (value : Str) : Option Str := if value = [] then none else some value

/-- The LED's pin. Outside 1 to 8 the subtraction or the shift of `1 << (pin - 1)` panics. -/
def clipLedPin : Option Nat → Option (Option (Fin 8))
  | none => some none
  | some pin => if h : 1 ≤ pin ∧ pin ≤ 8 then some (some ⟨pin - 1, pinIndex_lt h⟩) else none

/-! ## The parallel port -/

/-- `PARALLEL_STATUS_BITS`: the bits of pins 10, 12, 13 and 15. -/
def parallelStatusBits : Fin 4 → U8
  | 0 => 1 <<< 6
  | 1 => 1 <<< 5
  | 2 => 1 <<< 4
  | 3 => 1 <<< 3

/-- The outputs whose assignment passes a test. -/
def assignedMask (outputs : Fin 8 → Option ParallelOutputAssignment)
    (test : Option ParallelOutputAssignment → Bool) : U8 :=
  gather (fun i : Fin 8 => 1 <<< i.val) (fun i => test (outputs i)) (List.finRange 8)

/-- One turn of the loop over the inputs: input, carrier and CTCSS. -/
def assignInput (inputs : Fin 4 → Option ParallelInputAssignment) (masks : U8 × U8 × U8) (i : Fin 4) :
    U8 × U8 × U8 :=
  let (input, carrier, ctcss) := masks
  match inputs i with
  | some .input => (input ||| parallelStatusBits i, carrier, ctcss)
  | some .carrier => (input, carrier ||| parallelStatusBits i, ctcss)
  | some .ctcss => (input, carrier, ctcss ||| parallelStatusBits i)
  | none => (input, carrier, ctcss)

/-- The masks of the port. -/
def parallelMasks (outputs : Fin 8 → Option ParallelOutputAssignment)
    (inputs : Fin 4 → Option ParallelInputAssignment) : ParallelPlan :=
  let (inputMask, carrierMask, ctcssMask) := (List.finRange 4).foldl (assignInput inputs) (0, 0, 0)
  { outputEnableMask := assignedMask outputs (·.isSome)
    outputInitialMask := assignedMask outputs (· == some .high)
    pttMask := assignedMask outputs (· == some .pushToTalk)
    inputMask, carrierMask, ctcssMask }

/-- `parallel_plan`: no port without an assigned pin. -/
def parallelPlan (hardware : ConfigValues) : Option ParallelRequest :=
  if (List.finRange 8).any (fun i => (hardware (.parallelOutput i)).isSome) ||
      (List.finRange 4).any (fun i => (hardware (.parallelInput i)).isSome) then
    some {
      ppdevPath := optionalText (hardware (.text .parallelPortDevice))
      rawIoBase := hardware (.integer .baseAddress)
      plan := parallelMasks (fun i => hardware (.parallelOutput i)) fun i => hardware (.parallelInput i) }
  else none

/-- Translate one validated channel into immutable hardware adapter requests. -/
def hardwarePlan (hardware : ConfigValues) : Option HardwarePlan :=
  let deviceIdentifier := optionalText (hardware (.text .deviceIdentifier))
  let gpioUsbPortPath := optionalText (hardware (.text .gpioUsbPortPath))
  let serial := optionalText (hardware (.text .serial))
  let exact := deviceIdentifier.isSome || gpioUsbPortPath.isSome || serial.isSome
  (clipLedPin (hardware .clipLedGpio)).map fun clipLed =>
    { audioSelector := {
        policy := if exact then .exact else .automatic
        identifier := deviceIdentifier <|> gpioUsbPortPath
        serial
        inputChannels := .mono
        outputChannels := .stereo }
      inputExtraBufferMs := hardware (.integer .inputExtraBufferMs)
      outputExtraBufferMs := hardware (.integer .outputExtraBufferMs)
      cm119 := some {
        requiredUsbPortPath := gpioUsbPortPath
        requiredSerial := serial
        plan := cm119Plan (hardware .interfaceType).wiring (fun i => (hardware (.gpioMode i)).wiring)
          clipLed }
      pttInverted := hardware (.flag .pttInverted)
      parallel := parallelPlan hardware }

/-! ## The parallel masks -/

theorem foldl_assignInput (inputs : Fin 4 → Option ParallelInputAssignment) :
    (List.finRange 4).foldl (assignInput inputs) (0, 0, 0) =
      (gather parallelStatusBits (fun i => inputs i == some .input) (List.finRange 4),
        gather parallelStatusBits (fun i => inputs i == some .carrier) (List.finRange 4),
        gather parallelStatusBits (fun i => inputs i == some .ctcss) (List.finRange 4)) := by
  suffices h : ∀ (l : List (Fin 4)) (a b c : U8), l.foldl (assignInput inputs) (a, b, c) =
      (l.foldl (fun m i => if inputs i == some .input then m ||| parallelStatusBits i else m) a,
        l.foldl (fun m i => if inputs i == some .carrier then m ||| parallelStatusBits i else m) b,
        l.foldl (fun m i => if inputs i == some .ctcss then m ||| parallelStatusBits i else m) c) from
    h _ 0 0 0
  intro l
  induction l with
  | nil => exact fun _ _ _ => rfl
  | cons i l ih =>
    intro a b c
    simp only [List.foldl_cons]
    rw [assignInput]
    rcases inputs i with _ | _ | _ | _ <;> exact ih _ _ _

/-- Signals of different kinds are on different pins. -/
theorem apart_inputs {inputs : Fin 4 → Option ParallelInputAssignment} {a b : ParallelInputAssignment}
    (h : a ≠ b) : Apart (gather parallelStatusBits (fun i => inputs i == some a) (List.finRange 4))
      (gather parallelStatusBits (fun i => inputs i == some b) (List.finRange 4)) := by
  refine apart_gather fun i _ j _ hi hj => ?_
  have hne : i ≠ j := fun heq => h (Option.some.inj ((eq_of_beq hi).symm.trans (heq ▸ eq_of_beq hj)))
  exact (by decide : ∀ i j : Fin 4, i ≠ j → Apart (parallelStatusBits i) (parallelStatusBits j)) i j hne

/-- What the masks of a parallel port owe. -/
structure ParallelConsistent (plan : ParallelPlan) : Prop where
  ptt_enabled : Within plan.pttMask plan.outputEnableMask
  ptt_initial : Apart plan.pttMask plan.outputInitialMask
  initial_enabled : Within plan.outputInitialMask plan.outputEnableMask
  carrier_ctcss : Apart plan.carrierMask plan.ctcssMask
  carrier_input : Apart plan.carrierMask plan.inputMask
  ctcss_input : Apart plan.ctcssMask plan.inputMask

theorem parallelMasks_consistent (outputs : Fin 8 → Option ParallelOutputAssignment)
    (inputs : Fin 4 → Option ParallelInputAssignment) :
    ParallelConsistent (parallelMasks outputs inputs) := by
  have hsome {i : Fin 8} {a : ParallelOutputAssignment} (h : (outputs i == some a) = true) :
      (outputs i).isSome = true := by rw [eq_of_beq h]; rfl
  rw [parallelMasks, foldl_assignInput]
  refine ⟨within_gather fun i _ hi => hsome hi, apart_gather fun i _ j _ hi hj => ?_,
    within_gather fun i _ hi => hsome hi, apart_inputs (by decide), apart_inputs (by decide),
    apart_inputs (by decide)⟩
  have hne : i ≠ j := fun heq =>
    absurd (Option.some.inj ((eq_of_beq hi).symm.trans (heq ▸ eq_of_beq hj))) (by decide)
  exact (by decide : ∀ i j : Fin 8, i ≠ j → Apart (1#8 <<< i.val) (1#8 <<< j.val)) i j hne

/-- The status lines are bits 3 to 6. -/
theorem parallelMasks_input_within (outputs : Fin 8 → Option ParallelOutputAssignment)
    (inputs : Fin 4 → Option ParallelInputAssignment) :
    Within (parallelMasks outputs inputs).inputMask 0x78#8 := by
  rw [parallelMasks, foldl_assignInput]
  exact gather_within fun i _ _ => (by decide : ∀ i, Within (parallelStatusBits i) 0x78#8) i

/-! ## The CM119 masks -/

/-- The pin may be an ordinary output or input. -/
def ordinaryPin (interfaceType : HardwareInterfaceType) (pin : Fin 8) : Bool :=
  (profileMasks interfaceType.wiring).2.getLsbD pin && !(profileMasks interfaceType.wiring).1.getLsbD pin

/-- What the masks of a CM119 owe. -/
structure Cm119Consistent (plan : Cm119Plan) : Prop where
  input_output : Apart plan.inputMask plan.outputEnableMask
  input_ptt : Apart plan.inputMask (profileMasks plan.profile).1
  output_ptt : Apart plan.outputEnableMask (profileMasks plan.profile).1
  initial_enabled : Within plan.outputInitialMask plan.outputEnableMask
  led_enabled : Within plan.clipLedMask plan.outputEnableMask

theorem getLsbD_pin : ∀ i pin : Fin 8, (1#8 <<< i.val).getLsbD pin = decide (i = pin) := by
  decide

theorem getLsbD_gpioMask {modes : Fin 8 → Driver.GpioMode} {test : Driver.GpioMode → Bool} (pin : Fin 8) :
    (Driver.gpioMask modes test).getLsbD pin = test (modes pin) := by
  have hgather : Driver.gpioMask modes test =
      gather (fun i : Fin 8 => 1#8 <<< i.val) (fun i => test (modes i)) (List.finRange 8) := rfl
  rw [hgather, getLsbD_gather, Bool.eq_iff_iff]
  simp only [getLsbD_pin, List.any_eq_true, Bool.and_eq_true, decide_eq_true_eq]
  exact ⟨fun ⟨i, _, hi, heq⟩ => heq ▸ hi, fun h => ⟨pin, List.mem_finRange pin, h, rfl⟩⟩

theorem getLsbD_led {clipLed : Option (Fin 8)} (pin : Fin 8) :
    ((clipLed.elim 0 fun pin => 1 <<< pin.val : Nat) : U8).getLsbD pin = decide (clipLed = some pin) := by
  cases clipLed with
  | none => exact (by decide : ∀ pin : Fin 8, (0#8).getLsbD pin = false) pin
  | some led =>
    simp only [Option.elim_some, Option.some.injEq]
    exact (by decide : ∀ led pin : Fin 8,
      ((1 <<< led.val : Nat) : U8).getLsbD pin = decide (led = pin)) led pin

theorem apart_iff_pins {x y : U8} :
    Apart x y ↔ ∀ pin : Fin 8, x.getLsbD pin = true → y.getLsbD pin = false := by
  rw [apart_iff]
  refine ⟨fun h pin => h pin, fun h i hi => h ⟨i, BitVec.lt_of_getLsbD hi⟩ hi⟩

/-- The inputs and the outputs have a pin in common exactly where the LED is on a pin of mode input. -/
theorem input_output_iff {interfaceType : HardwareInterfaceType} {modes : Fin 8 → GpioMode}
    {clipLed : Option (Fin 8)} :
    let plan := cm119Plan interfaceType.wiring (fun i => (modes i).wiring) clipLed
    Apart plan.inputMask plan.outputEnableMask ↔
      ∀ pin ∈ clipLed, modes pin = .input → ordinaryPin interfaceType pin = false := by
  have hmode (pin : Fin 8) : ((modes pin).wiring != .input) = false ↔ modes pin = .input := by
    cases modes pin <;> decide
  simp only [cm119Plan]
  rw [apart_iff_pins]
  simp only [BitVec.getLsbD_and, BitVec.getLsbD_or, BitVec.getLsbD_not, getLsbD_gpioMask, getLsbD_led,
    Fin.is_lt, decide_true, Bool.true_and, Bool.and_eq_true, Bool.not_eq_true', hmode]
  simp only [ordinaryPin]
  constructor
  · intro h pin hpin hinput
    have hpin' := h pin
    rw [(hmode pin).mpr hinput, decide_eq_true (Option.mem_def.mp hpin)] at hpin'
    cases ho : (profileMasks interfaceType.wiring).2.getLsbD pin <;>
      cases hp : (profileMasks interfaceType.wiring).1.getLsbD pin <;> simp_all
  · rintro h pin ⟨⟨hinput, ho⟩, hp⟩
    have hled : clipLed ≠ some pin := fun hpin => by
      have := h pin hpin hinput
      rw [ho, hp] at this
      nomatch this
    rw [(hmode pin).mpr hinput, decide_eq_false hled]
    rfl

theorem cm119Plan_consistent_iff {interfaceType : HardwareInterfaceType} {modes : Fin 8 → GpioMode}
    {clipLed : Option (Fin 8)} :
    Cm119Consistent (cm119Plan interfaceType.wiring (fun i => (modes i).wiring) clipLed) ↔
      ∀ pin ∈ clipLed, modes pin = .input → ordinaryPin interfaceType pin = false := by
  refine ⟨fun h => input_output_iff.mp h.input_output, fun h => ?_⟩
  exact ⟨input_output_iff.mpr h, apart_clear _ _, Cm119Plan.ptt_apart _, within_and_right,
    within_and_right⟩

/-! ## The plan -/

/-- No pin of a plan is both an input and an output, and every role lies where it must. -/
structure HardwarePlan.Consistent (plan : HardwarePlan) : Prop where
  cm119 : ∀ request ∈ plan.cm119, Cm119Consistent request.plan
  parallel : ∀ request ∈ plan.parallel, ParallelConsistent request.plan

/-- The clip LED is not wired to an ordinary pin that is left at input. -/
def LedDriven (hardware : ConfigValues) : Prop :=
  ∀ pin : Fin 8, hardware .clipLedGpio = some (pin.val + 1) → hardware (.gpioMode pin) = .input →
    ordinaryPin (hardware .interfaceType) pin = false

theorem clipLedPin_eq_some {configured : Option Nat} {clipLed : Option (Fin 8)}
    (h : clipLedPin configured = some clipLed) (pin : Fin 8) :
    pin ∈ clipLed ↔ configured = some (pin.val + 1) := by
  cases configured with
  | none =>
    obtain rfl := Option.some.inj h
    exact iff_of_false (fun h => (nomatch h)) fun h => (nomatch h)
  | some number =>
    rw [clipLedPin] at h
    split at h
    · rename_i hnumber
      obtain rfl := Option.some.inj h
      rw [Option.mem_def, Option.some.injEq, Option.some.injEq, Fin.ext_iff]
      simp only
      omega
    · nomatch h

/-- The plan of a configuration is consistent exactly where the LED's pin is an output. -/
theorem hardwarePlan_consistent_iff (hardware : ConfigValues) {plan : HardwarePlan}
    (h : hardwarePlan hardware = some plan) : plan.Consistent ↔ LedDriven hardware := by
  obtain ⟨clipLed, hled, rfl⟩ := Option.map_eq_some_iff.mp h
  constructor
  · intro hplan pin hpin
    exact cm119Plan_consistent_iff.mp (hplan.cm119 _ rfl) pin ((clipLedPin_eq_some hled pin).mpr hpin)
  · intro hdriven
    refine ⟨fun request hrequest => ?_, fun request hrequest => ?_⟩
    · obtain rfl := Option.some.inj hrequest
      exact cm119Plan_consistent_iff.mpr fun pin hpin =>
        hdriven pin ((clipLedPin_eq_some hled pin).mp hpin)
    · obtain ⟨-, rfl⟩ : _ ∧ _ = request := by
        simpa only [parallelPlan, Option.mem_def, Option.ite_none_right_eq_some, Option.some.injEq]
          using hrequest
      exact parallelMasks_consistent (fun i => hardware (.parallelOutput i)) fun i =>
        hardware (.parallelInput i)

/-- Outputs on three pins, the clip LED on one of them, and a parallel port. -/
def wiredHardware : ConfigValues
  | .gpioMode pin =>
    if pin.val = 0 then .outputHigh
    else if pin.val = 4 ∨ pin.val = 7 then .outputLow
    else .input
  | .clipLedGpio => some 8
  | .parallelOutput pin =>
    if pin.val = 0 then some .pushToTalk else if pin.val = 3 then some .high else none
  | .parallelInput pin =>
    if pin.val = 0 then some .carrier else if pin.val = 2 then some .input else none
  | field => ConfigValues.default field

theorem hardwarePlan_consistent_iff_wired : ∃ plan, hardwarePlan wiredHardware = some plan ∧
    plan.Consistent ∧
    plan.cm119.map (fun request => (request.plan.inputMask, request.plan.outputEnableMask)) =
      some (0x6a#8, 0x91#8) ∧
    plan.parallel.map (fun request => (request.plan.pttMask, request.plan.outputInitialMask,
      request.plan.carrierMask, request.plan.inputMask)) = some (0x01#8, 0x08#8, 0x40#8, 0x10#8) := by
  have hdriven : LedDriven wiredHardware := by
    intro pin hled hinput
    obtain rfl : pin = 7 := Fin.ext (Nat.succ.inj (Option.some.inj hled).symm)
    cases hinput
  exact ⟨_, rfl, (hardwarePlan_consistent_iff wiredHardware rfl).mpr hdriven, by decide, by decide⟩

/-- A clip LED on pin 8, and every other option at its default. -/
def ledOnInput : ConfigValues := Function.update ConfigValues.default .clipLedGpio (some 8)

/-- Pin 8 is an input and an enabled output. -/
theorem hardwarePlan_led_on_input : ∃ plan, hardwarePlan ledOnInput = some plan ∧
    plan.cm119.map (fun request => (request.plan.inputMask, request.plan.outputEnableMask)) =
      some (0xfb#8, 0x80#8) ∧ ¬plan.Consistent := by
  refine ⟨_, rfl, by decide, fun h => ?_⟩
  exact absurd (h.cm119 _ rfl).input_output (by decide)

end Station
end UsbRadioPlus
