import Mathlib.Logic.Function.Basic
import UsbRadioPlus.Driver.Site

/-!
# The output state of the hardware service (`rust/driver/src/hardware_host.rs`)

The worker of the hardware service keeps one output byte for each of its two banks of pins, and what
it has promised about them: the claims of the site, the reserved pins of the radio signaling, a
remote radio on the control bits of the parallel port, an encoder pin.

What a device answers to a call is an argument of the operation (`DeviceAnswers`). `none` stands for
a panic.
-/

namespace UsbRadioPlus
namespace Driver

open Sys.Mask

/-! ## Plans (`rust/station/src/hardware.rs`) -/

/-- CM119 wiring layout. -/
inductive HardwareInterfaceType where
  | dudeUsb
  | sphUsb
  | nhrc
  | custom
  deriving DecidableEq, Repr

/-- What a pin is configured to. -/
inductive GpioMode where
  | input
  | outputLow
  | outputHigh
  deriving DecidableEq, Repr

/-- The PTT pin and the ordinary pins. -/
def profileMasks : HardwareInterfaceType → U8 × U8
  | .dudeUsb => (1 <<< 2, 0xfb)
  | .sphUsb => (1 <<< 3, 1)
  | .nhrc => (1 <<< 2, 0)
  | .custom => (1 <<< 2, 1)

/-- The pins of the modes that the test picks. -/
def gpioMask (modes : Fin 8 → GpioMode) (test : GpioMode → Bool) : U8 :=
  (List.finRange 8).foldl (fun mask i => if test (modes i) then mask ||| (1 <<< i.val) else mask) 0

/-- CM119 configuration. -/
structure Cm119Plan where
  profile : HardwareInterfaceType
  outputEnableMask : U8
  outputInitialMask : U8
  inputMask : U8
  clipLedMask : U8
  /-- Dedicated PTT is not an ordinary output. -/
  ptt_apart : Apart outputEnableMask (profileMasks profile).1

/-- The CM119 part of `hardware_plan`. -/
def cm119Plan (interfaceType : HardwareInterfaceType) (gpioModes : Fin 8 → GpioMode)
    (clipLedGpio : Option (Fin 8)) : Cm119Plan :=
  let masks := profileMasks interfaceType
  let clipLed := clipLedGpio.elim 0 fun pin => 1 <<< pin.val
  let requested := gpioMask gpioModes (· != .input) ||| clipLed
  let enable := requested &&& masks.2 &&& ~~~masks.1
  { profile := interfaceType
    outputEnableMask := enable
    outputInitialMask := gpioMask gpioModes (· == .outputHigh) &&& enable
    inputMask := ~~~gpioMask gpioModes (· != .input) &&& masks.2 &&& ~~~masks.1
    clipLedMask := clipLed &&& enable
    ptt_apart := apart_iff.mpr fun i hi => by
      simp only [enable, BitVec.getLsbD_and, BitVec.getLsbD_not, Bool.and_eq_true,
        Bool.not_eq_true'] at hi
      exact hi.2.2 }

/-- Parallel-port adapter setup and typed signal assignments. -/
structure ParallelPlan where
  outputEnableMask : U8
  outputInitialMask : U8
  pttMask : U8
  inputMask : U8
  /-- Status bits of the carrier. -/
  carrierMask : U8
  /-- Status bits of an external CTCSS decoder. -/
  ctcssMask : U8
  deriving DecidableEq, Repr

/-- The pins of the station. The fields of a bank are there where the bank is. -/
structure HardwarePlan where
  cm119 : Option Cm119Plan
  parallel : Option ParallelPlan
  pttInverted : Bool

namespace HardwarePlan

variable (self : HardwarePlan)

/-- The pins of a bank that the plan makes outputs. -/
def outputEnableMask : SiteBank → U8
  | .cm119 => self.cm119.elim 0 (·.outputEnableMask)
  | .parallel => self.parallel.elim 0 (·.outputEnableMask)

/-- The outputs that start high. -/
def outputInitialMask : SiteBank → U8
  | .cm119 => self.cm119.elim 0 (·.outputInitialMask)
  | .parallel => self.parallel.elim 0 (·.outputInitialMask)

/-- The outputs that follow the PTT. -/
def pttMask : U8 := self.parallel.elim 0 (·.pttMask)

/-- The output of the clip light. -/
def clipLedMask : U8 := self.cm119.elim 0 (·.clipLedMask)

end HardwarePlan

/-- One admitted output on this radio's existing GPIO owner. -/
structure ExternalEncoder where
  bank : SiteBank
  mask : U8
  inverted : Bool
  deriving DecidableEq, Repr

/-- A synthesizer request. The tones are not programmed. -/
structure RemoteRadio where
  receiveHz : Nat
  transmitHz : Nat
  highPower : Bool
  deriving DecidableEq, Repr

/-! ## Devices -/

/-- What a call of a device answers. -/
inductive GpioError where
  | incompatibleAdapter
  | invalidArgument
  | noMemory
  | usb
  | unsupported
  | io
  | adapterFailure
  deriving DecidableEq, Repr

/-- The call that failed. -/
inductive HardwareOperation where
  | openCm119
  | openParallel
  | publishCm119
  | serviceCm119
  | readCm119
  | readCm119Statistics
  | publishParallel
  | serviceParallel
  | readParallel
  | readParallelStatistics
  | pulseCm119
  | pulseParallel
  | selectChannel
  | programRemoteRadio
  | clearRemoteRadioTransmit
  | confirmCm119Ptt
  | confirmParallelPtt
  | remoteControl
  deriving DecidableEq, Repr

/-- A failed call with its answer. -/
structure ServiceFailure where
  operation : HardwareOperation
  source : GpioError
  deriving DecidableEq, Repr

/-- An open device. All fields are history, of what the service has done with it. -/
structure Device where
  /-- No two devices that were opened have the same number. -/
  serial : Nat
  /-- The levels that it was opened with. -/
  opened : U8
  /-- Outputs were written or pulsed through it. -/
  asserted : Bool
  /-- The levels that it was closed with, with PTT off, if nothing was written since. -/
  closed : Option U8
  /-- Pins that may be inverted by a pulse. -/
  pulsing : U8
  deriving DecidableEq, Repr

namespace Device

variable (self : Device)

/-- A device that was opened with its outputs at `opened`. -/
def «open» (serial : Nat) (opened : U8) : Device := ⟨serial, opened, false, none, 0⟩

/-- An output was written. -/
def touch : Device := { self with asserted := true, closed := none }

/-- A pulse was scheduled on some pins and cancelled on others. -/
def pulse (invert cancel : U8) (answer : Except GpioError Unit) : Device :=
  { self.touch with pulsing := match answer with
      | .ok () => (self.pulsing ||| invert) &&& ~~~cancel
      | .error _ => self.pulsing ||| invert }

end Device

/-- The devices that the service owns. -/
structure ServiceDevices where
  cm119 : Option Device
  parallel : Option Device
  pttInverted : Bool
  deriving DecidableEq, Repr

/-- The pins of a device and the facilities that the service reads. -/
structure GpioCapabilities where
  inputPinMask : BitVec 64
  outputPinMask : BitVec 64

/-- What a statistics call reads from the audio adapter. -/
structure Cm119Inputs where
  online : Bool
  corActive : Bool
  ctcssActive : Bool
  gpioInputMask : U8

/-- What the audio adapter applies. -/
structure Cm119Statistics where
  online : Bool
  pttApplied : Bool

/-- What a statistics call reads from the port. -/
structure ParallelInputs where
  online : Bool
  statusMask : U8

/-- What the port applies. -/
structure ParallelStatistics where
  online : Bool
  appliedOutputMask : U8

/-- What the devices answer to the calls of one step. -/
structure DeviceAnswers where
  capabilitiesCm119 : Except GpioError GpioCapabilities
  pulseCm119 : Except GpioError Unit
  publishCm119 : Except GpioError Unit
  serviceCm119 : Except GpioError Unit
  inputsCm119 : Except GpioError Cm119Inputs
  statisticsCm119 : Except GpioError Cm119Statistics
  capabilitiesParallel : Except GpioError GpioCapabilities
  pulseParallel : Except GpioError Unit
  publishParallel : Except GpioError Unit
  serviceParallel : Except GpioError Unit
  inputsParallel : Except GpioError ParallelInputs
  statisticsParallel : Except GpioError ParallelStatistics
  /-- A second reading in one step. -/
  statisticsAgain : Except GpioError ParallelStatistics
  setBinaryChannel : Except GpioError Unit
  programRtx : Except GpioError Unit
  clearRtxTransmit : Except GpioError Unit
  closeParallel : Except GpioError Unit

/-- `map_err(|source| ServiceFailure(operation, source))`. -/
def failing {α : Type} (operation : HardwareOperation) :
    Except GpioError α → Except ServiceFailure α
  | .ok a => .ok a
  | .error source => .error ⟨operation, source⟩

namespace ServiceDevices

variable (self : ServiceDevices)

/-- The device of a bank. -/
def device : SiteBank → Option Device
  | .cm119 => self.cm119
  | .parallel => self.parallel

/-- `schedule_pulse`, where the device is there. -/
def schedulePulse (bank : SiteBank) (invert cancel : U8) (answers : DeviceAnswers) :
    ServiceDevices :=
  match bank with
  | .cm119 => { self with cm119 := self.cm119.map (·.pulse invert cancel answers.pulseCm119) }
  | .parallel =>
    { self with parallel := self.parallel.map (·.pulse invert cancel answers.pulseParallel) }

/-- A call of the bank's device. -/
def touch (bank : SiteBank) : ServiceDevices :=
  match bank with
  | .cm119 => { self with cm119 := self.cm119.map Device.touch }
  | .parallel => { self with parallel := self.parallel.map Device.touch }

/-- Devices that were just opened: the banks of the plan, with no pulse on their pins. -/
def justOpened (plan : HardwarePlan) : Bool :=
  self.cm119.isSome == plan.cm119.isSome && self.parallel.isSome == plan.parallel.isSome &&
    self.cm119.all (·.pulsing = 0) && self.parallel.all (·.pulsing = 0)

end ServiceDevices

/-- The pulse call of a bank: its name and its answer. -/
def DeviceAnswers.pulse (answers : DeviceAnswers) : SiteBank → Except ServiceFailure Unit
  | .cm119 => failing .pulseCm119 answers.pulseCm119
  | .parallel => failing .pulseParallel answers.pulseParallel

/-- The failure of a bank without a device. -/
def pulseUnsupported : SiteBank → ServiceFailure
  | .cm119 => ⟨.pulseCm119, .unsupported⟩
  | .parallel => ⟨.pulseParallel, .unsupported⟩

/-! ## Commands -/

/-- A request for one output of a site. -/
inductive OutputRequest where
  | inactive
  | active
  | pulse (ticks : Nat)
  deriving DecidableEq, Repr

/-- `OutputCommand::Cm119` and `OutputCommand::Parallel`. -/
structure OutputCommand where
  bank : SiteBank
  bit : U8
  request : OutputRequest
  deriving DecidableEq, Repr

/-- Persistent operator-controlled hardware state transferable across reload. Its fields are private
to the driver: `OutputState.snapshot` makes them, or they are all zero. -/
structure HardwareTransientState where
  outputMask : SiteBank → U8
  remoteRadio : Option RemoteRadio
  siteSafeHigh : SiteBank → U8
  safe_within : ∀ bank, Within (siteSafeHigh bank) (outputMask bank)

/-- Prepared PTT and ordinary-output state. -/
structure Cm119Outputs where
  pttAsserted : Bool
  gpioOutputMask : U8
  deriving DecidableEq, Repr

/-! ## The output state -/

/-- What the service keeps about its outputs. -/
structure OutputState where
  encoder : Option ExternalEncoder
  nativeOutputs : Option Cm119Outputs
  cm119 : U8
  parallel : U8
  remoteRadio : Option RemoteRadio
  remoteRadioDirty : Bool
  remoteRadioPtt : Option Bool
  clipEventsSeen : Nat
  clipLedUntil : Option Nat
  site : SiteBank → SiteBankState
  /-- History: a channel has been selected. -/
  channelSelected : Bool

/-- The pins that select a channel. -/
def parallelBinaryMask : U8 := 0xf0
/-- The pins of the serial control of a remote radio. -/
def parallelRtxControlMask : U8 := 0x1f
/-- The pin that keys the remote radio. -/
def parallelRtxTransmitMask : U8 := 0x08
/-- The pin that sets its power. -/
def parallelRtxPowerMask : U8 := 0x10

/-- The final output byte of the parallel port. -/
def parallelOutput (plan : ParallelPlan) (persistent : U8) (logicalPtt pttInverted : Bool) : U8 :=
  let output := persistent &&& ~~~plan.pttMask
  if logicalPtt != pttInverted then output ||| plan.pttMask else output

/-- The output behind a request that is no pulse. -/
def applyPersistent (value bit : U8) : OutputRequest → U8
  | .inactive => value &&& ~~~bit
  | .active => value ||| bit
  | .pulse _ => value

/-- What an operation that calls devices leaves, and its result. -/
structure Outcome where
  outputs : OutputState
  devices : ServiceDevices
  result : Except ServiceFailure Unit

namespace OutputState

variable (self : OutputState)

/-- The output byte of a bank. -/
def output : SiteBank → U8
  | .cm119 => self.cm119
  | .parallel => self.parallel

/-- The outputs of a bank. -/
def setOutput (bank : SiteBank) (value : U8) : OutputState :=
  match bank with
  | .cm119 => { self with cm119 := value }
  | .parallel => { self with parallel := value }

/-- The guarded bindings of a bank. -/
def setSite (bank : SiteBank) (state : SiteBankState) : OutputState :=
  { self with site := Function.update self.site bank state }

/-- The initial state of a plan, and the generation counter. -/
def new (next : Nat) (plan : HardwarePlan) (remoteRadio : Option RemoteRadio) : OutputState × Nat :=
  let (cm119, next) := SiteBankState.new next 0 ((plan.outputEnableMask .cm119).setWidth 32) 0
    ((plan.outputInitialMask .cm119).setWidth 32)
  let (parallel, next) := SiteBankState.new next 0 ((plan.outputEnableMask .parallel).setWidth 32)
    (plan.pttMask.setWidth 32) ((plan.outputInitialMask .parallel).setWidth 32)
  ({ encoder := none
     nativeOutputs := none
     cm119 := plan.outputInitialMask .cm119
     parallel := plan.outputInitialMask .parallel
     remoteRadio
     remoteRadioDirty := remoteRadio.isSome
     remoteRadioPtt := none
     clipEventsSeen := 0
     clipLedUntil := none
     site := fun | .cm119 => cm119 | .parallel => parallel
     channelSelected := false }, next)

/-- `set_encoder`: the pin of the external encoder. -/
def setEncoder (active : Bool) : OutputState :=
  match self.encoder with
  | none => self
  | some encoder =>
    let output := self.output encoder.bank
    self.setOutput encoder.bank
      (if active != encoder.inverted then output ||| encoder.mask else output &&& ~~~encoder.mask)

/-- No old pulse may override the new steady owner. -/
def cancelPulses (bank : SiteBank) (mask : U8) (devices : ServiceDevices)
    (answers : DeviceAnswers) : Outcome :=
  match devices.device bank with
  | none => ⟨self, devices, .error (pulseUnsupported bank)⟩
  | some _ => ⟨self, devices.schedulePulse bank 0 mask answers, answers.pulse bank⟩

/-- `bind_encoder`: the pin is reserved and driven low. -/
def bindEncoder (encoder : Option ExternalEncoder) (devices : ServiceDevices)
    (answers : DeviceAnswers) : Option Outcome :=
  match encoder with
  | some encoder =>
    match (self.site encoder.bank).reserve (encoder.mask.setWidth 32) with
    | (_, false) => none
    | (site, true) =>
      let self := ((self.setSite encoder.bank site).setEncoder false)
      let self := { self with encoder := some encoder }.setEncoder false
      some (self.cancelPulses encoder.bank encoder.mask devices answers)
  | none => some ⟨{ self.setEncoder false with encoder := none }, devices, .ok ()⟩

/-- The outputs of a bank behind the end of its bindings. -/
def retireBank (bank : SiteBank) : OutputState :=
  let (site, output) := (self.site bank).retire (self.output bank)
  (self.setSite bank site).setOutput bank output

/-- `retire_site`: the encoder and both banks. -/
def retireSite : OutputState :=
  { ((self.setEncoder false).retireBank .cm119).retireBank .parallel with nativeOutputs := none }

/-- `prepare_site` for the CM119 bank. -/
def prepareCm119 (next : Nat) (plan : HardwarePlan) (devices : ServiceDevices)
    (answers : DeviceAnswers) : OutputState × Nat × Except ServiceFailure Unit :=
  let safeHigh := (self.site .cm119).safeHigh
  match devices.cm119 with
  | none =>
    let (site, next) := SiteBankState.new next 0 0 0 0
    (self.setSite .cm119 (site.restoreSafeHigh safeHigh), next, .ok ())
  | some _ => match answers.capabilitiesCm119 with
    | .error error => (self, next, .error ⟨.openCm119, error⟩)
    | .ok caps =>
      let (site, next) := SiteBankState.new next
        (caps.inputPinMask.setWidth 32 &&& (plan.cm119.elim 0 (·.inputMask)).setWidth 32)
        (caps.outputPinMask.setWidth 32 &&& (plan.outputEnableMask .cm119).setWidth 32)
        (plan.clipLedMask.setWidth 32) (self.cm119.setWidth 32)
      (self.setSite .cm119 (site.restoreSafeHigh safeHigh), next, .ok ())

/-- `prepare_site` for the parallel bank. -/
def prepareParallel (next : Nat) (plan : HardwarePlan) (devices : ServiceDevices)
    (answers : DeviceAnswers) : OutputState × Nat × Except ServiceFailure Unit :=
  let safeHigh := (self.site .parallel).safeHigh
  match devices.parallel, plan.parallel with
  | some _, some parallel => match answers.capabilitiesParallel with
    | .error error => (self, next, .error ⟨.openParallel, error⟩)
    | .ok caps =>
      let (site, next) := SiteBankState.new next
        (caps.inputPinMask.setWidth 32 &&& (parallel.inputMask.setWidth 32 <<< 8))
        (caps.outputPinMask.setWidth 32 &&& parallel.outputEnableMask.setWidth 32)
        ((parallel.pttMask ||| (if self.remoteRadio.isSome then parallelRtxControlMask else 0)
          ).setWidth 32) (self.parallel.setWidth 32)
      (self.setSite .parallel (site.restoreSafeHigh safeHigh), next, .ok ())
  | _, _ => (self, next, .ok ())

/-- Recovery rebuilds site claims; retain the existing radio-signaling owner. -/
def prepareSite (next : Nat) (plan : HardwarePlan) (devices : ServiceDevices)
    (answers : DeviceAnswers) : Option (Outcome × Nat) :=
  match self.prepareCm119 next plan devices answers with
  | (self, next, .error e) => some (⟨self, devices, .error e⟩, next)
  | (self, next, .ok ()) => match self.prepareParallel next plan devices answers with
    | (self, next, .error e) => some (⟨self, devices, .error e⟩, next)
    | (self, next, .ok ()) =>
      (self.bindEncoder self.encoder devices answers).map fun outcome => (outcome, next)

/-- `site_bind`: a valid binding gets the next token and drives its safe outputs. -/
def siteBind (next : Nat) (bank : SiteBank) (binding : SiteDigitalBinding)
    (devices : ServiceDevices) (answers : DeviceAnswers) : Outcome × Nat :=
  let state := self.site bank
  match state.validateBinding binding with
  | .error error => (⟨self.setSite bank (state.reject error), devices, .ok ()⟩, next)
  | .ok () =>
    let mask : U8 := (state.snapshot.claimedMask ||| binding.outputMask).setWidth 8
    -- A pulse queued by the former owner must not change a newly claimed pin.
    let cancelled : Outcome :=
      if mask ≠ 0 then self.cancelPulses bank mask devices answers else ⟨self, devices, .ok ()⟩
    match cancelled.result with
    | .error error =>
      (⟨self.setSite bank (state.reject .fault), cancelled.devices, .error error⟩, next)
    | .ok () => match state.bind next binding (self.output bank) with
      | .error error => (⟨self.setSite bank (state.reject error), cancelled.devices, .ok ()⟩, next)
      | .ok (state, output, next) =>
        (⟨(self.setSite bank state).setOutput bank output, cancelled.devices, .ok ()⟩, next)

/-- `site_publish` -/
def sitePublish (bank : SiteBank) (request : SiteDigitalRequest) : OutputState :=
  let state := self.site bank
  match state.apply request (self.output bank) with
  | .error error => self.setSite bank (state.reject error)
  | .ok (state, output) => (self.setSite bank state).setOutput bank output

/-- An ordinary output command. -/
def apply (command : OutputCommand) (devices : ServiceDevices) (answers : DeviceAnswers) :
    Option Outcome :=
  let { bank, bit, request } := command
  if self.encoder.any fun encoder => encoder.bank = bank ∧ encoder.mask &&& bit ≠ 0 then
    some ⟨self, devices, .error ⟨.remoteControl, .unsupported⟩⟩
  else if !(self.site bank).permitsOrdinary (bit.setWidth 32) then
    some ⟨self.setSite bank ((self.site bank).reject .unavailable), devices, .ok ()⟩
  else match bank, devices.device bank with
    | .cm119, none => some ⟨self, devices, .error (pulseUnsupported .cm119)⟩
    -- "a validated parallel output owns a device"
    | .parallel, none => none
    | bank, some _ =>
      let devices := match request with
        | .pulse _ => devices.schedulePulse bank bit 0 answers
        | _ => devices.schedulePulse bank 0 bit answers
      match answers.pulse bank with
      | .error e => some ⟨self, devices, .error e⟩
      | .ok () =>
        let self := self.setOutput bank (applyPersistent (self.output bank) bit request)
        some ⟨self.setSite bank ((self.site bank).releaseSafeHigh bit), devices, .ok ()⟩

theorem within_retiredOutput (site : SiteBankState) (output : U8) :
    Within site.safeHigh (site.retiredOutput output) := within_iff.mpr fun i hi => by
  simp only [SiteBankState.safeHigh, BitVec.getLsbD_setWidth, Bool.and_eq_true] at hi
  simp [SiteBankState.retiredOutput, hi]

/-- `snapshot`: what a reload hands on. -/
def snapshot : HardwareTransientState where
  outputMask bank := (self.site bank).retiredOutput (self.output bank)
  remoteRadio := self.remoteRadio
  siteSafeHigh bank := (self.site bank).safeHigh
  safe_within bank := within_retiredOutput (self.site bank) (self.output bank)

/-- `restore`: the outputs that the plan still has. -/
def restore (state : HardwareTransientState) (plan : HardwarePlan) : OutputState :=
  let site : SiteBank → SiteBankState := fun bank =>
    (self.site bank).restoreSafeHigh (state.siteSafeHigh bank)
  let cm119Mask := plan.outputEnableMask .cm119 &&&
    ~~~(site .cm119).snapshot.claimedMask.setWidth 8
  let self := { self with
    site, cm119 := (self.cm119 &&& ~~~cm119Mask) ||| (state.outputMask .cm119 &&& cm119Mask) }
  match plan.parallel with
  | none => self
  | some parallel =>
    let preserved : U8 := (site .parallel).snapshot.claimedMask.setWidth 8
    let self := { self with
      parallel := (self.parallel &&& preserved) |||
        (state.outputMask .parallel &&& ~~~parallel.pttMask &&& ~~~preserved) }
    if preserved &&& parallelRtxControlMask = 0 then { self with
      remoteRadio := state.remoteRadio
      remoteRadioDirty := state.remoteRadio.isSome
      remoteRadioPtt := none }
    else self

/-- `select_channel`: the pins are reserved, and then they are driven. -/
def selectChannel (channel : U8) (devices : ServiceDevices) (answers : DeviceAnswers) : Outcome :=
  match (self.site .parallel).reserve (parallelBinaryMask.setWidth 32) with
  | (site, false) => ⟨self.setSite .parallel site, devices, .error ⟨.selectChannel, .unsupported⟩⟩
  | (site, true) =>
    let self := self.setSite .parallel site
    match devices.parallel with
    | none => ⟨self, devices, .error ⟨.selectChannel, .unsupported⟩⟩
    | some _ =>
      let devices := devices.touch .parallel
      match answers.setBinaryChannel with
      | .error e => ⟨self, devices, .error ⟨.selectChannel, e⟩⟩
      | .ok () => ⟨{ self with
          parallel := (self.parallel ||| parallelBinaryMask) &&& ~~~(channel <<< 4)
          channelSelected := true }, devices, .ok ()⟩

/-- `configure_remote_radio`: the pins are reserved; the next cycle programs the radio. -/
def configureRemoteRadio (settings : RemoteRadio) : OutputState × Except ServiceFailure Unit :=
  match (self.site .parallel).reserve (parallelRtxControlMask.setWidth 32) with
  | (site, false) => (self.setSite .parallel site, .error ⟨.programRemoteRadio, .unsupported⟩)
  | (site, true) => ({ self.setSite .parallel site with
      remoteRadio := some settings, remoteRadioDirty := true }, .ok ())

/-- `service_remote_radio`: the radio is programmed where its settings are new. -/
def serviceRemoteRadio (devices : ServiceDevices) (logicalPtt : Bool) (answers : DeviceAnswers) :
    Outcome :=
  match self.remoteRadio with
  | none => ⟨self, devices, .ok ()⟩
  | some settings =>
    if !self.remoteRadioDirty && self.remoteRadioPtt == some logicalPtt then ⟨self, devices, .ok ()⟩
    else match devices.parallel with
      | none => ⟨self, devices, .error ⟨.programRemoteRadio, .unsupported⟩⟩
      | some _ =>
        let done (self : OutputState) : OutputState :=
          { self with remoteRadioDirty := false, remoteRadioPtt := some logicalPtt }
        if settings.receiveHz = 0 then
          if self.remoteRadioPtt == some true && !logicalPtt then
            let devices := devices.touch .parallel
            match answers.clearRtxTransmit with
            | .error e => ⟨self, devices, .error ⟨.clearRemoteRadioTransmit, e⟩⟩
            | .ok () => ⟨done { self with parallel :=
                self.parallel &&& ~~~(parallelRtxTransmitMask ||| parallelRtxPowerMask) },
                devices, .ok ()⟩
          else ⟨done self, devices, .ok ()⟩
        else
          let devices := devices.touch .parallel
          match answers.programRtx with
          | .error e => ⟨self, devices, .error ⟨.programRemoteRadio, e⟩⟩
          | .ok () =>
            let parallel := self.parallel &&& ~~~parallelRtxControlMask
            ⟨done { self with
              parallel := if logicalPtt then parallel ||| parallelRtxTransmitMask else parallel },
              devices, .ok ()⟩

/-- `service_clip_led`: a clip that is new lights it. -/
def serviceClipLed (devices : ServiceDevices) (clipLedMask : U8) (clipEvents now : Nat)
    (answers : DeviceAnswers) : Outcome :=
  if clipEvents = self.clipEventsSeen then ⟨self, devices, .ok ()⟩
  else
    let self := { self with clipEventsSeen := clipEvents }
    if clipLedMask = 0 ∨ self.clipLedUntil.any (now < ·) then ⟨self, devices, .ok ()⟩
    else match devices.cm119 with
      | none => ⟨self, devices, .error (pulseUnsupported .cm119)⟩
      | some _ =>
        let devices := devices.schedulePulse .cm119 clipLedMask 0 answers
        match answers.pulse .cm119 with
        | .error e => ⟨self, devices, .error e⟩
        | .ok () => ⟨{ self with clipLedUntil := some (now + 500) }, devices, .ok ()⟩

end OutputState
end Driver
end UsbRadioPlus
