/-!
# Station plans (`rust/station/src/control.rs`, `rust/station/src/remote_plan.rs`)

A plan describes one generation of a station. The update only compares its descriptions or hands
them on, so their types, and what the planning computes from them, are a parameter
(`StationParts`). What the update itself reads is here: which descriptions have to stay equal, and
the remote operating state that a plan retains.
-/

namespace UsbRadioPlus
namespace Station

/-- `RadioError` of the radio provider. -/
inductive RadioError where
  | incompatibleAdapter
  | invalidArgument
  | providerFailed
  | frameCountExceeded
  | unsupported
  | notReady
  | busy
  | adapterFailure
  deriving DecidableEq, Repr

/-- Asterisk-facing controller transport. -/
inductive ControllerTransport where
  | appRpt
  | rptAdvanced
  deriving DecidableEq, Repr

/-- Configured carrier qualification. -/
inductive CarrierSource where
  | disabled
  | dsp
  | vox
  | external
  | «open»
  | usb
  | usbInverted
  | parallel
  | parallelInverted
  deriving DecidableEq, Repr

/-- Subaudible qualification of the radio session. -/
inductive SubaudibleSource where
  | disabled
  | usb
  | usbInverted
  | dsp
  | parallel
  | parallelInverted
  deriving DecidableEq, Repr

/-- The descriptions of a plan and the media made from them. -/
structure StationParts where
  ChannelConfiguration : Type
  HardwarePlan : Type
  SessionConfig : Type
  NativeProcessingPlan : Type
  RemoteConfiguration : Type
  RemoteOperatingState : Type
  ProcessingRuntimeError : Type
  /-- The processors of one generation. -/
  ProcessingGeneration : Type
  /-- The prepared update of the radio provider. -/
  PreparedUpdate : Type
  CtcssTable : Type
  /-- What was found before the hardware is opened. -/
  HardwarePreflight : Type
  /-- A remote setup, with the control of its updates. -/
  RemotePreparation : Type
  [hardwareEq : DecidableEq HardwarePlan]
  [remoteEq : DecidableEq RemoteConfiguration]
  maximumReceiveFrameCount : SessionConfig → Nat
  subaudibleSource : SessionConfig → SubaudibleSource
  cosAssignment : ChannelConfiguration → CarrierSource
  controllerCtcssTable : ChannelConfiguration → CtcssTable
  voterReporting : ChannelConfiguration → Bool
  /-- The descriptions with another carrier. -/
  carrierSettings : CarrierSource → ChannelConfiguration × SessionConfig × NativeProcessingPlan →
    ChannelConfiguration × SessionConfig × NativeProcessingPlan
  /-- The descriptions with the signaling of an operating state. -/
  signalingSettings : RemoteOperatingState → SubaudibleSource → ControllerTransport →
    ChannelConfiguration × SessionConfig × NativeProcessingPlan →
    Except RadioError (ChannelConfiguration × SessionConfig × NativeProcessingPlan)

attribute [instance] StationParts.hardwareEq StationParts.remoteEq

/-- Immutable product-composition plan for one resolved channel generation. -/
structure StationPlan (P : StationParts) where
  transport : ControllerTransport
  configuration : P.ChannelConfiguration
  hardware : P.HardwarePlan
  radio : P.SessionConfig
  processing : P.NativeProcessingPlan
  remote : Option P.RemoteConfiguration
  remoteOperating : Option P.RemoteOperatingState

/-- Failure while constructing a replacement station generation. -/
inductive StationPreparationError (P : StationParts) where
  | radio (error : RadioError)
  | processing (error : P.ProcessingRuntimeError)

namespace StationPlan

variable {P : StationParts}

/-- `with_remote_carrier` -/
def withRemoteCarrier (self : StationPlan P) (carrier : CarrierSource) : StationPlan P :=
  let (configuration, radio, processing) :=
    P.carrierSettings carrier (self.configuration, self.radio, self.processing)
  { self with configuration, radio, processing }

/-- `with_remote_signaling` -/
def withRemoteSignaling (self : StationPlan P) (state : P.RemoteOperatingState)
    (externalDecode : SubaudibleSource) : Except (StationPreparationError P) (StationPlan P) :=
  match P.signalingSettings state externalDecode self.transport
      (self.configuration, self.radio, self.processing) with
  | .error e => .error (.radio e)
  | .ok (configuration, radio, processing) =>
    .ok { self with configuration, radio, processing, remoteOperating := some state }

/-- An edit that is not a remote tune keeps the live operating state. -/
def retainRemoteOperating (self current : StationPlan P) :
    Except (StationPreparationError P) (StationPlan P) :=
  if self.remote.isSome ∧ self.remote = current.remote ∧ self.remoteOperating.isNone then
    match current.remoteOperating with
    | some state => (self.withRemoteCarrier (P.cosAssignment current.configuration)).withRemoteSignaling
        state (P.subaudibleSource current.radio)
    | none => .ok self
  else .ok self

/-- The descriptions that only a device handoff can change are equal. -/
def compatible (self previous : StationPlan P) : Bool :=
  self.hardware = previous.hardware ∧ self.remote = previous.remote ∧
    self.transport = previous.transport ∧
    P.maximumReceiveFrameCount self.radio = P.maximumReceiveFrameCount previous.radio

/-- A remote tune carries its own operating state. -/
theorem remoteOperating_withRemoteSignaling {self plan : StationPlan P}
    {state : P.RemoteOperatingState} {externalDecode : SubaudibleSource}
    (h : self.withRemoteSignaling state externalDecode = .ok plan) :
    plan.remoteOperating = some state := by
  unfold withRemoteSignaling at h
  split at h
  · cases h
  · obtain rfl := Except.ok.inj h
    rfl

/-- It is not overwritten. -/
theorem retainRemoteOperating_of_some {self current : StationPlan P}
    {state : P.RemoteOperatingState} (h : self.remoteOperating = some state) :
    self.retainRemoteOperating current = .ok self := by
  unfold retainRemoteOperating
  rw [if_neg]
  simp [h]

end StationPlan

end Station
end UsbRadioPlus
