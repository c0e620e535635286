import UsbRadioPlus.Driver.OutputState
import UsbRadioPlus.Sys.Run

/-!
# Runs of the output state

A run starts with the state of a plan, on which persistent state may be staged. The service prepares
the banks before anything else, again whenever it has reopened its devices, and retires them where
the preparation fails. In between the operations come in any order.
-/

namespace UsbRadioPlus
namespace Driver

open Sys Sys.Mask

/-- Where the owner of the banks is. -/
inductive Phase where
  /-- Before the first preparation. -/
  | fresh
  /-- Prepared. -/
  | owned
  /-- A preparation failed; `retire_site` comes next. -/
  | broken
  | retired
  deriving DecidableEq, Repr

/-- The output state in a run, with its open devices and the generation counter. -/
structure OutputRun where
  outputs : OutputState
  devices : ServiceDevices
  next : Nat
  phase : Phase

/-- The operations of the output state. -/
inductive OutputAct where
  | siteBind (bank : SiteBank) (binding : SiteDigitalBinding) (answers : DeviceAnswers)
  | sitePublish (bank : SiteBank) (request : SiteDigitalRequest)
  | apply (command : OutputCommand) (answers : DeviceAnswers)
  | selectChannel (channel : U8) (answers : DeviceAnswers)
  | configureRemoteRadio (settings : RemoteRadio)
  | serviceRemoteRadio (logicalPtt : Bool) (answers : DeviceAnswers)
  | serviceClipLed (clipEvents now : Nat) (answers : DeviceAnswers)
  | setEncoder (active : Bool)
  | bindEncoder (encoder : Option ExternalEncoder) (answers : DeviceAnswers)
  | restore (state : HardwareTransientState)
  | retireSite
  | prepareSite (devices : ServiceDevices) (answers : DeviceAnswers)
  | observe (bank : SiteBank) (value : Option U32) (now : Nat)
  | submitted (bank : SiteBank) (value : U32)
  | serviced (bank : SiteBank) (success : Bool)
  /-- Another service of the process takes a generation. -/
  | elsewhere

namespace OutputRun

variable (s : OutputRun)

/-- The outputs and the devices behind a call. -/
def withOutcome (outcome : Outcome) : OutputRun :=
  { s with outputs := outcome.outputs, devices := outcome.devices }

/-- An operation between the preparation and the next one. -/
def operate (plan : HardwarePlan) : OutputAct → Option OutputRun
  | .siteBind bank binding answers =>
    let bound := s.outputs.siteBind s.next bank binding s.devices answers
    some { s.withOutcome bound.1 with next := bound.2 }
  | .sitePublish bank request => some { s with outputs := s.outputs.sitePublish bank request }
  | .apply command answers => (s.outputs.apply command s.devices answers).map s.withOutcome
  | .selectChannel channel answers =>
    some (s.withOutcome (s.outputs.selectChannel channel s.devices answers))
  | .configureRemoteRadio settings =>
    some { s with outputs := (s.outputs.configureRemoteRadio settings).1 }
  | .serviceRemoteRadio logicalPtt answers =>
    some (s.withOutcome (s.outputs.serviceRemoteRadio s.devices logicalPtt answers))
  | .serviceClipLed clipEvents now answers =>
    some (s.withOutcome (s.outputs.serviceClipLed s.devices plan.clipLedMask clipEvents now answers))
  | .setEncoder active => some { s with outputs := s.outputs.setEncoder active }
  | .bindEncoder encoder answers =>
    (s.outputs.bindEncoder encoder s.devices answers).map s.withOutcome
  | .observe bank value now => some { s with
      outputs := s.outputs.setSite bank ((s.outputs.site bank).observe value now) }
  | .submitted bank value => some { s with
      outputs := s.outputs.setSite bank ((s.outputs.site bank).submitted value) }
  | .serviced bank success => some { s with
      outputs := s.outputs.setSite bank ((s.outputs.site bank).serviced success) }
  | .restore state => some { s with outputs := s.outputs.restore state plan }
  | .retireSite | .prepareSite _ _ | .elsewhere => none

/-- The devices are open, and the outputs of the sites are prepared. -/
def prepare (plan : HardwarePlan) (devices : ServiceDevices) (answers : DeviceAnswers) :
    Option OutputRun :=
  if devices.justOpened plan then
    (s.outputs.prepareSite s.next plan devices answers).map fun (outcome, next) =>
      { outputs := outcome.outputs, devices := outcome.devices, next
        phase := match outcome.result with
          | .ok () => .owned
          | .error _ => .broken }
  else none

/-- A step of the service. -/
def step (plan : HardwarePlan) (act : OutputAct) : Option OutputRun :=
  match act, s.phase with
  | .elsewhere, _ => some { s with next := (nextGeneration s.next).2 }
  | .restore state, .fresh => some { s with outputs := s.outputs.restore state plan }
  | .prepareSite devices answers, .fresh => s.prepare plan devices answers
  | .retireSite, .broken => some { s with outputs := s.outputs.retireSite, phase := .retired }
  | .prepareSite devices answers, .owned => s.prepare plan devices answers
  | .prepareSite devices answers, .retired => s.prepare plan devices answers
  | .retireSite, .owned => some { s with outputs := s.outputs.retireSite, phase := .retired }
  | .retireSite, .retired => some { s with outputs := s.outputs.retireSite, phase := .retired }
  | act, .owned => s.operate plan act
  | act, .retired => s.operate plan act
  | _, _ => none

end OutputRun

/-- The runs of the output state of a plan. -/
def outputRuns (plan : HardwarePlan) : System OutputRun OutputAct where
  init s := ∃ next remoteRadio devices, s = ⟨(OutputState.new next plan remoteRadio).1, devices,
    (OutputState.new next plan remoteRadio).2, .fresh⟩
  step s := s.step plan

end Driver
end UsbRadioPlus
