import UsbRadioPlus.Driver.RemoteGeneration

/-!
# What the computations of the worker leave alone

No computation of the generation takes the generation away, changes the phase or accepts requests
again. `Stable I` says what a predicate has to bear for that: then every computation keeps it
(`stable_serviceOrUnkey`, `stable_unkeyOrFail`), and `retireGeneration` ends with the queue retired.
-/

namespace UsbRadioPlus
namespace Driver

open Sys Station

variable {worker : ServiceWorker} {setup : RemoteSetup} {moment : Moment} {rig : RigAnswers}
  {generation : RemoteGeneration} {answers : DeviceAnswers} {I : RemoteWorker → Prop}

/-- The predicate is about the phase, the queue and whether a generation is there. -/
structure Stable (I : RemoteWorker → Prop) : Prop where
  service : ∀ s service, I s → I { s with service }
  published : ∀ s control, I s → I { s with control }
  signals : ∀ s signals, I s → I { s with signals }
  tune : ∀ s tune, I s → I { s with tune }
  ready : ∀ s ready, I s → I { s with ready }
  served : ∀ s served, I s → I { s with served }
  generation : ∀ s generation, I s → I { s with generation := some generation }

theorem keeps_gpio {α : Type} (h : ∀ s service, I s → I { s with service }) (m : Cycle α) :
    Fallible.Keeps I (RemoteCycle.gpio m) :=
  Fallible.Triple.within fun s hs _ _ => by
    split
    · exact h s _ hs
    · exact h s _ hs
    · trivial

namespace Stable

variable (h : Stable I)

include h

theorem gpio {α : Type} (m : Cycle α) : Fallible.Keeps I (RemoteCycle.gpio m) :=
  keeps_gpio h.service m

theorem record (event : ServiceEvent) :
    Fallible.Keeps I (Fallible.modify (·.record event) : RemoteCycle Unit) :=
  .modify fun s hs => h.service s _ hs

theorem publishSignals (f : RemoteWorker → RemoteHardwareSignals) :
    Fallible.Keeps I (Fallible.modify fun s => s.publishSignals (f s) : RemoteCycle Unit) :=
  .modify fun s hs => h.service _ _ (h.signals s _ hs)

theorem setPttControl (selected : Option RemotePttSource) (key : Bool) :
    Fallible.Keeps I (Fallible.modify (·.setPttControl selected key) : RemoteCycle Unit) :=
  .modify fun s hs => h.service s _ hs

theorem setEncoder (active : Bool) :
    Fallible.Keeps I (Fallible.modify (·.setEncoder active) : RemoteCycle Unit) :=
  .modify fun s hs => h.service s _ hs

theorem setGeneration (generation : RemoteGeneration) :
    Fallible.Keeps I (Fallible.modify (·.setGeneration generation) : RemoteCycle Unit) :=
  .modify fun s hs => h.generation s generation hs

theorem remoteFailed : Fallible.Keeps I remoteFailed := .modify fun s hs => h.published s _ hs

/-- The generation stays where it is. -/
theorem mapGeneration (f : RemoteGeneration → RemoteGeneration) {s : RemoteWorker} (hs : I s) :
    I { s with generation := s.generation.map f } := by
  obtain ⟨service, control, signals, tune, generation, accepting, ready, phase, served⟩ := s
  cases generation with
  | none => exact hs
  | some generation => exact h.generation _ (f generation) hs

/-! ## PTT -/

omit h in
theorem needRig : Fallible.Keeps I (RemoteCycle.needRig generation) := .whenever fun _ => .fail _

theorem keyProvider (keyed : Bool) : Fallible.Keeps I (keyProvider generation keyed rig) := by
  unfold Driver.keyProvider keyRig
  split
  · exact .bind needRig fun _ => .attempt (.bind (.of _) fun _ => .bind (.of _) fun _ =>
      .bind (.of _) fun _ => h.record _)
  · exact .pure _

theorem setPtt (keyed : Bool) : Fallible.Keeps I (setPtt worker generation keyed moment rig) := by
  unfold Driver.setPtt
  refine .bind (.whenever fun _ => h.setEncoder false) fun _ => .bind (h.publishSignals _) fun _ => ?_
  refine .bind (h.setPttControl _ keyed) fun _ => .bind (.attempt (h.gpio _)) fun gpio => ?_
  refine .bind (.whenever fun _ => .of _) fun _ => .bind (h.keyProvider keyed) fun rig => ?_
  exact .bind (.of _) fun _ => .bind (.of _) fun _ => h.publishSignals _

theorem transmitIdle : Fallible.Keeps I (transmitIdle generation rig) := by
  unfold Driver.transmitIdle
  split
  · exact .get fun s _ => .pure _
  · exact .bind needRig fun _ => .bind (.whenever fun _ => h.record _) fun _ =>
      .bind (h.publishSignals _) fun _ => .bind (.of _) fun _ => .pure _

theorem unkey : Fallible.Keeps I (unkey worker generation moment rig) := by
  unfold Driver.unkey
  refine .bind (.modify fun s hs => ?_) fun _ => .bind (h.setPttControl _ false) fun _ => ?_
  · exact h.tune _ false (h.published _ .withdrawn (h.service s _ hs))
  refine .bind (h.publishSignals fun _ => ⟨none, true, none⟩) fun _ => ?_
  refine .bind (.attempt (h.gpio _)) fun gpio => .bind (h.keyProvider false) fun rig => ?_
  exact .bind (.of _) fun _ => .bind (.of _) fun _ => h.publishSignals fun _ => ⟨none, true, some false⟩

/-! ## The engine -/

theorem applyState {state : RemoteRequestState} {cancelled : Bool} {rig dsp : Except CallError Unit} :
    Fallible.Keeps I (applyState setup generation state cancelled rig dsp answers) := by
  unfold Driver.applyState applyTransport applyParallel
  refine .bind (.modify fun s hs => h.published s _ hs) fun _ => .bind (.whenever fun _ => .fail _)
    fun _ => .bind ?_ fun _ => .bind (.of _) fun _ => .modify fun s hs => h.mapGeneration _ hs
  split
  · exact .bind (.of _) fun _ => h.setGeneration _
  · refine .bind (.whenever fun _ => .fail _) fun _ => .bind (.whenever fun _ => .fail _) fun _ => ?_
    split
    · exact h.gpio _
    · exact .bind (h.gpio _) fun _ => h.gpio _

theorem call (call : BackendCall) : Fallible.Keeps I (call.run worker setup generation) := by
  cases call with
  | readState answer =>
    exact .bind needRig fun _ => .bind (.of _) fun _ => h.setGeneration _
  | applyState state cancelled rig dsp answers => exact h.applyState
  | setPtt keyed moment rig => exact h.setPtt keyed
  | setTune enabled => exact .modify fun s hs => h.tune s enabled hs
  | transmitIdle rig => exact .bind h.transmitIdle fun _ => .pure _
  | getSetting answer => exact .bind needRig fun _ => .bind (.of _) fun _ => .pure _
  | setSetting answer => exact .bind needRig fun _ => .of _

omit h in
theorem withGeneration {α : Type} {f : RemoteGeneration → RemoteCycle α}
    (hf : ∀ generation, Fallible.Keeps I (f generation)) : Fallible.Keeps I (withGeneration f) := by
  unfold Driver.withGeneration
  refine .get fun s _ => ?_
  split
  · exact Fallible.Triple.panicked
  · exact hf _

theorem runCalls (calls : List BackendCall) : Fallible.Keeps I (runCalls worker setup calls) := by
  induction calls with
  | nil => exact .pure ()
  | cons call calls ih =>
    exact .bind (.attempt (withGeneration fun _ => h.call call)) fun _ => ih

/-! ## Servicing -/

theorem pollSignals {label : RemoteService} : Fallible.Keeps I (pollSignals setup label) := by
  unfold Driver.pollSignals
  refine withGeneration fun generation => .whenever fun _ => ?_
  refine .bind (.whenever fun _ => .bind needRig fun _ => .bind (h.publishSignals _) fun _ =>
    .bind (.of _) fun _ => .pure _) fun _ => ?_
  exact .bind (.whenever fun _ => .bind h.transmitIdle fun _ => .pure _) fun _ => h.setGeneration _

theorem publishPolicy {label : RemoteService} {snapshot : RemoteSnapshot} :
    Fallible.Keeps I (publishPolicy setup label snapshot) :=
  withGeneration fun _ => .modify fun s hs => h.served _ _ (h.published s _ hs)

theorem gateEncode {label : RemoteService} : Fallible.Keeps I (gateEncode label) := by
  unfold Driver.gateEncode
  refine withGeneration fun generation => .get fun s _ => .bind (h.setEncoder _) fun _ => ?_
  exact .whenever fun _ => .bind needRig fun _ => .bind (.of _) fun _ => h.setGeneration _

theorem serviceGeneration {label : RemoteService} :
    Fallible.Keeps I (serviceGeneration worker setup label) := by
  unfold Driver.serviceGeneration
  refine .get fun s _ => .bind (.whenever fun _ => withGeneration fun _ => h.setPtt false) fun _ => ?_
  refine .bind (h.runCalls label.calls) fun _ => .bind (.whenever fun _ => h.pollSignals) fun _ => ?_
  refine .bind (.of _) fun snapshot => .bind h.publishPolicy fun _ => ?_
  cases label.result with
  | error error => exact .bind (h.setEncoder false) fun _ => .fail _
  | ok u => exact .bind h.gateEncode fun _ => .whenever fun _ => .modify fun s hs => h.ready s true hs

/-! ## Iterations -/

theorem unkeyOrFail {found : Moment × RigAnswers} : Fallible.Keeps I (unkeyOrFail worker found) := by
  unfold Driver.unkeyOrFail
  refine .get fun s _ => ?_
  split
  · exact .pure ()
  · refine .bind (.attempt h.unkey) fun result => ?_
    cases result with
    | ok u => exact .pure ()
    | error error => exact h.remoteFailed

theorem serviceOrUnkey {moment : RemoteMoment} :
    Fallible.Keeps I (serviceOrUnkey worker setup moment) := by
  unfold Driver.serviceOrUnkey
  refine .bind (.modify fun s hs => h.served s false hs) fun _ => .get fun s _ => ?_
  split
  · exact .pure ()
  · refine .bind (.attempt h.serviceGeneration) fun result => ?_
    cases result with
    | ok u => exact .pure ()
    | error error => exact .bind h.remoteFailed fun _ => h.unkeyOrFail

end Stable
end Driver
end UsbRadioPlus
