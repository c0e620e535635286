import UsbRadioPlus.Driver.OutputEffects
import UsbRadioPlus.Driver.RemoteGeneration

/-!
# What the computations of the worker do with its devices

Every computation of the GPIO service follows the PTT control that it finds: a PTT level that it hands
to a device is asserted only where that control keys the device's provider (`Follows`). It neither
changes the control nor takes the CM119 away (`Emits`). A confirmation that succeeds has confirmed the
level of every bank that is there (`triple_serviceRemotePtt_emits`).
-/

namespace UsbRadioPlus
namespace Driver

open Sys

variable {worker : ServiceWorker} {control : PhysicalPttControl} {moment : Moment}
  {answers : DeviceAnswers} {s₀ s s' : Service}

/-! ## Events -/

/-- The control keys the provider. -/
def PhysicalPttControl.Keys (self : PhysicalPttControl) (source : RemotePttSource) : Prop :=
  ∃ rendered, self.keyFor source rendered = true

/-- The provider whose PTT the event asserts. -/
def ServiceEvent.asserts : ServiceEvent → Option RemotePttSource
  | .published bank _ _ ptt => if ptt then some bank.pttSource else none
  | .refused bank ptt => if ptt then some bank.pttSource else none
  | .rtx transmitting => if transmitting then some .parallel else none
  | _ => none

/-- An event of a remote owner. -/
def ServiceEvent.remote : ServiceEvent → Bool
  | .requested _ => true
  | .physical _ => true
  | .rigClosed => true
  | .selected _ => true
  | _ => false

/-- An event of the GPIO service under this control. -/
structure Follows (control : PhysicalPttControl) (event : ServiceEvent) : Prop where
  asserts : ∀ source, event.asserts = some source → control.Keys source
  remote : event.remote = false

/-- What a computation of the GPIO service does. -/
structure Emits (control : PhysicalPttControl) (s₀ s : Service) : Prop where
  unchanged : s.control = control
  cm119 : s.devices.cm119.isSome = s₀.devices.cm119.isSome
  log : ∃ new, s.log = new ++ s₀.log ∧ ∀ e ∈ new, Follows control e

theorem emits_refl (h : s.control = control) : Emits control s s :=
  ⟨h, rfl, [], rfl, nofun⟩

theorem Emits.record (h : Emits control s₀ s) {event : ServiceEvent} (hevent : Follows control event) :
    Emits control s₀ (s.record event) := by
  obtain ⟨new, hlog, hnew⟩ := h.log
  refine ⟨h.unchanged, h.cm119, event :: new, congrArg (event :: ·) hlog, ?_⟩
  intro e he
  rcases List.mem_cons.mp he with rfl | he
  · exact hevent
  · exact hnew e he

/-- A change of neither the control, the log nor the devices that are there. -/
theorem Emits.same (h : Emits control s₀ s) (hcontrol : s'.control = s.control)
    (hcm119 : s'.devices.cm119.isSome = s.devices.cm119.isSome) (hlog : s'.log = s.log) :
    Emits control s₀ s' :=
  ⟨hcontrol.trans h.unchanged, hcm119.trans h.cm119, hlog ▸ h.log⟩

theorem Emits.trans (h : Emits control s₀ s) (h' : Emits control s s') : Emits control s₀ s' := by
  obtain ⟨new, hlog, hnew⟩ := h.log
  obtain ⟨new', hlog', hnew'⟩ := h'.log
  refine ⟨h'.unchanged, h'.cm119.trans h.cm119, new' ++ new, by rw [hlog', hlog, List.append_assoc], ?_⟩
  intro e he
  rcases List.mem_append.mp he with he | he
  · exact hnew' e he
  · exact hnew e he

/-! ## The CM119 stays -/

theorem cm119_touch (devices : ServiceDevices) (bank : SiteBank) :
    (devices.touch bank).cm119.isSome = devices.cm119.isSome := by
  cases bank
  · exact Option.isSome_map
  · rfl

theorem cm119_schedulePulse (devices : ServiceDevices) (bank : SiteBank) (invert cancel : U8) :
    (devices.schedulePulse bank invert cancel answers).cm119.isSome = devices.cm119.isSome := by
  cases bank
  · exact Option.isSome_map
  · rfl

variable (o : OutputState) (devices : ServiceDevices) (answers : DeviceAnswers)

theorem cm119_cancelPulses (bank : SiteBank) (mask : U8) :
    (o.cancelPulses bank mask devices answers).devices.cm119.isSome = devices.cm119.isSome := by
  unfold OutputState.cancelPulses
  split
  · rfl
  · exact cm119_schedulePulse devices bank 0 mask

theorem cm119_siteBind (next : Nat) (bank : SiteBank) (binding : SiteDigitalBinding) :
    (o.siteBind next bank binding devices answers).1.devices.cm119.isSome = devices.cm119.isSome := by
  have hcancel : ∀ mask : U8, (if mask ≠ 0 then o.cancelPulses bank mask devices answers
      else ⟨o, devices, .ok ()⟩).devices.cm119.isSome = devices.cm119.isSome := fun mask => by
    split
    · exact cm119_cancelPulses o devices answers bank mask
    · rfl
  unfold OutputState.siteBind
  simp only
  split
  · rfl
  · split
    · exact hcancel _
    · split <;> exact hcancel _

theorem cm119_pulsed (devices : ServiceDevices) (answers : DeviceAnswers) (bank : SiteBank) (bit : U8)
    (request : OutputRequest) :
    (match request with
      | .pulse _ => devices.schedulePulse bank bit 0 answers
      | _ => devices.schedulePulse bank 0 bit answers).cm119.isSome = devices.cm119.isSome := by
  split <;> exact cm119_schedulePulse devices bank _ _

theorem cm119_apply {command : OutputCommand} {outcome : Outcome}
    (h : o.apply command devices answers = some outcome) :
    outcome.devices.cm119.isSome = devices.cm119.isSome := by
  unfold OutputState.apply at h
  simp only at h
  split at h
  · obtain rfl := Option.some.inj h
    rfl
  · split at h
    · obtain rfl := Option.some.inj h
      rfl
    · split at h
      · obtain rfl := Option.some.inj h
        rfl
      · cases h
      · split at h
        · obtain rfl := Option.some.inj h
          exact cm119_pulsed devices answers _ command.bit command.request
        · obtain rfl := Option.some.inj h
          exact cm119_pulsed devices answers _ command.bit command.request

theorem cm119_selectChannel (channel : U8) :
    (o.selectChannel channel devices answers).devices.cm119.isSome = devices.cm119.isSome := by
  unfold OutputState.selectChannel
  split
  · rfl
  · simp only
    split
    · rfl
    · split <;> exact cm119_touch devices .parallel

theorem cm119_serviceRemoteRadio (logicalPtt : Bool) :
    (o.serviceRemoteRadio devices logicalPtt answers).devices.cm119.isSome =
      devices.cm119.isSome := by
  unfold OutputState.serviceRemoteRadio
  split
  · rfl
  · split
    · rfl
    · split
      · rfl
      · simp only
        split
        · split
          · split <;> exact cm119_touch devices .parallel
          · rfl
        · split <;> exact cm119_touch devices .parallel

theorem cm119_serviceClipLed (clipLedMask : U8) (clipEvents now : Nat) :
    (o.serviceClipLed devices clipLedMask clipEvents now answers).devices.cm119.isSome =
      devices.cm119.isSome := by
  unfold OutputState.serviceClipLed
  split
  · rfl
  · simp only
    split
    · rfl
    · split
      · rfl
      · split <;> exact cm119_schedulePulse devices .cm119 _ _

theorem cm119_bindEncoder {encoder : Option ExternalEncoder} {outcome : Outcome}
    (h : o.bindEncoder encoder devices answers = some outcome) :
    outcome.devices.cm119.isSome = devices.cm119.isSome := by
  unfold OutputState.bindEncoder at h
  split at h
  · split at h
    · cases h
    · obtain rfl := Option.some.inj h
      exact cm119_cancelPulses ..
  · obtain rfl := Option.some.inj h
    rfl

theorem cm119_prepareSite {plan : HardwarePlan} {next next' : Nat} {outcome : Outcome}
    (h : o.prepareSite next plan devices answers = some (outcome, next')) :
    outcome.devices.cm119.isSome = devices.cm119.isSome := by
  unfold OutputState.prepareSite at h
  split at h
  · obtain ⟨rfl, -⟩ := Prod.mk.inj (Option.some.inj h)
    rfl
  · split at h
    · obtain ⟨rfl, -⟩ := Prod.mk.inj (Option.some.inj h)
      rfl
    · obtain ⟨outcome', hbind, hout⟩ := Option.map_eq_some_iff.mp h
      obtain ⟨rfl, -⟩ := Prod.mk.inj hout
      exact cm119_bindEncoder _ _ _ hbind

/-! ## The parts of a cycle -/

variable {o : OutputState} {devices : ServiceDevices} {answers : DeviceAnswers}
  {bank : SiteBank} {levels : U8} {ptt : Bool} {operation : HardwareOperation}

theorem follows_confirmed (source : RemotePttSource) (key : Bool) :
    Follows control (.confirmed source key) := ⟨nofun, rfl⟩

theorem emits_outcome {op : OutputState → ServiceDevices → Outcome}
    (h : ∀ outputs devices, (op outputs devices).devices.cm119.isSome = devices.cm119.isSome) :
    Fallible.Keeps (Emits control s₀) (Cycle.outcome op) :=
  Fallible.Keeps.of_exec fun s r s' hs hrun => by
    obtain ⟨-, rfl⟩ := Prod.mk.inj (Option.some.inj hrun)
    exact hs.same rfl (h s.outputs s.devices) rfl

/-- A PTT level is published as the control keys its provider. -/
theorem emits_publish (hptt : ptt = true → control.Keys bank.pttSource)
    {answer : Except GpioError Unit} :
    Fallible.Keeps (Emits control s₀) (Cycle.publish bank levels ptt operation answer) :=
  Fallible.Keeps.of_exec fun s r s' hs hrun => by
    obtain ⟨-, rfl⟩ := Prod.mk.inj (Option.some.inj hrun)
    have htouched : Emits control s₀ { s with devices := s.devices.touch bank } :=
      hs.same rfl (cm119_touch s.devices bank) rfl
    refine htouched.record ?_
    cases answer with
    | ok u =>
      refine ⟨fun source h => ?_, rfl⟩
      simp only [ServiceEvent.asserts] at h
      split at h
      · next hon => exact Option.some.inj h ▸ hptt hon
      · cases h
    | error e =>
      refine ⟨fun source h => ?_, rfl⟩
      simp only [ServiceEvent.asserts] at h
      split at h
      · next hon => exact Option.some.inj h ▸ hptt hon
      · cases h

theorem emits_service {answer : Except GpioError Unit} :
    Fallible.Keeps (Emits control s₀) (Cycle.service bank operation answer) := by
  unfold Cycle.service
  exact .bind (.of _) fun _ => .modify fun s h => h.record ⟨nofun, rfl⟩

/-- A change of the sites and outputs alone. -/
theorem emits_modify {f : Service → Service} (hcontrol : ∀ s, (f s).control = s.control)
    (hdevices : ∀ s, (f s).devices = s.devices) (hlog : ∀ s, (f s).log = s.log) :
    Fallible.Keeps (Emits control s₀) (Fallible.modify f : Cycle Unit) :=
  .modify fun s h => h.same (hcontrol s) (by rw [hdevices]) (hlog s)

theorem emits_submitted :
    Fallible.Keeps (Emits control s₀) (Fallible.modify (·.submitted bank levels) : Cycle Unit) :=
  emits_modify (fun _ => rfl) (fun _ => rfl) fun _ => rfl

theorem emits_publishInputs (inputs : HardwareInputs) :
    Fallible.Keeps (Emits control s₀) (Fallible.modify (·.publishInputs inputs) : Cycle Unit) :=
  .modify fun s h => by
    have hsame : Emits control s₀ { s with inputs } := h.same rfl rfl rfl
    exact hsame.record ⟨nofun, rfl⟩

theorem emits_cm119Snapshot : Fallible.Keeps (Emits control s₀) (cm119Snapshot answers) := by
  unfold cm119Snapshot
  refine .get fun s _ => ?_
  split
  · exact .pure none
  · exact .bind emits_service fun _ => .bind (.of _) fun _ => .bind (.of _) fun _ => .pure _

theorem emits_observeCm119 (snapshot : Option (Cm119Inputs × Cm119Statistics)) (now : Nat) :
    Fallible.Keeps (Emits control s₀) (observeCm119 snapshot now) := by
  unfold observeCm119
  exact .bind (emits_modify (fun _ => rfl) (fun _ => rfl) fun _ => rfl) fun _ =>
    emits_modify (fun _ => rfl) (fun _ => rfl) fun _ => rfl

theorem emits_collectedInputs (snapshot : Option (Cm119Inputs × Cm119Statistics))
    (parallel : Option ParallelInputs) :
    Fallible.Keeps (Emits control s₀) (collectedInputs worker snapshot parallel answers) := by
  unfold collectedInputs
  refine .get fun s _ => ?_
  split
  · exact .bind (.of _) fun _ => .pure _
  · exact .pure _

theorem emits_serviceRemoteRadio {key : Bool} (hkey : key = true → control.Keys .parallel) :
    Fallible.Keeps (Emits control s₀) (serviceRemoteRadio key answers) := by
  unfold serviceRemoteRadio
  refine .get fun s _ => .bind (.whenever fun _ => .modify fun s h => h.record ⟨fun source hs => ?_, rfl⟩)
    fun _ => emits_outcome fun outputs devices => cm119_serviceRemoteRadio _ _ _ _
  simp only [ServiceEvent.asserts] at hs
  split at hs
  · next hon => exact Option.some.inj hs ▸ hkey hon
  · cases hs

theorem emits_acquireParallel {key : Bool} (hkey : key = true → control.Keys .parallel) :
    Fallible.Keeps (Emits control s₀) (acquireParallel levels key answers) := by
  unfold acquireParallel
  exact .bind (emits_publish hkey) fun _ => .bind emits_submitted fun _ =>
    .bind emits_service fun _ => .of _

theorem emits_serviceParallelOnce {key : Bool} (hkey : key = true → control.Keys .parallel) :
    Fallible.Keeps (Emits control s₀) (serviceParallelOnce worker key moment) := by
  unfold serviceParallelOnce
  refine .bind (emits_serviceRemoteRadio hkey) fun _ => ?_
  split
  · exact .pure none
  · refine .get fun s _ => ?_
    split
    · exact Fallible.Triple.panicked
    · refine .bind (.attempt (emits_acquireParallel hkey)) fun acquisition => ?_
      refine .bind (emits_modify (fun _ => rfl) (fun _ => rfl) fun _ => rfl) fun _ => ?_
      refine .bind (emits_modify (fun _ => rfl) (fun _ => rfl) fun _ => rfl) fun _ => ?_
      exact .bind (.of _) fun _ => .bind (.of _) fun _ => .pure _

theorem emits_setNativeOutputs (outputs : Option Cm119Outputs) :
    Fallible.Keeps (Emits control s₀) (setNativeOutputs outputs) :=
  emits_modify (fun _ => rfl) (fun _ => rfl) fun _ => rfl

theorem emits_republishNative {requested : Cm119Outputs} {inputs : HardwareInputs}
    (hptt : requested.pttAsserted = true → control.Keys .usb) :
    Fallible.Keeps (Emits control s₀) (republishNative requested inputs answers) := by
  unfold republishNative
  refine .bind (.attempt (emits_publish hptt)) fun published => ?_
  split
  · exact .bind (emits_setNativeOutputs _) fun _ => .bind (emits_publishInputs _) fun _ => .fail _
  · exact emits_setNativeOutputs _

theorem emits_publishNative (ready : Bool) (inputs : HardwareInputs) :
    Fallible.Keeps (Emits control s₀) (publishNative ready inputs moment) := by
  unfold publishNative
  refine .get fun s hs => ?_
  split
  · exact .pure ()
  · simp only
    split
    · refine .modify fun s h => ?_
      have hkept : Emits control s₀ (s.record (.kept .cm119 (s.generation .cm119))) :=
        h.record ⟨nofun, rfl⟩
      exact hkept.same rfl rfl rfl
    · refine .bind (emits_republishNative fun hptt => ?_) fun _ => emits_submitted
      rw [Bool.and_eq_true, hs.unchanged] at hptt
      exact ⟨_, hptt.2⟩

theorem emits_nativeInputs (ready : Bool) (snapshot : Option (Cm119Inputs × Cm119Statistics))
    (parallel : Option ParallelInputs) :
    Fallible.Keeps (Emits control s₀) (nativeInputs ready worker snapshot parallel answers) := by
  unfold nativeInputs
  split
  · exact emits_collectedInputs snapshot parallel
  · exact .pure _

theorem emits_serviceClipLed (mask : U8) (events now : Nat) :
    Fallible.Keeps (Emits control s₀) (Cycle.outcome fun outputs devices =>
      outputs.serviceClipLed devices mask events now answers) :=
  emits_outcome fun _ _ => cm119_serviceClipLed _ _ _ _ _ _

theorem emits_cancelPulses (bank : SiteBank) (mask : U8) :
    Fallible.Keeps (Emits control s₀) (Cycle.outcome fun outputs devices =>
      outputs.cancelPulses bank mask devices answers) :=
  emits_outcome fun _ _ => cm119_cancelPulses _ _ _ _ _

theorem emits_serviceNativeOnce :
    Fallible.Keeps (Emits control s₀) (serviceNativeOnce worker moment) := by
  unfold serviceNativeOnce
  refine .bind (.attempt (emits_serviceClipLed _ _ _)) fun _ => ?_
  refine .bind (.attempt emits_cm119Snapshot) fun snapshots => ?_
  refine .bind (emits_observeCm119 _ _) fun _ => .get fun s hs => ?_
  refine .bind (.attempt (emits_serviceParallelOnce fun hkey => ?_)) fun parallel => ?_
  · rw [Bool.and_eq_true, hs.unchanged] at hkey
    exact ⟨_, hkey.2⟩
  refine .bind (emits_nativeInputs _ _ _) fun inputs => ?_
  refine .bind (emits_publishNative _ _) fun _ => .bind (emits_publishInputs inputs) fun _ => ?_
  exact .bind (.of _) fun _ => .bind (.of _) fun _ => .pure _

theorem emits_publishOrdinary : Fallible.Keeps (Emits control s₀) (publishOrdinary moment) := by
  unfold publishOrdinary
  refine .get fun s hs => .whenever fun _ => ?_
  exact .bind (emits_publish fun hptt => ⟨_, hs.unchanged ▸ hptt⟩) fun _ => emits_submitted

theorem emits_serviceOrdinaryOnce :
    Fallible.Keeps (Emits control s₀) (serviceOrdinaryOnce worker moment) := by
  unfold serviceOrdinaryOnce
  refine .bind (emits_serviceClipLed _ _ _) fun _ => .bind emits_publishOrdinary fun _ => ?_
  refine .bind emits_cm119Snapshot fun snapshot => .bind (emits_observeCm119 _ _) fun _ => ?_
  refine .get fun s hs => ?_
  refine .bind (emits_serviceParallelOnce fun hkey => ⟨_, hs.unchanged ▸ hkey⟩) fun parallel => ?_
  exact .bind (emits_collectedInputs _ _) fun inputs => emits_publishInputs inputs

theorem emits_serviceOnce : Fallible.Keeps (Emits control s₀) (serviceOnce worker moment) := by
  unfold serviceOnce
  split
  · exact emits_serviceNativeOnce
  · exact emits_serviceOrdinaryOnce

theorem emits_closeCm119 : Fallible.Keeps (Emits control s₀) (closeCm119 answers) := by
  unfold closeCm119
  refine .get fun s _ => ?_
  split
  · exact .pure ()
  · simp only
    refine .bind (.attempt ?_) fun result => ?_
    · exact .bind (emits_cancelPulses _ _) fun _ => .bind (emits_publish (by simp)) fun _ =>
        .bind emits_submitted fun _ => emits_service
    refine .bind (emits_modify (fun _ => rfl) (fun _ => rfl) fun _ => rfl) fun _ => ?_
    refine .bind (.whenever fun _ => .modify fun s h => h.same rfl ?_ rfl) fun _ => ?_
    · exact Option.isSome_map
    · exact .bind (.whenever fun _ => emits_modify (fun _ => rfl) (fun _ => rfl) fun _ => rfl)
        fun _ => .of _

theorem emits_closeParallel : Fallible.Keeps (Emits control s₀) (closeParallel worker answers) := by
  unfold closeParallel
  refine .get fun s _ => ?_
  split
  · exact .pure ()
  · exact Fallible.Triple.panicked
  · simp only
    refine .bind (.attempt (emits_publish (by simp))) fun closed => ?_
    split
    · refine .bind (.modify fun s h => h.record ⟨nofun, rfl⟩) fun _ => ?_
      refine .bind (.modify fun s h => h.same rfl rfl rfl) fun _ => .bind emits_submitted fun _ => ?_
      exact emits_modify (fun _ => rfl) (fun _ => rfl) fun _ => rfl
    · refine .bind (emits_modify (fun _ => rfl) (fun _ => rfl) fun _ => rfl) fun _ => ?_
      exact .bind (emits_modify (fun _ => rfl) (fun _ => rfl) fun _ => rfl) fun _ => .fail _

theorem emits_closeOutputs : Fallible.Keeps (Emits control s₀) (closeOutputs worker answers) := by
  unfold closeOutputs
  refine .bind (emits_modify (fun _ => rfl) (fun _ => rfl) fun _ => rfl) fun _ => ?_
  refine .bind (.attempt emits_closeCm119) fun cm119 => ?_
  refine .bind (.attempt emits_closeParallel) fun port => ?_
  exact .bind (.of cm119) fun _ => .of port

theorem emits_serviceCommand (command : ServiceCommand) :
    Fallible.Keeps (Emits control s₀) (serviceCommand worker command answers) := by
  cases command with
  | output command =>
    refine Fallible.Keeps.of_exec fun s r s' hs hrun => ?_
    obtain ⟨outcome, happly, hout⟩ := Option.map_eq_some_iff.mp hrun
    obtain ⟨-, rfl⟩ := Prod.mk.inj hout
    exact hs.same rfl (cm119_apply _ _ _ happly) rfl
  | siteBind bank binding =>
    refine Fallible.Keeps.of_exec fun s r s' hs hrun => ?_
    obtain ⟨-, rfl⟩ := Prod.mk.inj (Option.some.inj hrun)
    exact hs.same rfl (cm119_siteBind _ _ _ _ _ _) rfl
  | sitePublish bank request => exact emits_modify (fun _ => rfl) (fun _ => rfl) fun _ => rfl
  | selectChannel channel =>
    show Fallible.Keeps _ (Cycle.outcome fun outputs devices =>
      outputs.selectChannel channel devices answers)
    exact emits_outcome fun _ _ => cm119_selectChannel _ _ _ _
  | configureRemoteRadio settings =>
    refine Fallible.Keeps.of_exec fun s r s' hs hrun => ?_
    obtain ⟨-, rfl⟩ := Prod.mk.inj (Option.some.inj hrun)
    exact hs.same rfl rfl rfl
  | snapshot => exact .pure ()
  | restore state => exact emits_modify (fun _ => rfl) (fun _ => rfl) fun _ => rfl

theorem emits_serviceCommands (commands : List (ServiceCommand × DeviceAnswers)) :
    Fallible.Keeps (Emits control s₀) (serviceCommands worker commands) := by
  induction commands with
  | nil => exact .pure ()
  | cons command commands ih => exact .bind (emits_serviceCommand command.1) fun _ => ih

/-! ## Confirmation -/

/-- The level of this provider was confirmed, as the control keys it. -/
def Confirmed (control : PhysicalPttControl) (source : RemotePttSource) (s₀ s : Service) : Prop :=
  ∃ new, s.log = new ++ s₀.log ∧ ServiceEvent.confirmed source (control.keyFor source false) ∈ new

theorem confirmed_record (h : Emits control s₀ s) (source : RemotePttSource) :
    Confirmed control source s₀ (s.record (.confirmed source (control.keyFor source false))) := by
  obtain ⟨new, hlog, -⟩ := h.log
  exact ⟨_ :: new, congrArg (_ :: ·) hlog, List.mem_cons_self⟩

theorem triple_confirmCm119_emits :
    Fallible.Triple (Emits control s₀) (confirmCm119 moment)
      (fun _ s => Emits control s₀ s ∧
        (s₀.devices.cm119.isSome = true → Confirmed control .usb s₀ s))
      fun _ s => Emits control s₀ s := by
  unfold confirmCm119
  refine Fallible.Triple.get fun s hs => ?_
  split
  · next hnone =>
    refine Fallible.Triple.pure fun s' h => ⟨h ▸ hs, fun hsome => ?_⟩
    rw [← hs.cm119, hnone] at hsome
    cases hsome
  · have hkey : (s.control.keyFor .usb false = true) → control.Keys .usb :=
      fun hptt => ⟨_, hs.unchanged ▸ hptt⟩
    simp only
    refine ((emits_setNativeOutputs none).imp (fun s' (h : s' = s) => h ▸ hs) (fun _ _ h => h)
      fun _ _ h => h).bind fun _ => ?_
    refine Fallible.Triple.bind (emits_cancelPulses _ _) fun _ => ?_
    refine Fallible.Triple.bind (emits_publish hkey) fun _ => ?_
    refine Fallible.Triple.bind emits_submitted fun _ => ?_
    refine Fallible.Triple.bind emits_cm119Snapshot fun snapshot => ?_
    refine Fallible.Triple.bind (emits_observeCm119 _ _) fun _ => ?_
    split
    · exact Fallible.Triple.panicked
    · refine Fallible.Triple.bind (Fallible.Keeps.whenever fun _ => .fail _) fun _ => ?_
      rw [show s.control = control from hs.unchanged]
      refine Fallible.Triple.bind (Q := fun _ s => Emits control s₀ s ∧ Confirmed control .usb s₀ s)
        (Fallible.Triple.modify fun s' h =>
          ⟨h.record (follows_confirmed _ _), confirmed_record h _⟩) fun _ => ?_
      exact Fallible.Triple.modify fun s' h => ⟨h.1.same rfl rfl rfl, fun _ => h.2⟩

theorem triple_confirmParallel_emits :
    Fallible.Triple (Emits control s₀) (confirmParallel worker moment)
      (fun _ s => Emits control s₀ s ∧
        (worker.plan.parallel.isSome = true → Confirmed control .parallel s₀ s))
      fun _ s => Emits control s₀ s := by
  unfold confirmParallel
  split
  · next hnone => exact Fallible.Triple.pure fun s' h => ⟨h, fun hsome => by rw [hnone] at hsome; cases hsome⟩
  · refine Fallible.Triple.get fun s hs => ?_
    have hkey : (s.control.keyFor .parallel false = true) → control.Keys .parallel :=
      fun hptt => ⟨_, hs.unchanged ▸ hptt⟩
    simp only
    split
    · split
      · exact Fallible.Triple.fail fun s' h => h ▸ hs
      · next hoff =>
        refine Fallible.Triple.modify fun s' h => ?_
        obtain rfl := h
        have hfalse : control.keyFor .parallel false = false := by
          rw [← hs.unchanged]
          exact Bool.eq_false_iff.mpr hoff
        have hconfirmed := confirmed_record hs .parallel
        rw [hfalse] at hconfirmed
        exact ⟨hs.record (follows_confirmed _ _), fun _ => hconfirmed⟩
    · refine ((emits_cancelPulses _ _).imp (fun s' (h : s' = s) => h ▸ hs) (fun _ _ h => h)
        fun _ _ h => h).bind fun _ => ?_
      refine Fallible.Triple.bind (emits_serviceParallelOnce hkey) fun _ => ?_
      refine Fallible.Triple.bind (Fallible.Keeps.of _) fun statistics => ?_
      refine Fallible.Triple.get fun s₁ hs₁ => ?_
      refine ((Fallible.Keeps.whenever fun _ => .fail _).imp (fun s' (h : s' = s₁) => h ▸ hs₁)
        (fun _ _ h => h) fun _ _ h => h).bind fun _ => ?_
      rw [show s.control = control from hs.unchanged]
      exact Fallible.Triple.modify fun s' h =>
        ⟨h.record (follows_confirmed _ _), fun _ => confirmed_record h _⟩

/-- The provider of a bank that is there. -/
def Banked (worker : ServiceWorker) (s : Service) : RemotePttSource → Prop
  | .usb => s.devices.cm119.isSome = true
  | .parallel => worker.plan.parallel.isSome = true
  | .rig => False

theorem Confirmed.later {source : RemotePttSource} (h : Confirmed control source s₀ s)
    (hlog : ∃ new, s'.log = new ++ s.log) : Confirmed control source s₀ s' := by
  obtain ⟨new, heq, hmem⟩ := h
  obtain ⟨later, hlater⟩ := hlog
  exact ⟨later ++ new, by rw [hlater, heq, List.append_assoc], List.mem_append_right _ hmem⟩

theorem Confirmed.earlier {source : RemotePttSource} (h : Confirmed control source s s')
    (hlog : ∃ new, s.log = new ++ s₀.log) : Confirmed control source s₀ s' := by
  obtain ⟨new, heq, hmem⟩ := h
  obtain ⟨earlier, hearlier⟩ := hlog
  exact ⟨new ++ earlier, by rw [heq, hearlier, List.append_assoc], List.mem_append_left _ hmem⟩

theorem Emits.grows (h : Emits control s₀ s) : ∃ new, s.log = new ++ s₀.log :=
  h.log.imp fun _ h => h.1

/-- **A confirmation that succeeds has confirmed every bank that is there**. -/
theorem triple_serviceRemotePtt_emits :
    Fallible.Triple (Emits control s₀) (serviceRemotePtt worker moment)
      (fun _ s => Emits control s₀ s ∧ ∀ source, Banked worker s₀ source →
        Confirmed control source s₀ s)
      fun _ s => Emits control s₀ s := by
  unfold serviceRemotePtt
  refine Fallible.Triple.bindTotal (Fallible.Triple.attempt (R := fun cm119 s =>
    Emits control s₀ s ∧ (cm119.isOk = true → s₀.devices.cm119.isSome = true →
      Confirmed control .usb s₀ s))
    (triple_confirmCm119_emits.imp (fun _ h => h) (fun _ _ h => ⟨h.1, fun _ => h.2⟩)
      fun _ _ h => ⟨h, nofun⟩)) fun cm119 => ?_
  refine Fallible.Triple.bindTotal (Fallible.Triple.attempt (R := fun parallel s =>
    Emits control s₀ s ∧ (cm119.isOk = true → s₀.devices.cm119.isSome = true →
      Confirmed control .usb s₀ s) ∧ (parallel.isOk = true → worker.plan.parallel.isSome = true →
      Confirmed control .parallel s₀ s)) fun s hs => ?_) fun parallel => ?_
  · have hparallel : Fallible.Triple (Emits control s) (confirmParallel worker moment) _ _ :=
      triple_confirmParallel_emits
    refine hparallel.imp (fun _ h => h) (fun _ s' h => ⟨hs.1.trans h.1, fun hok hsome => ?_,
      fun _ hsome => (h.2 hsome).earlier hs.1.grows⟩)
      (fun _ s' h => ⟨hs.1.trans h, fun hok hsome => (hs.2 hok hsome).later h.grows, nofun⟩) s
      (emits_refl hs.1.unchanged)
    exact (hs.2 hok hsome).later h.1.grows
  · cases cm119 with
    | error failure => exact fun s h => h.1
    | ok u => cases parallel with
      | error failure => exact fun s h => h.1
      | ok u =>
        intro s h
        refine ⟨h.1, fun source hbanked => ?_⟩
        cases source with
        | rig => exact hbanked.elim
        | usb => exact h.2.1 rfl hbanked
        | parallel => exact h.2.2 rfl hbanked

theorem emits_serviceRemotePtt :
    Fallible.Keeps (Emits control s₀) (serviceRemotePtt worker moment) :=
  triple_serviceRemotePtt_emits.imp (fun _ h => h) (fun _ _ h => h.1) fun _ _ h => h

end Driver
end UsbRadioPlus
