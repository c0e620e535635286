import UsbRadioPlus.Driver.PinExclusivity
import UsbRadioPlus.Driver.ServiceCycle

/-!
# The native cycle publishes fresh inputs

A native cycle carries out the queued commands and then samples its banks. The station then sees what
the banks reported in this cycle (`FreshInputs`): a bank that failed or is offline contributes no
active signal, and while the CM119 input is not healthy no PTT is requested. This holds exactly where
nothing ends the cycle before it publishes, and nothing is held back (`Samples`). A command that fails ends
it, and so does the second reading of the parallel statistics on a station without CM119; an unhealthy
CM119 holds back what the parallel port reports (`Masked`).
-/

namespace UsbRadioPlus
namespace Driver

open Sys

variable {worker : ServiceWorker} {moment : Moment} {answers : DeviceAnswers}
  {s s' s₀ : Service} {ready : Bool}

/-- A cycle of the native worker. -/
def nativeCycle (worker : ServiceWorker) (commands : List (ServiceCommand × DeviceAnswers))
    (moment : Moment) : Cycle Unit := do
  serviceCommands worker commands
  serviceNativeOnce worker moment

/-! ## Readings -/

/-- What the CM119 reported in a cycle, if it was healthy. -/
def cm119Reading (s : Service) (answers : DeviceAnswers) : Option (Cm119Inputs × Cm119Statistics) :=
  if s.devices.cm119.isSome then
    match answers.serviceCm119, answers.inputsCm119, answers.statisticsCm119 with
    | .ok (), .ok inputs, .ok statistics => if inputs.online then some (inputs, statistics) else none
    | _, _, _ => none
  else none

/-- The CM119 input is healthy, or there is none. -/
def cm119Ready (s : Service) (answers : DeviceAnswers) : Bool :=
  s.devices.cm119.isNone || (cm119Reading s answers).isSome

/-- The PTT level that the native cycle hands to the parallel port. -/
def parallelKey (s : Service) (moment : Moment) : Bool :=
  cm119Ready s moment.answers && s.control.keyFor .parallel moment.logicalPtt

/-- What the calls of the parallel service report. -/
def acquired (answers : DeviceAnswers) : Option ParallelInputs :=
  match answers.publishParallel, answers.serviceParallel, answers.inputsParallel with
  | .ok (), .ok (), .ok inputs => some inputs
  | _, _, _ => none

/-- What the parallel port reported in a cycle, if no call failed and it was online. -/
def parallelReading (worker : ServiceWorker) (s : Service) (moment : Moment) :
    Option ParallelInputs :=
  if s.devices.parallel.isSome then
    match (s.outputs.serviceRemoteRadio s.devices (parallelKey s moment) moment.answers).result,
      worker.plan.parallel, acquired moment.answers, moment.answers.statisticsParallel with
    | .ok (), some _, some inputs, .ok _ => if inputs.online then some inputs else none
    | _, _, _, _ => none
  else none

/-- The outputs that the native cycle requests of the CM119. -/
def requestedOutputs (s : Service) (moment : Moment) : Cm119Outputs where
  pttAsserted := cm119Ready s moment.answers && s.control.keyFor .usb moment.logicalPtt
  gpioOutputMask := s.outputs.cm119

/-- The CM119 has the requested outputs, or takes them in this cycle. -/
def acceptsOutputs (s : Service) (moment : Moment) : Bool :=
  s.devices.cm119.isNone || s.outputs.nativeOutputs = some (requestedOutputs s moment) ||
    moment.answers.publishCm119.isOk

/-- The applied PTT that the bank of the PTT reported: the CM119, or the parallel port where there is no
CM119. -/
def pttReading (worker : ServiceWorker) (s : Service) (moment : Moment) : Bool :=
  if s.devices.cm119.isSome then
    (cm119Reading s moment.answers).any fun reading => reading.2.online && reading.2.pttApplied
  else
    match s.devices.parallel, worker.plan.parallel, moment.answers.statisticsAgain with
    | some _, some plan, .ok statistics => plan.pttMask ≠ 0 && statistics.online &&
        (decide (statistics.appliedOutputMask &&& plan.pttMask ≠ 0) != s.devices.pttInverted)
    | _, _, _ => false

/-- The event asserts PTT. -/
def ServiceEvent.keys : ServiceEvent → Bool
  | .published _ _ _ ptt => ptt
  | .refused _ ptt => ptt
  | .rtx transmitting => transmitting
  | _ => false

/-- The inputs are what the banks report in a cycle from `s`, each field by its own bank. A CM119 that
refuses its outputs has failed and reports no PTT. -/
structure FreshInputs (worker : ServiceWorker) (moment : Moment) (s : Service)
    (inputs : HardwareInputs) : Prop where
  carrier : inputs.carrier = (cm119Reading s moment.answers).any (·.1.corActive)
  subaudible : inputs.subaudible = (cm119Reading s moment.answers).any (·.1.ctcssActive)
  cm119Gpio : inputs.cm119GpioMask =
    (cm119Reading s moment.answers).elim 0 (·.1.gpioInputMask)
  parallelCarrier : inputs.parallelCarrier =
    (parallelReading worker s moment).any fun port => worker.plan.parallel.any fun plan =>
      port.statusMask &&& plan.carrierMask ≠ 0
  parallelSubaudible : inputs.parallelSubaudible =
    (parallelReading worker s moment).any fun port => worker.plan.parallel.any fun plan =>
      port.statusMask &&& plan.ctcssMask ≠ 0
  parallelInput : inputs.parallelInputMask = (parallelReading worker s moment).elim 0 (·.statusMask)
  physicalPtt : inputs.physicalPtt = (pttReading worker s moment && acceptsOutputs s moment)

/-- A native cycle publishes the inputs of the cycle, and requests no PTT for an unhealthy CM119. -/
def FreshCycle (worker : ServiceWorker) (commands : List (ServiceCommand × DeviceAnswers))
    (moment : Moment) (s : Service) : Prop :=
  ∀ r s', nativeCycle worker commands moment s = some (r, s') →
    ∃ middle new, serviceCommands worker commands s = some (.ok (), middle) ∧
      s'.log = new ++ s.log ∧ .sampled ∈ new ∧ FreshInputs worker moment middle s'.inputs ∧
      (cm119Ready middle moment.answers = false → ∀ e ∈ new, e.keys = false)

/-- The second reading of the parallel statistics fails, on a station without CM119. -/
def StatisticsLost (worker : ServiceWorker) (moment : Moment) (s : Service) : Prop :=
  s.devices.cm119.isNone = true ∧ s.devices.parallel.isSome = true ∧
    worker.plan.parallel.isSome = true ∧ ∃ e, moment.answers.statisticsAgain = .error e

/-- The CM119 is not healthy, and the parallel port reports an active input. -/
def Masked (worker : ServiceWorker) (moment : Moment) (s : Service) : Prop :=
  cm119Ready s moment.answers = false ∧
    ∃ port, parallelReading worker s moment = some port ∧ port.statusMask ≠ 0

/-- Nothing ends the cycle before it publishes its inputs, and nothing is held back. -/
def Samples (worker : ServiceWorker) (commands : List (ServiceCommand × DeviceAnswers))
    (moment : Moment) (s : Service) : Prop :=
  match serviceCommands worker commands s with
  | some (.ok (), middle) => ¬ StatisticsLost worker moment middle ∧ ¬ Masked worker moment middle
  | some (.error _, _) => False
  -- a panic: the cycle does not return
  | none => True

/-! ## The parts of a cycle -/

/-- What the native cycle reads of its outputs when it hands them to the CM119. -/
structure SameOutputs (o o' : OutputState) : Prop where
  native : o'.nativeOutputs = o.nativeOutputs
  levels : o'.cm119 = o.cm119

/-- What a cycle has done, up to its publication. -/
def Recorded (ready : Bool) (s₀ s : Service) : Prop :=
  ∃ new, s.log = new ++ s₀.log ∧ .sampled ∉ new ∧ (ready = false → ∀ e ∈ new, e.keys = false)

theorem Recorded.record (h : Recorded ready s₀ s) {event : ServiceEvent} (hsampled : event ≠ .sampled)
    (hkeys : ready = false → event.keys = false) : Recorded ready s₀ (s.record event) := by
  obtain ⟨new, hlog, hnew, hquiet⟩ := h
  refine ⟨event :: new, congrArg (event :: ·) hlog, ?_, ?_⟩
  · simp [hnew, hsampled.symm]
  · intro hready e he
    rcases List.mem_cons.mp he with rfl | he
    · exact hkeys hready
    · exact hquiet hready e he

/-- What the parts of a cycle leave alone, up to its publication. -/
structure Cycling (ready : Bool) (s₀ s : Service) : Prop where
  control : s.control = s₀.control
  cm119 : s.devices.cm119.isSome = s₀.devices.cm119.isSome
  parallel : s.devices.parallel.isSome = s₀.devices.parallel.isSome
  inverted : s.devices.pttInverted = s₀.devices.pttInverted
  same : SameOutputs s₀.outputs s.outputs
  log : Recorded ready s₀ s

theorem Cycling.refl (ready : Bool) (s : Service) : Cycling ready s s :=
  ⟨rfl, rfl, rfl, rfl, ⟨rfl, rfl⟩, [], rfl, by simp, by simp⟩

theorem Cycling.record (h : Cycling ready s₀ s) {event : ServiceEvent} (hsampled : event ≠ .sampled)
    (hkeys : ready = false → event.keys = false) : Cycling ready s₀ (s.record event) :=
  { h with log := h.log.record hsampled hkeys }

/-- A change of the output state alone. -/
theorem Cycling.outputs (h : Cycling ready s₀ s) {outputs : OutputState}
    (hsame : SameOutputs s.outputs outputs) : Cycling ready s₀ { s with outputs } :=
  { h with same := ⟨hsame.native.trans h.same.native, hsame.levels.trans h.same.levels⟩, log := h.log }

theorem cycling_touch (h : Cycling ready s₀ s) (bank : SiteBank) :
    Cycling ready s₀ { s with devices := s.devices.touch bank } := by
  refine ⟨h.control, ?_, ?_, ?_, h.same, h.log⟩ <;> cases bank <;>
    simp [ServiceDevices.touch, h.cm119, h.parallel, h.inverted]

/-- What the service of a remote radio reads. -/
structure SameSynthesizer (o o' : OutputState) : Prop where
  radio : o'.remoteRadio = o.remoteRadio
  dirty : o'.remoteRadioDirty = o.remoteRadioDirty
  ptt : o'.remoteRadioPtt = o.remoteRadioPtt

theorem result_serviceRemoteRadio {o o' : OutputState} {devices devices' : ServiceDevices}
    (h : SameSynthesizer o o') (hparallel : devices'.parallel.isSome = devices.parallel.isSome)
    (key : Bool) (answers : DeviceAnswers) :
    (o'.serviceRemoteRadio devices' key answers).result =
      (o.serviceRemoteRadio devices key answers).result := by
  unfold OutputState.serviceRemoteRadio
  rw [h.radio, h.dirty, h.ptt]
  cases o.remoteRadio with
  | none => rfl
  | some settings =>
    simp only
    split
    · rfl
    · cases hd : devices.parallel <;> cases hd' : devices'.parallel <;>
        rw [hd, hd'] at hparallel <;> simp at hparallel ⊢
      split
      · split
        · cases answers.clearRtxTransmit <;> rfl
        · rfl
      · cases answers.programRtx <;> rfl

/-- In front of the parallel service. -/
structure Sampling (ready : Bool) (s₀ s : Service) : Prop extends Cycling ready s₀ s where
  synthesizer : SameSynthesizer s₀.outputs s.outputs

theorem serviceClipLed_spec (ready : Bool) (s : Service) (clipLedMask : U8) (clipEvents now : Nat) :
    Sampling ready s (s.withOutcome
      (s.outputs.serviceClipLed s.devices clipLedMask clipEvents now answers)) := by
  unfold OutputState.serviceClipLed
  split
  · exact ⟨.refl ready s, rfl, rfl, rfl⟩
  · simp only
    split
    · exact ⟨(Cycling.refl ready s).outputs ⟨rfl, rfl⟩, rfl, rfl, rfl⟩
    · cases hdevice : s.devices.cm119 with
      | none => exact ⟨(Cycling.refl ready s).outputs ⟨rfl, rfl⟩, rfl, rfl, rfl⟩
      | some device =>
        have hdevices : Cycling ready s { s with
            devices := s.devices.schedulePulse .cm119 clipLedMask 0 answers } :=
          ⟨rfl, by simp [ServiceDevices.schedulePulse], rfl, rfl, ⟨rfl, rfl⟩, [], rfl, by simp, by simp⟩
        simp only
        split
        · exact ⟨hdevices.outputs ⟨rfl, rfl⟩, rfl, rfl, rfl⟩
        · exact ⟨hdevices.outputs ⟨rfl, rfl⟩, rfl, rfl, rfl⟩

theorem triple_clipLed (ready : Bool) (s : Service) (clipLedMask : U8) (clipEvents now : Nat) :
    Fallible.Triple (· = s)
      (Fallible.attempt <| Cycle.outcome fun outputs devices =>
        outputs.serviceClipLed devices clipLedMask clipEvents now answers)
      (fun _ s' => Sampling ready s s') fun _ _ => False := by
  rintro _ rfl
  simp only [Fallible.attempt, Cycle.outcome, Option.map_some]
  exact serviceClipLed_spec _ _ clipLedMask clipEvents now

theorem failing_eq_ok {α : Type} {operation : HardwareOperation} {answer : Except GpioError α}
    {a : α} (h : failing operation answer = .ok a) : answer = .ok a := by
  cases answer with
  | error e => cases h
  | ok b => exact congrArg Except.ok (Except.ok.inj h)

theorem failing_eq_error {α : Type} {operation : HardwareOperation} {answer : Except GpioError α}
    {failure : ServiceFailure} (h : failing operation answer = .error failure) :
    ∃ e, answer = .error e := by
  cases answer with
  | error e => exact ⟨e, rfl⟩
  | ok b => cases h

/-- The answer of a device. -/
theorem triple_answer {α : Type} {I : Service → Prop} {operation : HardwareOperation}
    {answer : Except GpioError α} : Fallible.Triple I (Fallible.of (failing operation answer))
      (fun a s => I s ∧ answer = .ok a) fun _ s => I s ∧ ∃ e, answer = .error e :=
  Fallible.Triple.of (fun _ h _ hs => ⟨hs, failing_eq_ok h⟩) fun _ h _ hs => ⟨hs, failing_eq_error h⟩

/-- A service call records at most its event. -/
theorem triple_service {I : Service → Prop} {bank : SiteBank} {operation : HardwareOperation}
    {answer : Except GpioError Unit} (hrecord : ∀ s, I s → I (s.record (.serviced bank))) :
    Fallible.Triple I (Cycle.service bank operation answer) (fun _ s => I s ∧ answer = .ok ())
      fun _ s => I s ∧ ∃ e, answer = .error e :=
  triple_answer.bind fun _ => Fallible.Triple.modify fun s h => ⟨hrecord s h.1, h.2⟩

/-! ## The CM119 -/

theorem Sampling.record (h : Sampling ready s₀ s) {event : ServiceEvent} (hsampled : event ≠ .sampled)
    (hkeys : ready = false → event.keys = false) : Sampling ready s₀ (s.record event) :=
  ⟨h.toCycling.record hsampled hkeys, h.synthesizer⟩

/-- A snapshot, or its failure, tells whether the CM119 is healthy. -/
structure Reported (s₀ : Service) (answers : DeviceAnswers)
    (snapshots : Except ServiceFailure (Option (Cm119Inputs × Cm119Statistics))) : Prop where
  reading : snapshots.toOption.join.filter (fun (input, _) => input.online) =
    cm119Reading s₀ answers
  ready : (snapshots.toOption.any fun snapshot => snapshot.all fun (inputs, _) => inputs.online) =
    cm119Ready s₀ answers

theorem triple_cm119Snapshot (s₀ : Service) (answers : DeviceAnswers) :
    Fallible.Triple (Sampling ready s₀) (Fallible.attempt (cm119Snapshot answers))
      (fun snapshots s => Sampling ready s₀ s ∧ Reported s₀ answers snapshots)
      fun _ _ => False := by
  refine Fallible.Triple.attempt ?_
  unfold cm119Snapshot
  refine Fallible.Triple.get fun s hs => ?_
  have hdevice := hs.cm119
  cases hcm119 : s.devices.cm119 with
  | none =>
    rw [hcm119] at hdevice
    refine Fallible.Triple.pure fun s' h => ?_
    obtain rfl := h
    refine ⟨hs, ?_, ?_⟩
    · simp [cm119Reading, ← hdevice, Except.toOption]
    · cases hd : s₀.devices.cm119 <;> rw [hd] at hdevice <;> simp at hdevice
      simp [cm119Ready, hd, Except.toOption]
  | some device =>
    rw [hcm119] at hdevice
    obtain ⟨device₀, hdevice₀⟩ := Option.isSome_iff_exists.mp hdevice.symm
    simp only
    have hfailed : (∃ e, answers.serviceCm119 = .error e) ∨ (∃ e, answers.inputsCm119 = .error e) ∨
        (∃ e, answers.statisticsCm119 = .error e) → ∀ e : ServiceFailure,
        Reported s₀ answers (.error e) := by
      intro h e
      have hreading : cm119Reading s₀ answers = none := by
        unfold cm119Reading
        rw [hdevice₀]
        rcases h with ⟨e', h⟩ | ⟨e', h⟩ | ⟨e', h⟩ <;> rw [h] <;> simp
      exact ⟨hreading.symm, by simp [cm119Ready, hdevice₀, hreading, Except.toOption]⟩
    refine Fallible.Triple.bind (Q := fun _ s => Sampling ready s₀ s ∧ answers.serviceCm119 = .ok ())
      ((triple_service fun s h => h.record (by simp) fun _ => rfl).imp
        (fun s' h => h ▸ hs) (fun _ _ h => h) fun e s' h => ⟨h.1, hfailed (.inl h.2) e⟩) fun _ => ?_
    refine (triple_answer.imp (fun _ h => h) (fun _ _ h => h)
      fun e s' h => ⟨h.1.1, hfailed (.inr (.inl h.2)) e⟩).bind fun inputs => ?_
    refine (triple_answer.imp (fun _ h => h) (fun _ _ h => h)
      fun e s' h => ⟨h.1.1.1, hfailed (.inr (.inr h.2)) e⟩).bind fun statistics => ?_
    refine Fallible.Triple.pure fun s' h => ?_
    obtain ⟨⟨⟨hs', hservice⟩, hinputs⟩, hstatistics⟩ := h
    refine ⟨hs', ?_, ?_⟩
    · simp [cm119Reading, hdevice₀, hservice, hinputs, hstatistics, Except.toOption, Option.filter]
    · cases honline : inputs.online <;>
        simp [cm119Ready, cm119Reading, hdevice₀, hservice, hinputs, hstatistics, Except.toOption,
          honline]

theorem triple_observeCm119 (s₀ : Service) (snapshot : Option (Cm119Inputs × Cm119Statistics))
    (now : Nat) : Fallible.Triple (Sampling ready s₀) (observeCm119 snapshot now)
      (fun _ s => Sampling ready s₀ s) fun _ _ => False := by
  have hsite : ∀ s site, Sampling ready s₀ s → Sampling ready s₀ (s.setSite .cm119 site) :=
    fun s site h => ⟨h.toCycling.outputs ⟨rfl, rfl⟩, h.synthesizer.radio, h.synthesizer.dirty,
      h.synthesizer.ptt⟩
  unfold observeCm119
  exact Fallible.Triple.bind (Q := fun _ s => Sampling ready s₀ s)
    (Fallible.Triple.modify fun s h => hsite s _ h)
    fun _ => Fallible.Triple.modify fun s h => hsite s _ h

/-! ## The parallel port -/

theorem cycling_serviceRemoteRadio (h : Cycling ready s₀ s) (key : Bool) (answers : DeviceAnswers) :
    Cycling ready s₀ (s.withOutcome (s.outputs.serviceRemoteRadio s.devices key answers)) := by
  have htouch := cycling_touch h .parallel
  unfold OutputState.serviceRemoteRadio
  cases s.outputs.remoteRadio with
  | none => exact h
  | some settings =>
    simp only
    split
    · exact h
    · cases s.devices.parallel with
      | none => exact h
      | some device =>
        simp only
        split
        · split
          · split
            · exact htouch.outputs ⟨rfl, rfl⟩
            · exact htouch.outputs ⟨rfl, rfl⟩
          · exact h.outputs ⟨rfl, rfl⟩
        · split
          · exact htouch.outputs ⟨rfl, rfl⟩
          · exact htouch.outputs ⟨rfl, rfl⟩

theorem triple_serviceRemoteRadio (s₀ : Service) {key : Bool} (hkey : ready = false → key = false) :
    Fallible.Triple (Sampling ready s₀) (serviceRemoteRadio key answers)
      (fun _ s => Cycling ready s₀ s ∧
        (s₀.outputs.serviceRemoteRadio s₀.devices key answers).result = .ok ())
      fun _ s => Cycling ready s₀ s ∧
        ∃ e, (s₀.outputs.serviceRemoteRadio s₀.devices key answers).result = .error e := by
  unfold serviceRemoteRadio
  refine Fallible.Triple.get fun s hs => ?_
  have hrecord : Fallible.Triple (· = s)
      (if s.outputs.remoteRadio.isSome then Fallible.modify (·.record (.rtx key)) else pure () :
        Cycle Unit) (fun _ s' => Sampling ready s₀ s') fun _ _ => False := by
    split
    · exact Fallible.Triple.modify fun s' h => h ▸ hs.record (by simp) hkey
    · exact Fallible.Triple.pure fun s' h => h ▸ hs
  refine (hrecord.imp (fun _ h => h) (fun _ _ h => h) fun _ _ h => h.elim).bind fun _ => ?_
  intro s' hs'
  have hresult := result_serviceRemoteRadio hs'.synthesizer hs'.parallel key answers
  have hcycling := cycling_serviceRemoteRadio hs'.toCycling key answers
  simp only [Cycle.outcome]
  cases hr : (s'.outputs.serviceRemoteRadio s'.devices key answers).result with
  | ok u => exact ⟨hcycling, hresult ▸ hr⟩
  | error e => exact ⟨hcycling, e, hresult ▸ hr⟩

theorem triple_acquireParallel (s₀ : Service) (outputMask : U8) {key : Bool}
    (hkey : ready = false → key = false) :
    Fallible.Triple (Cycling ready s₀) (Fallible.attempt (acquireParallel outputMask key answers))
      (fun acquisition s => Cycling ready s₀ s ∧ acquisition.toOption = acquired answers)
      fun _ _ => False := by
  refine Fallible.Triple.attempt ?_
  have hfailed : (∃ e, answers.publishParallel = .error e) ∨
      (∃ e, answers.serviceParallel = .error e) ∨ (∃ e, answers.inputsParallel = .error e) →
      acquired answers = none := by
    unfold acquired
    rintro (⟨e, h⟩ | ⟨e, h⟩ | ⟨e, h⟩) <;> rw [h] <;> simp
  unfold acquireParallel
  refine Fallible.Triple.bind (Q := fun _ s => Cycling ready s₀ s ∧ answers.publishParallel = .ok ())
    ?_ fun _ => ?_
  · intro s hs
    have htouch := cycling_touch hs .parallel
    unfold Cycle.publish
    cases hpublish : answers.publishParallel with
    | error e =>
      exact ⟨htouch.record (by simp) fun h => hkey h, (hfailed (.inl ⟨e, hpublish⟩)).symm⟩
    | ok u => exact ⟨htouch.record (by simp) fun h => hkey h, rfl⟩
  refine Fallible.Triple.bind (Q := fun _ s => Cycling ready s₀ s ∧ answers.publishParallel = .ok ())
    (Fallible.Triple.modify fun s h => ⟨h.1.outputs ⟨rfl, rfl⟩, h.2⟩) fun _ => ?_
  refine ((triple_service fun s h => ⟨h.1.record (by simp) fun _ => rfl, h.2⟩).imp (fun _ h => h)
    (fun _ _ h => h) fun e s h => ⟨h.1.1, (hfailed (.inr (.inl h.2))).symm⟩).bind fun _ => ?_
  refine triple_answer.imp (fun _ h => h) (fun inputs s h => ⟨h.1.1.1, ?_⟩)
    fun e s h => ⟨h.1.1.1, (hfailed (.inr (.inr h.2))).symm⟩
  simp [acquired, h.1.1.2, h.1.2, h.2, Except.toOption]

theorem triple_serviceParallelOnce (s₀ : Service)
    (hkey : ready = false → parallelKey s₀ moment = false) :
    Fallible.Triple (Sampling ready s₀)
      (Fallible.attempt (serviceParallelOnce worker (parallelKey s₀ moment) moment))
      (fun parallel s => Cycling ready s₀ s ∧
        parallel.toOption.join.filter (·.online) = parallelReading worker s₀ moment)
      fun _ _ => False := by
  have hfailed : (∃ e, (s₀.outputs.serviceRemoteRadio s₀.devices (parallelKey s₀ moment)
      moment.answers).result = .error e) ∨ acquired moment.answers = none ∨
      (∃ e, moment.answers.statisticsParallel = .error e) →
      none = parallelReading worker s₀ moment := by
    unfold parallelReading
    rintro (⟨e, h⟩ | h | ⟨e, h⟩) <;> rw [h] <;> simp
  refine Fallible.Triple.attempt ?_
  unfold serviceParallelOnce
  refine ((triple_serviceRemoteRadio s₀ hkey).imp (fun _ h => h) (fun _ _ h => h)
    fun e s h => ⟨h.1, hfailed (.inl h.2)⟩).bind fun _ => ?_
  cases hplan : worker.plan.parallel with
  | none =>
    refine Fallible.Triple.pure fun s h => ⟨h.1, ?_⟩
    simp [parallelReading, hplan, Except.toOption]
  | some plan =>
    refine Fallible.Triple.get fun s hs => ?_
    cases hdevice : s.devices.parallel with
    | none => exact Fallible.Triple.panicked
    | some device =>
      have hport : s₀.devices.parallel.isSome = true := by rw [← hs.1.parallel, hdevice]; rfl
      simp only
      refine ((triple_acquireParallel s₀ _ hkey).imp (fun s' (h : s' = s) => h ▸ hs.1)
        (fun _ _ h => h) fun _ _ h => h.elim).bind fun acquisition => ?_
      refine Fallible.Triple.bind
        (Q := fun _ s => Cycling ready s₀ s ∧ acquisition.toOption = acquired moment.answers)
        (Fallible.Triple.modify fun s h => ⟨h.1.outputs ⟨rfl, rfl⟩, h.2⟩) fun _ => ?_
      refine Fallible.Triple.bind
        (Q := fun _ s => Cycling ready s₀ s ∧ acquisition.toOption = acquired moment.answers)
        (Fallible.Triple.modify fun s h => ⟨h.1.outputs ⟨rfl, rfl⟩, h.2⟩) fun _ => ?_
      cases acquisition with
      | error failure =>
        exact Fallible.Triple.bind (Q := fun _ _ => False)
          (Fallible.Triple.of (fun _ h => by cases h)
            fun e _ s h => ⟨h.1, hfailed (.inr (.inl h.2.symm))⟩) fun _ s h => h.elim
      | ok inputs =>
        refine Fallible.Triple.bind (Q := fun a s => a = inputs ∧ Cycling ready s₀ s ∧
            acquired moment.answers = some inputs)
          (Fallible.Triple.of (fun a h s hs => ⟨(Except.ok.inj h).symm, hs.1, hs.2.symm⟩)
            fun _ h => by cases h) fun a => ?_
        refine (triple_answer.imp (fun _ h => h) (fun _ _ h => h)
          fun e s h => ⟨h.1.2.1, hfailed (.inr (.inr h.2))⟩).bind fun statistics => ?_
        refine Fallible.Triple.pure fun s h => ?_
        obtain ⟨⟨rfl, hcycling, hacquired⟩, hstatistics⟩ := h
        refine ⟨hcycling, ?_⟩
        simp [parallelReading, hport, hs.2, hplan, hacquired, hstatistics, Except.toOption, Option.filter]

/-! ## Publication -/

theorem filter_of_all {α : Type} {p : α → Bool} {x : Option α} (h : x.all p = true) :
    x.filter p = x := by
  cases x with
  | none => rfl
  | some a => simpa [Option.filter] using h

/-- The signals that a cycle publishes: an unhealthy CM119 holds back those of the parallel port. -/
structure Shown (worker : ServiceWorker) (moment : Moment) (s : Service)
    (inputs : HardwareInputs) : Prop where
  carrier : inputs.carrier = (cm119Reading s moment.answers).any (·.1.corActive)
  subaudible : inputs.subaudible = (cm119Reading s moment.answers).any (·.1.ctcssActive)
  cm119Gpio : inputs.cm119GpioMask =
    (cm119Reading s moment.answers).elim 0 (·.1.gpioInputMask)
  parallelCarrier : inputs.parallelCarrier = (cm119Ready s moment.answers &&
    (parallelReading worker s moment).any fun port => worker.plan.parallel.any fun plan =>
      port.statusMask &&& plan.carrierMask ≠ 0)
  parallelSubaudible : inputs.parallelSubaudible = (cm119Ready s moment.answers &&
    (parallelReading worker s moment).any fun port => worker.plan.parallel.any fun plan =>
      port.statusMask &&& plan.ctcssMask ≠ 0)
  parallelInput : inputs.parallelInputMask = if cm119Ready s moment.answers then
    (parallelReading worker s moment).elim 0 (·.statusMask) else 0

theorem cm119Reading_eq_none (hready : cm119Ready s₀ answers = false) :
    cm119Reading s₀ answers = none := by
  unfold cm119Ready at hready
  rw [Bool.or_eq_false_iff] at hready
  simpa using hready.2

theorem isSome_of_not_ready (hready : cm119Ready s₀ answers = false) :
    s₀.devices.cm119.isSome = true := by
  unfold cm119Ready at hready
  cases h : s₀.devices.cm119 with
  | none => rw [h] at hready; cases hready
  | some device => rfl

/-- What is published is fresh unless it is held back. -/
theorem Shown.fresh_iff {inputs : HardwareInputs} (h : Shown worker moment s₀ inputs)
    (hptt : inputs.physicalPtt = (pttReading worker s₀ moment && acceptsOutputs s₀ moment)) :
    FreshInputs worker moment s₀ inputs ↔ ¬ Masked worker moment s₀ := by
  constructor
  · rintro hfresh ⟨hready, port, hport, hactive⟩
    have hshown := h.parallelInput
    rw [hfresh.parallelInput, hready, hport] at hshown
    exact hactive (by simpa using hshown)
  · intro hmasked
    cases hready : cm119Ready s₀ moment.answers with
    | true =>
      exact ⟨h.carrier, h.subaudible, h.cm119Gpio, by rw [h.parallelCarrier, hready, Bool.true_and],
        by rw [h.parallelSubaudible, hready, Bool.true_and],
        by rw [h.parallelInput, hready, if_pos rfl], hptt⟩
    | false =>
      -- A port that is held back reports nothing active.
      have hidle : ∀ port, parallelReading worker s₀ moment = some port → port.statusMask = 0 :=
        fun port hport => by_contra fun hactive => hmasked ⟨hready, port, hport, hactive⟩
      refine ⟨h.carrier, h.subaudible, h.cm119Gpio, ?_, ?_, ?_, hptt⟩
      · rw [h.parallelCarrier, hready]
        cases hport : parallelReading worker s₀ moment with
        | none => rfl
        | some port => simp [hidle port hport]
      · rw [h.parallelSubaudible, hready]
        cases hport : parallelReading worker s₀ moment with
        | none => rfl
        | some port => simp [hidle port hport]
      · rw [h.parallelInput, hready]
        cases hport : parallelReading worker s₀ moment with
        | none => rfl
        | some port => simp [hidle port hport]

/-- The signals do not depend on the PTT. -/
theorem Shown.withPtt {inputs : HardwareInputs} (h : Shown worker moment s₀ inputs) (ptt : Bool) :
    Shown worker moment s₀ { inputs with physicalPtt := ptt } :=
  ⟨h.carrier, h.subaudible, h.cm119Gpio, h.parallelCarrier, h.parallelSubaudible, h.parallelInput⟩

theorem online_of_cm119Reading {reading : Cm119Inputs × Cm119Statistics}
    (hreading : cm119Reading s₀ answers = some reading) : reading.1.online = true := by
  unfold cm119Reading at hreading
  split at hreading
  · split at hreading
    · split at hreading
      · next honline =>
        obtain rfl := Option.some.inj hreading
        exact honline
      · cases hreading
    · cases hreading
  · cases hreading

/-- The signals that a healthy cycle collects. -/
theorem shown_hardwareInputs {parallel : Option ParallelInputs}
    (hready : cm119Ready s₀ moment.answers = true)
    (hparallel : parallel.filter (·.online) = parallelReading worker s₀ moment) :
    Shown worker moment s₀ (hardwareInputs
      ((cm119Reading s₀ moment.answers).getD (⟨false, false, false, 0⟩, ⟨false, false⟩)).1
      worker.plan.parallel parallel
      ((cm119Reading s₀ moment.answers).getD (⟨false, false, false, 0⟩, ⟨false, false⟩)).2) := by
  refine ⟨?_, ?_, ?_, ?_, ?_, ?_⟩
  · cases hreading : cm119Reading s₀ moment.answers with
    | none => simp [hardwareInputs]
    | some reading => simp [hardwareInputs, online_of_cm119Reading hreading]
  · cases hreading : cm119Reading s₀ moment.answers with
    | none => simp [hardwareInputs]
    | some reading => simp [hardwareInputs, online_of_cm119Reading hreading]
  · cases hreading : cm119Reading s₀ moment.answers with
    | none => simp [hardwareInputs]
    | some reading => simp [hardwareInputs, online_of_cm119Reading hreading]
  · simp only [hardwareInputs, hparallel, hready, Bool.true_and]
  · simp only [hardwareInputs, hparallel, hready, Bool.true_and]
  · simp only [hardwareInputs, hparallel, hready, if_true]

theorem shown_none (hready : cm119Ready s₀ moment.answers = false) :
    Shown worker moment s₀ HardwareInputs.none := by
  have hreading := cm119Reading_eq_none hready
  refine ⟨?_, ?_, ?_, ?_, ?_, ?_⟩ <;> simp [HardwareInputs.none, hreading, hready]

/-- The inputs that a cycle collects. -/
structure Collected (worker : ServiceWorker) (moment : Moment) (s : Service)
    (inputs : HardwareInputs) : Prop where
  shown : Shown worker moment s inputs
  ptt : inputs.physicalPtt = pttReading worker s moment

/-- Without a reading of its PTT, a station without CM119 has none. -/
theorem collected_of_silent {parallel : Option ParallelInputs}
    (hcm119 : s₀.devices.cm119.isSome = false)
    (hparallel : parallel.filter (·.online) = parallelReading worker s₀ moment)
    (hptt : pttReading worker s₀ moment = false) :
    Collected worker moment s₀ (hardwareInputs
      ((cm119Reading s₀ moment.answers).getD (⟨false, false, false, 0⟩, ⟨false, false⟩)).1
      worker.plan.parallel parallel
      ((cm119Reading s₀ moment.answers).getD (⟨false, false, false, 0⟩, ⟨false, false⟩)).2) := by
  have hreading : cm119Reading s₀ moment.answers = none := by simp [cm119Reading, hcm119]
  have hnone : s₀.devices.cm119 = none := by simpa using hcm119
  have hready : cm119Ready s₀ moment.answers = true := by simp [cm119Ready, hnone]
  refine ⟨shown_hardwareInputs hready hparallel, ?_⟩
  rw [hreading, hptt]
  rfl

theorem triple_nativeInputs {snapshots : Except ServiceFailure (Option (Cm119Inputs × Cm119Statistics))}
    {parallel : Option ParallelInputs} (hreported : Reported s₀ moment.answers snapshots)
    (hparallel : parallel.filter (·.online) = parallelReading worker s₀ moment) :
    Fallible.Triple (Cycling ready s₀)
      (nativeInputs (cm119Ready s₀ moment.answers) worker snapshots.toOption.join parallel
        moment.answers)
      (fun inputs s => (Cycling ready s₀ s ∧ Collected worker moment s₀ inputs) ∧
        ¬ StatisticsLost worker moment s₀)
      fun _ s => Cycling ready s₀ s ∧ StatisticsLost worker moment s₀ := by
  unfold nativeInputs
  cases hready : cm119Ready s₀ moment.answers with
  | false =>
    refine Fallible.Triple.pure fun s h => ⟨⟨h, shown_none hready, ?_⟩, fun hlost => ?_⟩
    · simp [pttReading, isSome_of_not_ready hready, cm119Reading_eq_none hready, HardwareInputs.none]
    · simp [cm119Ready, hlost.1] at hready
  | true =>
    have hsnapshot : snapshots.toOption.join = cm119Reading s₀ moment.answers := by
      have hall := hreported.ready.trans hready
      rw [← hreported.reading]
      cases hs : snapshots.toOption with
      | none => rw [hs] at hall; cases hall
      | some snapshot =>
        rw [hs] at hall
        exact (filter_of_all hall).symm
    simp only [if_true]
    unfold collectedInputs
    rw [hsnapshot]
    refine Fallible.Triple.get fun s hs => ?_
    have hcm119 := hs.cm119
    have hport := hs.parallel
    cases hd : s.devices.cm119 with
    | some device =>
      rw [hd] at hcm119
      refine Fallible.Triple.pure fun s' h => ⟨⟨h ▸ hs, shown_hardwareInputs hready hparallel, ?_⟩,
        fun hlost => ?_⟩
      · have hsome : s₀.devices.cm119.isSome = true := hcm119.symm
        rw [pttReading, if_pos hsome]
        cases cm119Reading s₀ moment.answers <;> rfl
      · have hnone := hlost.1
        rw [Option.isNone_iff_eq_none] at hnone
        rw [hnone] at hcm119
        cases hcm119
    | none =>
      rw [hd] at hcm119
      have hcm119' : s₀.devices.cm119.isSome = false := hcm119.symm
      cases hdevice : s.devices.parallel with
      | none =>
        rw [hdevice] at hport
        have hnone : s₀.devices.parallel = none := by simpa using hport.symm
        refine Fallible.Triple.pure fun s' h => ⟨⟨h ▸ hs, collected_of_silent hcm119' hparallel ?_⟩,
          fun hlost => ?_⟩
        · simp [pttReading, hcm119', hnone]
        · rw [hlost.2.1] at hport
          cases hport
      | some device => cases hplan : worker.plan.parallel with
        | none =>
          have hsilent := collected_of_silent hcm119' hparallel (by simp [pttReading, hcm119', hplan])
          rw [hplan] at hsilent
          refine Fallible.Triple.pure fun s' h => ⟨⟨h ▸ hs, hsilent⟩, fun hlost => ?_⟩
          have hsome := hlost.2.2.1
          rw [hplan] at hsome
          cases hsome
        | some plan =>
          rw [hdevice] at hport
          obtain ⟨device₀, hdevice₀⟩ := Option.isSome_iff_exists.mp hport.symm
          refine (triple_answer.imp (fun _ h => h) (fun _ _ h => h) fun e s' h => ⟨h.1 ▸ hs,
            by simpa using hcm119', hport.symm, hplan ▸ rfl, h.2⟩).bind fun statistics => ?_
          refine Fallible.Triple.pure fun s' h => ⟨⟨h.1 ▸ hs, ?_, ?_⟩, fun hlost => ?_⟩
          · rw [← hplan]
            exact (shown_hardwareInputs hready hparallel).withPtt _
          · simp [pttReading, hcm119', hdevice₀, hplan, h.2, hs.inverted]
          · obtain ⟨e, he⟩ := hlost.2.2.2
            rw [h.2] at he
            cases he

/-- The inputs of the cycle are published. -/
structure Sampled (worker : ServiceWorker) (moment : Moment) (s₀ s : Service) : Prop where
  log : ∃ new, s.log = new ++ s₀.log ∧ .sampled ∈ new ∧
    (cm119Ready s₀ moment.answers = false → ∀ e ∈ new, e.keys = false)
  shown : Shown worker moment s₀ s.inputs
  ptt : s.inputs.physicalPtt = (pttReading worker s₀ moment && acceptsOutputs s₀ moment)

theorem sampled_publishInputs {inputs : HardwareInputs}
    (h : Recorded (cm119Ready s₀ moment.answers) s₀ s) (hshown : Shown worker moment s₀ inputs)
    (hptt : inputs.physicalPtt = (pttReading worker s₀ moment && acceptsOutputs s₀ moment)) :
    Sampled worker moment s₀ (s.publishInputs inputs) := by
  obtain ⟨new, hlog, -, hquiet⟩ := h
  refine ⟨⟨.sampled :: new, congrArg (ServiceEvent.sampled :: ·) hlog, by simp, fun hready e he => ?_⟩,
    hshown, hptt⟩
  rcases List.mem_cons.mp he with rfl | he
  · rfl
  · exact hquiet hready e he

theorem triple_republishNative {requested : Cm119Outputs} {inputs : HardwareInputs}
    (hkey : cm119Ready s₀ moment.answers = false → requested.pttAsserted = false)
    (haccepts : acceptsOutputs s₀ moment = moment.answers.publishCm119.isOk)
    (hcollected : Collected worker moment s₀ inputs) :
    Fallible.Triple (Recorded (cm119Ready s₀ moment.answers) s₀)
      (republishNative requested inputs moment.answers)
      (fun _ s => Recorded (cm119Ready s₀ moment.answers) s₀ s ∧ acceptsOutputs s₀ moment = true)
      fun _ s => Sampled worker moment s₀ s := by
  unfold republishNative
  have hpublish : Fallible.Triple (Recorded (cm119Ready s₀ moment.answers) s₀)
      (Fallible.attempt (Cycle.publish .cm119 requested.gpioOutputMask requested.pttAsserted
        .publishCm119 moment.answers.publishCm119))
      (fun result s => Recorded (cm119Ready s₀ moment.answers) s₀ s ∧
        acceptsOutputs s₀ moment = result.isOk) fun _ _ => False := by
    refine Fallible.Triple.attempt fun s hs => ?_
    rw [haccepts]
    unfold Cycle.publish
    cases moment.answers.publishCm119 with
    | error e => exact ⟨hs.record (by simp) hkey, rfl⟩
    | ok u => exact ⟨hs.record (by simp) hkey, rfl⟩
  refine (hpublish.imp (fun _ h => h) (fun _ _ h => h) fun _ _ h => h.elim).bind fun result => ?_
  cases result with
  | error failure =>
    refine Fallible.Triple.bind
      (Q := fun _ s => Recorded (cm119Ready s₀ moment.answers) s₀ s ∧ acceptsOutputs s₀ moment = false)
      (Fallible.Triple.modify fun s h => h) fun _ => ?_
    refine Fallible.Triple.bind (Q := fun _ s => Sampled worker moment s₀ s)
      (Fallible.Triple.modify fun s h => ?_) fun _ => Fallible.Triple.fail fun s h => h
    exact sampled_publishInputs h.1 (hcollected.shown.withPtt false) (by rw [h.2, Bool.and_false])
  | ok u => exact Fallible.Triple.modify fun s h => h

theorem triple_publishNative {inputs : HardwareInputs}
    (hcollected : Collected worker moment s₀ inputs) :
    Fallible.Triple (Cycling (cm119Ready s₀ moment.answers) s₀)
      (publishNative (cm119Ready s₀ moment.answers) inputs moment)
      (fun _ s => Recorded (cm119Ready s₀ moment.answers) s₀ s ∧ acceptsOutputs s₀ moment = true)
      fun _ s => Sampled worker moment s₀ s := by
  unfold publishNative
  refine Fallible.Triple.get fun s hs => ?_
  have hcm119 := hs.cm119
  have hrequested : requestedOutputs s₀ moment =
      ⟨cm119Ready s₀ moment.answers && s.control.keyFor .usb moment.logicalPtt, s.outputs.cm119⟩ := by
    rw [requestedOutputs, hs.control, hs.same.levels]
  cases hdevice : s.devices.cm119 with
  | none =>
    rw [hdevice] at hcm119
    refine Fallible.Triple.pure fun s' h => ⟨h ▸ hs.log, ?_⟩
    have hnone : s₀.devices.cm119 = none := by simpa using hcm119.symm
    simp [acceptsOutputs, hnone]
  | some device =>
    rw [hdevice] at hcm119
    obtain ⟨device₀, hdevice₀⟩ := Option.isSome_iff_exists.mp hcm119.symm
    simp only
    split
    · next hsame =>
      refine Fallible.Triple.modify fun s' h => ?_
      obtain rfl := h
      have hkept : Recorded _ s₀ (s'.record (.kept .cm119 (s'.generation .cm119))) :=
        hs.log.record (by simp) fun _ => rfl
      refine ⟨hkept, ?_⟩
      rw [hs.same.native] at hsame
      simp [acceptsOutputs, hrequested, hsame]
    · next hother =>
      have haccepts : acceptsOutputs s₀ moment = moment.answers.publishCm119.isOk := by
        rw [hs.same.native, ← hrequested] at hother
        simp [acceptsOutputs, hdevice₀, hother]
      refine ((triple_republishNative (fun hready => ?_) haccepts hcollected).imp
        (fun s' (h : s' = s) => h ▸ hs.log) (fun _ _ h => h) fun _ _ h => h).bind fun _ => ?_
      · simp [hready]
      · exact Fallible.Triple.modify fun s' h => h

theorem triple_serviceNativeOnce (s₀ : Service) :
    Fallible.Triple (· = s₀) (serviceNativeOnce worker moment)
      (fun _ s => Sampled worker moment s₀ s ∧ ¬ StatisticsLost worker moment s₀)
      fun _ s => (Sampled worker moment s₀ s ∧ ¬ StatisticsLost worker moment s₀) ∨
        (Cycling (cm119Ready s₀ moment.answers) s₀ s ∧ StatisticsLost worker moment s₀) := by
  unfold serviceNativeOnce
  refine (triple_clipLed (cm119Ready s₀ moment.answers) s₀ _ _ _).bindTotal fun _ => ?_
  refine (triple_cm119Snapshot s₀ moment.answers).bindTotal fun snapshots => ?_
  refine Fallible.Triple.of_and fun hreported => ?_
  dsimp only
  rw [hreported.ready]
  refine (triple_observeCm119 s₀ _ _).bindTotal fun _ => Fallible.Triple.get fun s hs => ?_
  rw [hs.control]
  refine ((triple_serviceParallelOnce s₀ fun hready => by simp [parallelKey, hready]).imp
    (fun s' (h : s' = s) => h ▸ hs) (fun _ _ h => h) fun _ _ h => h).bindTotal fun parallel => ?_
  refine Fallible.Triple.of_and fun hparallel => ?_
  refine ((triple_nativeInputs hreported hparallel).imp (fun _ h => h) (fun _ _ h => h)
    fun _ _ h => .inr h).bind fun inputs => ?_
  refine Fallible.Triple.of_and fun hlost => Fallible.Triple.of_and fun hcollected => ?_
  refine ((triple_publishNative hcollected).imp (fun _ h => h) (fun _ _ h => h)
    fun _ _ h => .inl ⟨h, hlost⟩).bind fun _ => ?_
  refine Fallible.Triple.of_and fun haccepts => ?_
  refine Fallible.Triple.bind (Q := fun _ s => Sampled worker moment s₀ s)
    (Fallible.Triple.modify fun s h => sampled_publishInputs h hcollected.shown
      (by rw [haccepts, Bool.and_true, hcollected.ptt])) fun _ => ?_
  refine Fallible.Triple.bind (Q := fun _ s => Sampled worker moment s₀ s)
    (Fallible.Triple.of (fun _ _ _ h => h) fun _ _ _ h => .inl ⟨h, hlost⟩) fun _ => ?_
  refine Fallible.Triple.bind (Q := fun _ s => Sampled worker moment s₀ s)
    (Fallible.Triple.of (fun _ _ _ h => h) fun _ _ _ h => .inl ⟨h, hlost⟩) fun _ => ?_
  exact Fallible.Triple.pure fun s h => ⟨h, hlost⟩

/-! ## The cycle -/

theorem keeps_log_serviceCommands (worker : ServiceWorker) (log : List ServiceEvent)
    (commands : List (ServiceCommand × DeviceAnswers)) :
    Fallible.Keeps (·.log = log) (serviceCommands worker commands) := by
  induction commands with
  | nil => exact Fallible.Keeps.pure ()
  | cons first rest ih =>
    obtain ⟨command, answers⟩ := first
    refine Fallible.Keeps.bind (Fallible.Keeps.of_exec fun s r s' hs hrun => ?_) fun _ => ih
    cases command with
    | output command =>
      simp only [serviceCommand] at hrun
      obtain ⟨outcome, -, hout⟩ := Option.map_eq_some_iff.mp hrun
      obtain ⟨-, rfl⟩ := Prod.mk.inj hout
      exact hs
    | siteBind | selectChannel | configureRemoteRadio | sitePublish | restore =>
      obtain ⟨-, rfl⟩ := Prod.mk.inj (Option.some.inj hrun)
      exact hs
    | snapshot =>
      obtain ⟨-, rfl⟩ := Prod.mk.inj (Option.some.inj hrun)
      exact hs

/-! ## Panics -/

/-- The parallel port has its device. -/
def OwnsPort (s : Service) : Prop := s.devices.parallel.isSome = true

theorem returns_outcome {op : OutputState → ServiceDevices → Outcome}
    (h : ∀ s, OwnsPort s → OwnsPort (s.withOutcome (op s.outputs s.devices))) :
    Fallible.Returns OwnsPort (Cycle.outcome op) := fun s hs => ⟨_, _, rfl, h s hs⟩

theorem returns_publish (bank : SiteBank) (levels : U8) (ptt : Bool)
    (operation : HardwareOperation) (answer : Except GpioError Unit) :
    Fallible.Returns OwnsPort (Cycle.publish bank levels ptt operation answer) :=
  fun s hs => ⟨_, _, rfl, (cycling_touch (.refl false s) bank).parallel.trans hs⟩

theorem returns_service (bank : SiteBank) (operation : HardwareOperation)
    (answer : Except GpioError Unit) :
    Fallible.Returns OwnsPort (Cycle.service bank operation answer) :=
  .bind (.of _) fun _ => .modify fun _ hs => hs

theorem returns_serviceParallelOnce (worker : ServiceWorker) (key : Bool) (moment : Moment) :
    Fallible.Returns OwnsPort (serviceParallelOnce worker key moment) := by
  unfold serviceParallelOnce
  refine .bind ?_ fun _ => ?_
  · unfold serviceRemoteRadio
    exact .get fun _ _ => .bind (.whenever (.modify fun _ h => h)) fun _ => returns_outcome
      fun s h => (cycling_serviceRemoteRadio (.refl false s) key _).parallel.trans h
  · cases worker.plan.parallel with
    | none => exact .pure _
    | some plan =>
      refine .get fun s hs => ?_
      obtain ⟨device, hdevice⟩ := Option.isSome_iff_exists.mp hs
      simp only [hdevice]
      refine .bind (.attempt ?_) fun _ => .bind (.modify fun _ h => h) fun _ =>
        .bind (.modify fun _ h => h) fun _ => .bind (.of _) fun _ => .bind (.of _) fun _ => .pure _
      exact .bind (returns_publish _ _ _ _ _) fun _ => .bind (.modify fun _ h => h) fun _ =>
        .bind (returns_service _ _ _) fun _ => .of _

theorem returns_serviceNativeOnce (worker : ServiceWorker) (moment : Moment) :
    Fallible.Returns OwnsPort (serviceNativeOnce worker moment) := by
  unfold serviceNativeOnce
  refine .bind (.attempt <| returns_outcome fun s h => ?_) fun _ => ?_
  · exact (serviceClipLed_spec false s _ _ _).parallel.trans h
  refine .bind (.attempt ?_) fun snapshots => ?_
  · unfold cm119Snapshot
    refine .get fun s _ => ?_
    cases s.devices.cm119 with
    | none => exact .pure _
    | some device =>
      exact .bind (returns_service _ _ _) fun _ => .bind (.of _) fun _ => .bind (.of _) fun _ => .pure _
  refine .bind (.bind (.modify fun _ h => h) fun _ => .modify fun _ h => h) fun _ => .get fun _ _ => ?_
  refine .bind (.attempt (returns_serviceParallelOnce _ _ _)) fun parallel => .bind ?_ fun inputs =>
    .bind ?_ fun _ => .bind (.modify fun _ h => h) fun _ => .bind (.of _) fun _ =>
    .bind (.of _) fun _ => .pure _
  · unfold nativeInputs collectedInputs
    split
    · refine .get fun s _ => ?_
      split
      · exact .bind (.of _) fun _ => .pure _
      · exact .pure _
    · exact .pure _
  · unfold publishNative
    refine .get fun s _ => ?_
    cases s.devices.cm119 with
    | none => exact .pure _
    | some device =>
      simp only
      split
      · exact .modify fun _ h => h
      · refine .bind (.bind (.attempt (returns_publish _ _ _ _ _)) fun result => ?_)
          fun _ => .modify fun _ h => h
        cases result with
        | error failure =>
          exact .bind (.modify fun _ h => h) fun _ => .bind (.modify fun _ h => h) fun _ => .fail _
        | ok u => exact .modify fun _ h => h

theorem isSome_of_parallelReading {port : ParallelInputs}
    (h : parallelReading worker s₀ moment = some port) : s₀.devices.parallel.isSome = true := by
  unfold parallelReading at h
  split at h
  · assumption
  · cases h

/-- A cycle that returns has published, unless the reading of its statistics failed. -/
theorem sampled_of_run {r : Except ServiceFailure Unit}
    (hrun : serviceNativeOnce worker moment s₀ = some (r, s'))
    (hkept : ¬ StatisticsLost worker moment s₀) : Sampled worker moment s₀ s' := by
  have hspec := @triple_serviceNativeOnce worker moment s₀ s₀ rfl
  rw [hrun] at hspec
  cases r with
  | ok v => exact hspec.1
  | error e => exact (hspec.resolve_right fun h => hkept h.2).1

/-- A cycle whose statistics are lost publishes nothing. -/
theorem cycling_of_run {r : Except ServiceFailure Unit}
    (hrun : serviceNativeOnce worker moment s₀ = some (r, s'))
    (hlost : StatisticsLost worker moment s₀) : Cycling (cm119Ready s₀ moment.answers) s₀ s' := by
  have hspec := @triple_serviceNativeOnce worker moment s₀ s₀ rfl
  rw [hrun] at hspec
  cases r with
  | ok v => exact absurd hlost hspec.2
  | error e => exact (hspec.resolve_left fun h => h.2 hlost).1

/-- **Native service publishes fresh inputs** exactly where nothing ends the cycle before, and nothing is
held back. -/
theorem freshCycle_iff (worker : ServiceWorker) (commands : List (ServiceCommand × DeviceAnswers))
    (moment : Moment) (s : Service) :
    FreshCycle worker commands moment s ↔ Samples worker commands moment s := by
  have hlog := keeps_log_serviceCommands worker s.log commands s rfl
  unfold FreshCycle Samples nativeCycle
  simp only [Fallible.bind_apply]
  rcases hcommands : serviceCommands worker commands s with _ | ⟨e | u, middle⟩ <;>
    rw [hcommands] at hlog
  · exact iff_of_true (fun r s' h => by cases h) trivial
  · refine iff_of_false (fun hfresh => ?_) id
    obtain ⟨_, _, hok, -⟩ := hfresh _ _ rfl
    cases hok
  · have hmiddle : middle.log = s.log := hlog
    constructor
    · intro hfresh
      have hreturn : middle.devices.parallel.isSome = true →
          ∃ r s', serviceNativeOnce worker moment middle = some (r, s') := fun hport => by
        obtain ⟨r, s', hrun, -⟩ := returns_serviceNativeOnce worker moment middle hport
        exact ⟨r, s', hrun⟩
      have hkept : ¬ StatisticsLost worker moment middle := by
        intro hlost
        obtain ⟨r, s', hrun⟩ := hreturn hlost.2.1
        obtain ⟨_, new, -, hnew, hsampled, -⟩ := hfresh _ _ hrun
        obtain ⟨new', hnew', hunsampled, -⟩ := (cycling_of_run hrun hlost).log
        rw [hmiddle] at hnew'
        obtain rfl := List.append_cancel_right (hnew.symm.trans hnew')
        exact hunsampled hsampled
      refine ⟨hkept, fun hmasked => ?_⟩
      obtain ⟨port, hport, -⟩ := hmasked.2
      obtain ⟨r, s', hrun⟩ := hreturn (isSome_of_parallelReading hport)
      obtain ⟨_, new, hcommanded, -, -, hinputs, -⟩ := hfresh _ _ hrun
      obtain rfl := (Prod.mk.inj (Option.some.inj hcommanded)).2
      have hsampled := sampled_of_run hrun hkept
      exact (hsampled.shown.fresh_iff hsampled.ptt).mp hinputs hmasked
    · rintro ⟨hkept, hshown⟩ r s' hrun
      have hsampled := sampled_of_run hrun hkept
      obtain ⟨new, hnew, hmem, hquiet⟩ := hsampled.log
      exact ⟨middle, new, rfl, hmiddle ▸ hnew, hmem,
        (hsampled.shown.fresh_iff hsampled.ptt).mpr hshown, hquiet⟩

/-- A native worker of a parallel port alone, with the carrier on a status bit. -/
def portWorker : ServiceWorker where
  native := true
  plan := ⟨none, some ⟨0xff, 0, 0x80, 0x40, 0x40, 0⟩, false⟩

/-- The worker has just opened its port. -/
def portService : Service where
  outputs := (OutputState.new 1 portWorker.plan none).1
  devices := OutputRun.portDevices
  next := 3
  control := .ordinary
  inputs := .none
  log := []

/-- The port reports the carrier. -/
def heardMoment : Moment where
  logicalPtt := false
  receiveClipEvents := 0
  nowMs := 0
  answers := { OutputRun.allOk with inputsParallel := .ok ⟨true, 0x40⟩ }

/-- The port is idle, and the second reading of its statistics fails. -/
def lostMoment : Moment where
  logicalPtt := false
  receiveClipEvents := 0
  nowMs := 20
  answers := { OutputRun.allOk with statisticsAgain := .error .io }

/-- The carrier that one cycle publishes stays behind the next. -/
theorem not_freshCycle_of_lost : ∃ s s',
    nativeCycle portWorker [] heardMoment portService = some (.ok (), s) ∧
    nativeCycle portWorker [] lostMoment s = some (.error ⟨.readParallelStatistics, .io⟩, s') ∧
    s'.inputs.parallelCarrier = true ∧ ¬ FreshCycle portWorker [] lostMoment s := by
  refine ⟨_, _, rfl, rfl, rfl, fun h => ?_⟩
  obtain ⟨middle, _, hmiddle, -, -, hfresh, -⟩ := h _ _ rfl
  obtain rfl := (Prod.mk.inj (Option.some.inj hmiddle)).2
  -- The port reports no carrier in this cycle.
  exact absurd hfresh.parallelCarrier (by decide)

end Driver
end UsbRadioPlus
