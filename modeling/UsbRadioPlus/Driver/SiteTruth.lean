import UsbRadioPlus.Driver.PinExclusivity
import UsbRadioPlus.Driver.ServiceCycle
import UsbRadioPlus.Driver.SiteAcks
import UsbRadioPlus.Sys.Run

/-!
# The acknowledgements of a site are truthful

A snapshot of a bank names the generation and the levels that were submitted to the device, and those
that the device has serviced. Whatever the worker does and whichever calls fail, a named generation
owned the bank when these levels were handed to the device, and a service call succeeded behind it
(`Truthful`).

The levels are handed over by a publication. A native cycle does not repeat one: it finds its outputs
published, and what it acknowledges then is what the device was given last (`Standing`). It remembers
them in `native_outputs`, so a native worker has to have forgotten them when its devices are replaced.
-/

namespace UsbRadioPlus
namespace Driver

open Sys SiteBankState OutputState

variable {bank : SiteBank} {site site' : SiteBankState} {generation : Nat} {levels : U8}
  {log new : List ServiceEvent} {worker : ServiceWorker} {moment : Moment}
  {answers : DeviceAnswers} {s s' : Service} {p q : Prop}

/-! ## Truthful acknowledgements -/

/-- The event is about the levels of the bank's device. -/
def ServiceEvent.writes (bank : SiteBank) : ServiceEvent → Bool
  | .opened b => b = bank
  | .published b _ _ _ => b = bank
  | .refused b _ => b = bank
  | _ => false

/-- The device of the bank was given these levels, and nothing since. -/
def Standing (bank : SiteBank) (levels : U8) (log : List ServiceEvent) : Prop :=
  ∃ later generation ptt earlier, log = later ++ .published bank generation levels ptt :: earlier ∧
    ∀ e ∈ later, e.writes bank = false

/-- The event hands the levels to the device, under the generation that owns the bank. -/
def Hands (bank : SiteBank) (generation : Nat) (levels : U8) (event : ServiceEvent)
    (earlier : List ServiceEvent) : Prop :=
  (∃ ptt, event = .published bank generation levels ptt) ∨
    (event = .kept bank generation ∧ Standing bank levels earlier)

/-- The submitted levels were handed to the device under the generation that is named. -/
def SubmittedTruly (bank : SiteBank) (site : SiteBankState) (log : List ServiceEvent) : Prop :=
  site.snapshot.submittedGeneration ≠ 0 → ∃ later event earlier levels,
    log = later ++ event :: earlier ∧
    Hands bank site.snapshot.submittedGeneration levels event earlier ∧
    site.snapshot.submittedHighMask = levels.setWidth 32 &&& site.snapshot.outputMask

/-- The serviced levels were handed to the device under the generation that is named, and the same
device has been serviced since. -/
def ServicedTruly (bank : SiteBank) (site : SiteBankState) (log : List ServiceEvent) : Prop :=
  site.snapshot.servicedGeneration ≠ 0 → ∃ later between event earlier levels,
    log = later ++ .serviced bank :: (between ++ event :: earlier) ∧ .opened bank ∉ between ∧
    Hands bank site.snapshot.servicedGeneration levels event earlier ∧
    site.snapshot.servicedHighMask = levels.setWidth 32 &&& site.snapshot.outputMask

/-- The acknowledgements of both banks are truthful. -/
def Truthful (s : Service) : Prop :=
  ∀ bank, SubmittedTruly bank (s.outputs.site bank) s.log ∧
    ServicedTruly bank (s.outputs.site bank) s.log

/-! ## Runs -/

/-- The worker serves its banks, or makes them safe to replace its devices. -/
inductive ServicePhase where
  | serving
  | retiring
  deriving DecidableEq, Repr

/-- A service with the phase it is in. -/
structure ServiceRun where
  service : Service
  phase : ServicePhase

/-- What happens to a service. -/
inductive ServiceAct where
  | command (command : ServiceCommand) (answers : DeviceAnswers)
  | cycle (moment : Moment)
  | confirm (moment : Moment)
  | control (control : PhysicalPttControl)
  | setEncoder (active : Bool)
  | bindEncoder (encoder : Option ExternalEncoder) (answers : DeviceAnswers)
  /-- A remote owner has tuned the synthesizer. -/
  | serviceRadio (answers : DeviceAnswers)
  | retireSite
  /-- The first confirmation has failed. -/
  | giveUp
  | close (answers : DeviceAnswers)
  /-- A command of a site for its closed bank is refused. -/
  | rejectStale (bank : SiteBank)
  | reopen (devices : ServiceDevices) (answers : DeviceAnswers)
  /-- Another service of the process takes a generation. -/
  | elsewhere

namespace ServiceRun

variable (self : ServiceRun)

/-- The state behind a computation, whether it failed or not. -/
def exec (m : Cycle Unit) : Option ServiceRun :=
  (m self.service).map fun (_, service) => { self with service }

/-- Other outputs. -/
def withOutputs (outputs : OutputState) : ServiceRun :=
  { self with service := { self.service with outputs } }

/-- A step of the service. -/
def step (worker : ServiceWorker) : ServiceAct → Option ServiceRun
  | .command command answers =>
    if self.phase = .serving then self.exec (serviceCommand worker command answers) else none
  | .cycle moment => if self.phase = .serving then self.exec (serviceOnce worker moment) else none
  | .confirm moment => self.exec (serviceRemotePtt worker moment)
  | .control control => some { self with service := { self.service with control } }
  | .setEncoder active => some (self.withOutputs (self.service.outputs.setEncoder active))
  | .bindEncoder encoder answers =>
    (self.service.outputs.bindEncoder encoder self.service.devices answers).map fun outcome =>
      { self with service := self.service.withOutcome outcome }
  | .serviceRadio answers => self.exec (serviceRemoteRadio false answers)
  | .retireSite =>
    some { self.withOutputs self.service.outputs.retireSite with phase := .retiring }
  | .giveUp => some { self with phase := .retiring }
  | .close answers =>
    if self.phase = .retiring then self.exec (closeOutputs worker answers) else none
  | .rejectStale bank => self.exec (rejectSite bank .staleGeneration)
  | .reopen devices answers =>
    if self.phase = .retiring then
      (reopenSite worker devices answers self.service).map fun (result, service) =>
        { service, phase := if result.isOk then .serving else .retiring }
    else none
  | .elsewhere => some { self with service := { self.service with
      next := (nextGeneration self.service.next).2 } }

end ServiceRun

/-- The state of a plan, on which persistent state may be staged. -/
def OutputState.initial (next : Nat) (plan : HardwarePlan) (remoteRadio : Option RemoteRadio)
    (state : Option HardwareTransientState) : OutputState :=
  let fresh := (OutputState.new next plan remoteRadio).1
  state.elim fresh fun state => fresh.restore state plan

/-- The runs of a worker. The devices are opened by its first step. -/
def serviceRuns (worker : ServiceWorker) : System ServiceRun ServiceAct where
  init s := ∃ next remoteRadio state devices control inputs, s = {
    service := {
      outputs := OutputState.initial next worker.plan remoteRadio state
      devices
      next := (OutputState.new next worker.plan remoteRadio).2
      control
      inputs
      log := [] }
    phase := .retiring }
  step s := s.step worker

/-- A native worker has forgotten its published outputs when its devices are replaced. -/
def Forgets (worker : ServiceWorker) (s : ServiceRun) : ServiceAct → Prop
  | .reopen _ _ => worker.native = true → s.service.outputs.nativeOutputs = none
  | _ => True

/-! ## The log grows -/

theorem Standing.append (h : Standing bank levels log) (new : List ServiceEvent)
    (hnew : ∀ e ∈ new, e.writes bank = false) : Standing bank levels (new ++ log) := by
  obtain ⟨later, generation, ptt, earlier, rfl, hlater⟩ := h
  refine ⟨new ++ later, generation, ptt, earlier, by simp, fun e he => ?_⟩
  rcases List.mem_append.mp he with he | he
  · exact hnew e he
  · exact hlater e he

theorem SubmittedTruly.append (h : SubmittedTruly bank site log) (hsame : SameAcks site site')
    (new : List ServiceEvent) : SubmittedTruly bank site' (new ++ log) := by
  intro hne
  rw [hsame.submittedGeneration] at hne ⊢
  obtain ⟨later, event, earlier, levels, rfl, hhands, hmask⟩ := h hne
  exact ⟨new ++ later, event, earlier, levels, by simp, hhands,
    by rw [hsame.submittedHigh, hsame.outputs, hmask]⟩

theorem ServicedTruly.append (h : ServicedTruly bank site log) (hsame : SameAcks site site')
    (new : List ServiceEvent) : ServicedTruly bank site' (new ++ log) := by
  intro hne
  rw [hsame.servicedGeneration] at hne ⊢
  obtain ⟨later, between, event, earlier, levels, rfl, hsince, hhands, hmask⟩ := h hne
  exact ⟨new ++ later, between, event, earlier, levels, by simp, hsince, hhands,
    by rw [hsame.servicedHigh, hsame.outputs, hmask]⟩

/-- The submitted levels were handed to the device that is there. -/
def SubmittedSince (bank : SiteBank) (site : SiteBankState) (log : List ServiceEvent) : Prop :=
  site.snapshot.submittedGeneration ≠ 0 → ∃ later event earlier levels,
    log = later ++ event :: earlier ∧ .opened bank ∉ later ∧
    Hands bank site.snapshot.submittedGeneration levels event earlier ∧
    site.snapshot.submittedHighMask = levels.setWidth 32 &&& site.snapshot.outputMask

theorem SubmittedSince.truly (h : SubmittedSince bank site log) : SubmittedTruly bank site log := by
  intro hne
  obtain ⟨later, event, earlier, levels, heq, -, hhands, hmask⟩ := h hne
  exact ⟨later, event, earlier, levels, heq, hhands, hmask⟩

theorem SubmittedSince.append (h : SubmittedSince bank site log) (hsame : SameAcks site site')
    (new : List ServiceEvent) (hnew : .opened bank ∉ new) :
    SubmittedSince bank site' (new ++ log) := by
  intro hne
  rw [hsame.submittedGeneration] at hne ⊢
  obtain ⟨later, event, earlier, levels, rfl, hsince, hhands, hmask⟩ := h hne
  refine ⟨new ++ later, event, earlier, levels, by simp, ?_, hhands,
    by rw [hsame.submittedHigh, hsame.outputs, hmask]⟩
  simp [hnew, hsince]

/-- The submitted levels have been serviced. -/
def Pending (bank : SiteBank) (site : SiteBankState) (log : List ServiceEvent) : Prop :=
  site.snapshot.submittedGeneration ≠ 0 → ∃ later between event earlier levels,
    log = later ++ .serviced bank :: (between ++ event :: earlier) ∧ .opened bank ∉ between ∧
    Hands bank site.snapshot.submittedGeneration levels event earlier ∧
    site.snapshot.submittedHighMask = levels.setWidth 32 &&& site.snapshot.outputMask

theorem SubmittedSince.pending (h : SubmittedSince bank site log) :
    Pending bank site (.serviced bank :: log) := by
  intro hne
  obtain ⟨later, event, earlier, levels, rfl, hsince, hhands, hmask⟩ := h hne
  exact ⟨[], later, event, earlier, levels, rfl, hsince, hhands, hmask⟩

theorem Pending.append (h : Pending bank site log) (hsame : SameAcks site site')
    (new : List ServiceEvent) : Pending bank site' (new ++ log) := by
  intro hne
  rw [hsame.submittedGeneration] at hne ⊢
  obtain ⟨later, between, event, earlier, levels, rfl, hsince, hhands, hmask⟩ := h hne
  exact ⟨new ++ later, between, event, earlier, levels, by simp, hsince, hhands,
    by rw [hsame.submittedHigh, hsame.outputs, hmask]⟩

/-- An acknowledgement of what has been serviced is truthful. -/
theorem servicedTruly_serviced {success : Bool} (h : success = true → Pending bank site log) :
    ServicedTruly bank (site.serviced success) log := by
  cases success with
  | true => exact h rfl
  | false => exact fun hne => absurd rfl hne

/-! ## The invariant

`p` says that the worker serves its banks, `q` that it is a native worker which does. -/

/-- What every part of a cycle keeps. -/
structure Acking (worker : ServiceWorker) (p q : Prop) (s : Service) : Prop where
  submitted : ∀ bank, SubmittedTruly bank (s.outputs.site bank) s.log
  serviced : ∀ bank, ServicedTruly bank (s.outputs.site bank) s.log
  since : p → ∀ bank, SubmittedSince bank (s.outputs.site bank) s.log
  native : q → ∀ outputs, s.outputs.nativeOutputs = some outputs →
    Standing .cm119 outputs.gpioOutputMask s.log
  absent : worker.plan.parallel = none →
    (s.outputs.site .parallel).snapshot.submittedGeneration = 0

/-- No published outputs are remembered. -/
def Forgot (q : Prop) (s : Service) : Prop := q → s.outputs.nativeOutputs = none

theorem Acking.truthful (h : Acking worker p q s) : Truthful s :=
  fun bank => ⟨h.submitted bank, h.serviced bank⟩

theorem Acking.frame (h : Acking worker p q s) (new : List ServiceEvent)
    (hkeeps : KeepsAcks s.outputs s'.outputs)
    (hlog : s'.log = new ++ s.log) (hnew : ∀ e ∈ new, ∀ bank, e.writes bank = false) :
    Acking worker p q s' := by
  have hopened : ∀ bank, ServiceEvent.opened bank ∉ new := fun bank hmem => by
    have hwrites := hnew _ hmem bank
    simp [ServiceEvent.writes] at hwrites
  refine ⟨fun bank => ?_, fun bank => ?_, fun hp bank => ?_, fun hq outputs hout => ?_,
    fun hplan => (hkeeps.site .parallel).submittedGeneration.trans (h.absent hplan)⟩
  · rw [hlog]
    exact (h.submitted bank).append (hkeeps.site bank) new
  · rw [hlog]
    exact (h.serviced bank).append (hkeeps.site bank) new
  · rw [hlog]
    exact (h.since hp bank).append (hkeeps.site bank) new (hopened bank)
  · rw [hlog]
    rcases hkeeps.native with hsame | hnone
    · exact (h.native hq outputs (hsame ▸ hout)).append new fun e he => hnew e he .cm119
    · rw [hnone] at hout
      cases hout

/-- A change of the output state alone. -/
theorem Acking.outputs (h : Acking worker p q s) {outputs : OutputState}
    (hkeeps : KeepsAcks s.outputs outputs) : Acking worker p q { s with outputs } :=
  h.frame [] hkeeps rfl (by simp)

theorem Acking.record (h : Acking worker p q s) {event : ServiceEvent}
    (hevent : ∀ bank, event.writes bank = false) : Acking worker p q (s.record event) :=
  h.frame [event] (keepsAcks_refl _) rfl (by simpa using hevent)

theorem Acking.publishInputs (h : Acking worker p q s) (inputs : HardwareInputs) :
    Acking worker p q (s.publishInputs inputs) :=
  h.frame [.sampled] (keepsAcks_refl _) rfl (by simp [ServiceEvent.writes])

theorem keepsAcks_observed (s : Service) (bank : SiteBank) (value : Option U32) (now : Nat) :
    KeepsAcks s.outputs (s.observed bank value now).outputs :=
  keepsAcks_setSite (sameAcks_observe value now)

theorem Acking.observed (h : Acking worker p q s) (bank : SiteBank) (value : Option U32)
    (now : Nat) : Acking worker p q (s.observed bank value now) :=
  h.outputs (keepsAcks_observed s bank value now)

/-- An event of one bank, with that bank's acknowledgements rewritten. -/
theorem Acking.setSite (h : Acking worker p q s) {site : SiteBankState}
    (hsubmitted : SubmittedTruly bank site s.log) (hserviced : ServicedTruly bank site s.log)
    (hsince : p → SubmittedSince bank site s.log)
    (habsent : worker.plan.parallel = none → bank = .parallel →
      site.snapshot.submittedGeneration = 0) : Acking worker p q (s.setSite bank site) := by
  have hcases : ∀ (R : SiteBank → SiteBankState → Prop), R bank site →
      (∀ b, R b (s.outputs.site b)) → ∀ b, R b ((s.setSite bank site).outputs.site b) := by
    intro R hnew hold b
    by_cases hb : b = bank
    · subst hb
      show R b ((s.outputs.setSite b site).site b)
      rwa [site_setSite]
    · show R b ((s.outputs.setSite bank site).site b)
      rw [site_setSite_of_ne _ hb]
      exact hold b
  refine ⟨hcases (fun b site => SubmittedTruly b site s.log) hsubmitted h.submitted,
    hcases (fun b site => ServicedTruly b site s.log) hserviced h.serviced,
    fun hp => hcases (fun b site => SubmittedSince b site s.log) (hsince hp) (h.since hp),
    h.native, fun hplan => ?_⟩
  exact hcases (fun b site => b = .parallel → site.snapshot.submittedGeneration = 0)
    (habsent hplan) (fun b hb => hb ▸ h.absent hplan) .parallel rfl

/-- The levels were handed to the device under the generation that owns the bank. -/
def Handed (s : Service) (bank : SiteBank) (levels : U8) : Prop :=
  ∃ later event earlier, s.log = later ++ event :: earlier ∧ .opened bank ∉ later ∧
    Hands bank (s.generation bank) levels event earlier

theorem Handed.append (h : Handed s bank levels) (new : List ServiceEvent)
    (hnew : .opened bank ∉ new) : Handed { s with log := new ++ s.log } bank levels := by
  obtain ⟨later, event, earlier, hlog, hsince, hhands⟩ := h
  exact ⟨new ++ later, event, earlier, by simp [hlog], by simp [hnew, hsince], hhands⟩

theorem site_submitted (s : Service) (bank : SiteBank) (levels : U8) :
    (s.submitted bank levels).outputs.site bank =
      (s.outputs.site bank).submitted (levels.setWidth 32) := site_setSite _

theorem Handed.since (h : Handed s bank levels) :
    SubmittedSince bank ((s.submitted bank levels).outputs.site bank)
      (s.submitted bank levels).log := by
  rw [site_submitted]
  obtain ⟨later, event, earlier, hlog, hsince, hhands⟩ := h
  exact fun _ => ⟨later, event, earlier, levels, hlog, hsince, hhands, rfl⟩

theorem Acking.submit (h : Acking worker p q s) (hhanded : Handed s bank levels)
    (hplan : worker.plan.parallel = none → bank ≠ .parallel) :
    Acking worker p q (s.submitted bank levels) := by
  have hsince := hhanded.since
  rw [site_submitted] at hsince
  have hserviced : ServicedTruly bank ((s.outputs.site bank).submitted (levels.setWidth 32)) s.log :=
    h.serviced bank
  exact h.setSite hsince.truly hserviced (fun _ => hsince)
    fun hnone hb => absurd hb (hplan hnone)

theorem Acking.acknowledge (h : Acking worker p q s) {success : Bool}
    (hpending : success = true → Pending bank (s.outputs.site bank) s.log) :
    Acking worker p q (s.serviced bank success) :=
  h.setSite (h.submitted bank) (servicedTruly_serviced hpending) (fun hp => h.since hp bank)
    fun hplan hb => by subst hb; exact h.absent hplan

/-! ## The parts of a cycle -/

theorem keeps_outcome {op : OutputState → ServiceDevices → Outcome}
    (h : ∀ outputs devices, KeepsAcks outputs (op outputs devices).outputs) :
    Fallible.Keeps (Acking worker p q) (Cycle.outcome op) :=
  Fallible.Keeps.of_exec fun s r s' hs hrun => by
    obtain ⟨-, rfl⟩ := Prod.mk.inj (Option.some.inj hrun)
    exact hs.frame [] (h s.outputs s.devices) rfl (by simp)

/-- A publication that the remembered outputs do not depend on. -/
theorem triple_publish {operation : HardwareOperation} {answer : Except GpioError Unit} {ptt : Bool} :
    Fallible.Triple (fun s => Acking worker p q s ∧ (bank = .cm119 → Forgot q s))
      (Cycle.publish bank levels ptt operation answer)
      (fun _ s => (Acking worker p q s ∧ (bank = .cm119 → Forgot q s)) ∧ Handed s bank levels ∧
        Standing bank levels s.log)
      fun _ s => Acking worker p q s ∧ (bank = .cm119 → Forgot q s) := by
  rintro s ⟨hs, hforgot⟩
  have hacking : ∀ event : ServiceEvent, (∀ b, event ≠ .opened b) →
      (∀ b, event.writes b = true → b = bank) → ∀ devices : ServiceDevices,
      Acking worker p q ({ s with devices }.record event) := by
    intro event hopened hwrites devices
    have hnew : ∀ b, ServiceEvent.opened b ∉ [event] := fun b hmem =>
      hopened b (List.mem_singleton.mp hmem).symm
    refine ⟨fun b => (hs.submitted b).append (sameAcks_refl _) [event],
      fun b => (hs.serviced b).append (sameAcks_refl _) [event],
      fun hp b => (hs.since hp b).append (sameAcks_refl _) [event] (hnew b),
      fun hq outputs hout => ?_, hs.absent⟩
    by_cases hb : bank = .cm119
    · exact absurd ((hforgot hb hq).symm.trans hout) (by simp)
    · refine (hs.native hq outputs hout).append [event] fun e he => ?_
      obtain rfl := List.mem_singleton.mp he
      cases hw : e.writes .cm119 with
      | false => rfl
      | true => exact absurd (hwrites _ hw).symm hb
  unfold Cycle.publish Service.published
  cases answer with
  | error e =>
    exact ⟨hacking _ (by simp) (fun b h => by simpa [ServiceEvent.writes, eq_comm] using h) _, hforgot⟩
  | ok u =>
    refine ⟨⟨hacking _ (by simp) (fun b h => by simpa [ServiceEvent.writes, eq_comm] using h) _,
      hforgot⟩, ⟨[], _, s.log, rfl, by simp, .inl ⟨ptt, rfl⟩⟩, [], _, ptt, s.log, rfl, by simp⟩

/-- A service call, behind which what was submitted is serviced. -/
theorem triple_serviced {operation : HardwareOperation} {answer : Except GpioError Unit} :
    Fallible.Triple
      (fun s => Acking worker p q s ∧ SubmittedSince bank (s.outputs.site bank) s.log)
      (Cycle.service bank operation answer)
      (fun _ s => Acking worker p q s ∧ Pending bank (s.outputs.site bank) s.log)
      fun _ s => Acking worker p q s := by
  unfold Cycle.service
  refine Fallible.Triple.bind (Fallible.Triple.of (fun _ _ _ h => h) fun _ _ _ h => h.1) fun _ => ?_
  exact Fallible.Triple.modify fun s h => ⟨h.1.record fun b => rfl, h.2.pending⟩

theorem triple_cm119Snapshot_acking :
    Fallible.Triple
      (fun s => Acking worker p q s ∧ SubmittedSince .cm119 (s.outputs.site .cm119) s.log)
      (cm119Snapshot answers)
      (fun snapshot s => Acking worker p q s ∧
        (snapshot.isSome = true → Pending .cm119 (s.outputs.site .cm119) s.log))
      fun _ s => Acking worker p q s := by
  unfold cm119Snapshot
  refine Fallible.Triple.get fun s hs => ?_
  cases s.devices.cm119 with
  | none => exact Fallible.Triple.pure fun s' h => ⟨h ▸ hs.1, nofun⟩
  | some device =>
    refine (triple_serviced.imp (fun s' (h : s' = s) => h ▸ hs) (fun _ _ h => h)
      fun _ _ h => h).bind fun _ => ?_
    refine Fallible.Triple.bind (Fallible.Triple.of (fun _ _ _ h => h) fun _ _ _ h => h.1)
      fun inputs => ?_
    refine Fallible.Triple.bind (Fallible.Triple.of (fun _ _ _ h => h) fun _ _ _ h => h.1)
      fun statistics => ?_
    exact Fallible.Triple.pure fun s' h => ⟨h.1, fun _ => h.2⟩

theorem triple_observeCm119_acking {snapshot : Option (Cm119Inputs × Cm119Statistics)} {now : Nat} :
    Fallible.Triple
      (fun s => Acking worker p q s ∧
        (snapshot.isSome = true → Pending .cm119 (s.outputs.site .cm119) s.log))
      (observeCm119 snapshot now) (fun _ s => Acking worker p q s) fun _ _ => False := by
  unfold observeCm119
  refine Fallible.Triple.bind (Q := fun _ s => Acking worker p q s ∧
    (snapshot.isSome = true → Pending .cm119 (s.outputs.site .cm119) s.log))
    (Fallible.Triple.modify fun s h => ⟨h.1.observed _ _ _, fun hsome =>
      (h.2 hsome).append ((keepsAcks_observed s .cm119 _ now).site .cm119) []⟩)
    fun _ => Fallible.Triple.modify fun s h => h.1.acknowledge fun hany => h.2 ?_
  cases snapshot with
  | none => cases hany
  | some reading => rfl

theorem keeps_serviceRemoteRadio (key : Bool) :
    Fallible.Keeps (Acking worker p q) (serviceRemoteRadio key answers) := by
  unfold serviceRemoteRadio
  exact .get fun s _ => .bind (.whenever fun _ => .modify fun s h => h.record fun b => rfl)
    fun _ => keeps_outcome fun outputs devices => keepsAcks_serviceRemoteRadio _ _ _

/-- A submission of what was handed over. -/
theorem triple_submitted (hplan : worker.plan.parallel = none → bank ≠ .parallel) :
    Fallible.Triple (fun s => Acking worker p q s ∧ Handed s bank levels)
      (Fallible.modify (·.submitted bank levels) : Cycle Unit)
      (fun _ s => Acking worker p q s ∧ SubmittedSince bank (s.outputs.site bank) s.log)
      fun _ s => Acking worker p q s :=
  Fallible.Triple.modify fun _ h => ⟨h.1.submit h.2 hplan, h.2.since⟩

theorem triple_acquireParallel_acking (outputMask : U8) (key : Bool)
    (hplan : worker.plan.parallel ≠ none) :
    Fallible.Triple (Acking worker p q) (acquireParallel outputMask key answers)
      (fun _ s => Acking worker p q s ∧ Pending .parallel (s.outputs.site .parallel) s.log)
      fun _ s => Acking worker p q s := by
  unfold acquireParallel
  refine (triple_publish.imp (fun s h => ⟨h, nofun⟩) (fun _ _ h => h) fun _ _ h => h.1).bind
    fun _ => ?_
  refine ((triple_submitted fun hnone => absurd hnone hplan).imp (fun s h => ⟨h.1.1, h.2.1⟩)
    (fun _ _ h => h) fun _ _ h => h).bind fun _ => triple_serviced.bind fun _ => ?_
  exact Fallible.Triple.of (fun _ _ _ h => h) fun _ _ _ h => h.1

theorem keeps_serviceParallelOnce (key : Bool) :
    Fallible.Keeps (Acking worker p q) (serviceParallelOnce worker key moment) := by
  unfold serviceParallelOnce
  refine (keeps_serviceRemoteRadio key).bind fun _ => ?_
  split
  · exact .pure none
  · next plan hplan =>
    refine .get fun s _ => ?_
    split
    · exact Fallible.Triple.panicked
    · refine (Fallible.Triple.attempt (R := fun acquisition s => Acking worker p q s ∧
        (acquisition.toOption.isSome = true → Pending .parallel (s.outputs.site .parallel) s.log))
        ((triple_acquireParallel_acking _ key (by rw [hplan]; simp)).imp (fun _ h => h)
          (fun _ _ h => ⟨h.1, fun _ => h.2⟩) fun _ _ h => ⟨h, nofun⟩)).bind fun acquisition => ?_
      refine Fallible.Triple.bind (Q := fun _ s => Acking worker p q s ∧
        (acquisition.toOption.isSome = true → Pending .parallel (s.outputs.site .parallel) s.log))
        (Fallible.Triple.modify fun s h => ⟨h.1.observed _ _ _, fun hsome =>
          (h.2 hsome).append ((keepsAcks_observed s .parallel _ moment.nowMs).site .parallel) []⟩)
        fun _ => ?_
      refine Fallible.Triple.bind (Q := fun _ s => Acking worker p q s)
        (Fallible.Triple.modify fun s h => h.1.acknowledge fun hany => h.2 ?_) fun _ => ?_
      · cases acquisition with
        | error failure => cases hany
        | ok inputs => rfl
      · exact Fallible.Keeps.bind (.of _) fun _ => .bind (.of _) fun _ => .pure _

theorem keeps_collectedInputs (snapshot : Option (Cm119Inputs × Cm119Statistics))
    (parallel : Option ParallelInputs) :
    Fallible.Keeps (Acking worker p q) (collectedInputs worker snapshot parallel answers) := by
  unfold collectedInputs
  refine .get fun s _ => ?_
  split
  · exact .bind (.of _) fun _ => .pure _
  · exact .pure _

/-! ## The native cycle -/

theorem Acking.imp {p' q' : Prop} (h : Acking worker p q s) (hp : p' → p) (hq : q' → q) :
    Acking worker p' q' s :=
  ⟨h.submitted, h.serviced, fun hp' => h.since (hp hp'), fun hq' => h.native (hq hq'), h.absent⟩

theorem Acking.weaken (h : Acking worker p q s) : Acking worker p False s := h.imp id False.elim

/-- What stands on the device may be remembered. -/
theorem Acking.remember (h : Acking worker p False s) {requested : Cm119Outputs}
    (hstanding : Standing .cm119 requested.gpioOutputMask s.log) :
    Acking worker p q { s with outputs := { s.outputs with nativeOutputs := some requested } } := by
  refine ⟨h.submitted, h.serviced, h.since, fun _ outputs hout => ?_, h.absent⟩
  obtain rfl := Option.some.inj hout
  exact hstanding

theorem Acking.forget (h : Acking worker p False s) :
    Acking worker p q { s with outputs := { s.outputs with nativeOutputs := none } } :=
  ⟨h.submitted, h.serviced, h.since, nofun, h.absent⟩

theorem keeps_nativeInputs (ready : Bool) (snapshot : Option (Cm119Inputs × Cm119Statistics))
    (parallel : Option ParallelInputs) :
    Fallible.Keeps (Acking worker p q) (nativeInputs ready worker snapshot parallel answers) := by
  unfold nativeInputs
  split
  · exact keeps_collectedInputs snapshot parallel
  · exact .pure _

theorem triple_republishNative_acking {requested : Cm119Outputs} {inputs : HardwareInputs} :
    Fallible.Triple (Acking worker p q) (republishNative requested inputs answers)
      (fun _ s => Acking worker p q s ∧ Handed s .cm119 requested.gpioOutputMask)
      fun _ s => Acking worker p q s := by
  unfold republishNative
  refine Fallible.Triple.bindTotal (Fallible.Triple.attempt (R := fun published s =>
    Acking worker p False s ∧ (published.isOk = true →
      Handed s .cm119 requested.gpioOutputMask ∧ Standing .cm119 requested.gpioOutputMask s.log))
    (triple_publish.imp (fun s h => ⟨h.weaken, fun _ hfalse => hfalse.elim⟩)
      (fun _ _ h => ⟨h.1.1, fun _ => h.2⟩) fun _ _ h => ⟨h.1, nofun⟩)) fun published => ?_
  cases published with
  | error failure =>
    refine Fallible.Triple.bind (Q := fun _ => Acking worker p q)
      (Fallible.Triple.modify fun s h => h.1.forget) fun _ => ?_
    refine Fallible.Triple.bind (Q := fun _ => Acking worker p q)
      (Fallible.Triple.modify fun s h => h.publishInputs _) fun _ => ?_
    exact Fallible.Triple.fail fun _ h => h
  | ok u => exact Fallible.Triple.modify fun s h => ⟨h.1.remember (h.2 rfl).2, (h.2 rfl).1⟩

/-- A native cycle hands its outputs over, or finds them there. -/
theorem keeps_publishNative (hq : q) (ready : Bool) (inputs : HardwareInputs) :
    Fallible.Keeps (Acking worker p q) (publishNative ready inputs moment) := by
  unfold publishNative
  refine Fallible.Triple.get fun s hs => ?_
  split
  · exact Fallible.Triple.pure fun s' h => h ▸ hs
  · simp only
    split
    · next hkept =>
      refine Fallible.Triple.modify fun s' h => ?_
      subst h
      have hkept' : Acking worker p q (s'.record (.kept .cm119 (s'.generation .cm119))) :=
        hs.record fun _ => rfl
      exact hkept'.submit ⟨[], _, s'.log, rfl, by simp, .inr ⟨rfl, hs.native hq _ hkept⟩⟩ nofun
    · refine (triple_republishNative_acking.imp (fun s' h => h ▸ hs) (fun _ _ h => h)
        fun _ _ h => h).bind fun _ => ?_
      exact (triple_submitted (fun _ => by simp)).imp (fun _ h => h) (fun _ _ h => h.1) fun _ _ h => h

theorem keeps_serviceClipLed (mask : U8) (events now : Nat) :
    Fallible.Keeps (Acking worker p q) (Cycle.outcome fun outputs devices =>
      outputs.serviceClipLed devices mask events now answers) :=
  keeps_outcome fun _ _ => keepsAcks_serviceClipLed _ _ _ _ _

theorem keeps_cancelPulses (bank : SiteBank) (mask : U8) :
    Fallible.Keeps (Acking worker p q) (Cycle.outcome fun outputs devices =>
      outputs.cancelPulses bank mask devices answers) :=
  keeps_outcome fun outputs _ => by
    rw [outputs_cancelPulses]
    exact keepsAcks_refl outputs

theorem keeps_forgot_cancelPulses (bank : SiteBank) (mask : U8) :
    Fallible.Keeps (fun s => s.outputs.nativeOutputs = none) (Cycle.outcome fun outputs devices =>
      outputs.cancelPulses bank mask devices answers) :=
  Fallible.Keeps.of_exec fun s r s' hs hrun => by
    obtain ⟨-, rfl⟩ := Prod.mk.inj (Option.some.inj hrun)
    exact (congrArg OutputState.nativeOutputs (outputs_cancelPulses ..)).trans hs

theorem keeps_serviceNativeOnce (hp : p) (hq : q) :
    Fallible.Keeps (Acking worker p q) (serviceNativeOnce worker moment) := by
  unfold serviceNativeOnce
  refine .bind (.attempt (keeps_serviceClipLed _ _ _)) fun _ => ?_
  refine Fallible.Triple.bind (Fallible.Triple.attempt (R := fun snapshots s =>
    Acking worker p q s ∧ (snapshots.toOption.join.isSome = true →
      Pending .cm119 (s.outputs.site .cm119) s.log))
    (triple_cm119Snapshot_acking.imp (fun s h => ⟨h, h.since hp .cm119⟩) (fun _ _ h => h)
      fun _ _ h => ⟨h, nofun⟩)) fun snapshots => ?_
  refine Fallible.Triple.bindTotal triple_observeCm119_acking fun _ => Fallible.Keeps.get fun s _ => ?_
  refine .bind (.attempt (keeps_serviceParallelOnce _)) fun parallel => ?_
  refine .bind (keeps_nativeInputs _ _ _) fun inputs => ?_
  refine .bind (keeps_publishNative hq _ _) fun _ => ?_
  refine .bind (.modify fun s h => h.publishInputs inputs) fun _ => ?_
  exact .bind (.of _) fun _ => .bind (.of _) fun _ => .pure _

/-! ## The ordinary cycle -/

theorem keeps_publishOrdinary :
    Fallible.Keeps (Acking worker p False) (publishOrdinary moment) := by
  unfold publishOrdinary
  refine .get fun s _ => .whenever fun _ => ?_
  refine (triple_publish.imp (fun s h => ⟨h, fun _ hfalse => hfalse.elim⟩) (fun _ _ h => h)
    fun _ _ h => h.1).bind fun _ => ?_
  exact (triple_submitted (fun _ => by simp)).imp (fun _ h => ⟨h.1.1, h.2.1⟩) (fun _ _ h => h.1)
    fun _ _ h => h

theorem keeps_serviceOrdinaryOnce (hp : p) :
    Fallible.Keeps (Acking worker p False) (serviceOrdinaryOnce worker moment) := by
  unfold serviceOrdinaryOnce
  refine .bind (keeps_serviceClipLed _ _ _) fun _ => .bind keeps_publishOrdinary fun _ => ?_
  refine (triple_cm119Snapshot_acking.imp (fun s h => ⟨h, h.since hp .cm119⟩) (fun _ _ h => h)
    fun _ _ h => h).bind fun snapshot => ?_
  refine Fallible.Triple.bindTotal triple_observeCm119_acking fun _ => Fallible.Keeps.get fun s _ => ?_
  refine .bind (keeps_serviceParallelOnce _) fun parallel => ?_
  refine .bind (keeps_collectedInputs _ _) fun inputs => ?_
  exact .modify fun s h => h.publishInputs inputs

/-! ## Confirmation -/

/-- A reading writes no levels. -/
theorem keeps_standing_cm119Snapshot (levels : U8) :
    Fallible.Keeps (fun s => Standing .cm119 levels s.log) (cm119Snapshot answers) := by
  unfold cm119Snapshot Cycle.service
  refine .get fun s _ => ?_
  split
  · exact .pure none
  · refine .bind (.bind (.of _) fun _ => .modify fun s h => ?_) fun _ => ?_
    · exact h.append [.serviced .cm119] (by simp [ServiceEvent.writes])
    · exact .bind (.of _) fun _ => .bind (.of _) fun _ => .pure _

theorem keeps_standing_observeCm119 (levels : U8) (snapshot : Option (Cm119Inputs × Cm119Statistics))
    (now : Nat) : Fallible.Triple (fun s => Standing .cm119 levels s.log) (observeCm119 snapshot now)
      (fun _ s => Standing .cm119 levels s.log) fun _ _ => False :=
  Fallible.Triple.bindTotal (Fallible.Triple.modify fun _ h => h) fun _ =>
    Fallible.Triple.modify fun _ h => h

theorem keeps_confirmCm119 : Fallible.Keeps (Acking worker p q) (confirmCm119 moment) := by
  unfold confirmCm119
  refine .get fun s _ => ?_
  split
  · exact .pure ()
  · simp only
    refine Fallible.Triple.bind (Q := fun _ s => Acking worker p q s ∧
      s.outputs.nativeOutputs = none) (Fallible.Triple.modify fun s h => ⟨h.weaken.forget, rfl⟩)
      fun _ => ?_
    refine Fallible.Triple.bind ((keeps_cancelPulses .cm119 0).and (keeps_forgot_cancelPulses .cm119 0)
      |>.imp (fun _ h => h) (fun _ _ h => h) fun _ _ h => h.1) fun _ => ?_
    refine (triple_publish.imp (fun s h => ⟨h.1, fun _ _ => h.2⟩) (fun _ _ h => h)
      fun _ _ h => h.1).bind fun _ => ?_
    refine Fallible.Triple.bind (Q := fun _ s' =>
      (Acking worker p q s' ∧ SubmittedSince .cm119 (s'.outputs.site .cm119) s'.log) ∧
        Standing .cm119 s.outputs.cm119 s'.log)
      (Fallible.Triple.modify fun s' h => ⟨⟨h.1.1.submit h.2.1 fun _ => by simp, h.2.1.since⟩, h.2.2⟩)
      fun _ => ?_
    refine ((triple_cm119Snapshot_acking.and (keeps_standing_cm119Snapshot _)).imp (fun _ h => h)
      (fun _ _ h => h) fun _ _ h => h.1).bind fun snapshot => ?_
    refine Fallible.Triple.bindTotal ((triple_observeCm119_acking.and
      (keeps_standing_observeCm119 _ _ _)).imp (fun _ h => h) (fun _ _ h => h) fun _ _ h => h.1)
      fun _ => ?_
    split
    · exact Fallible.Triple.panicked
    · refine Fallible.Triple.bind (Q := fun _ s' => Acking worker p q s' ∧
        Standing .cm119 s.outputs.cm119 s'.log) (Fallible.Triple.whenever
          (fun _ => Fallible.Triple.fail fun _ h => h.1) fun _ _ h => h) fun _ => ?_
      refine Fallible.Triple.bind (Q := fun _ s' => Acking worker p q s' ∧
        Standing .cm119 s.outputs.cm119 s'.log) (Fallible.Triple.modify fun s' h =>
          ⟨h.1.record fun _ => rfl, h.2.append [_] (by simp [ServiceEvent.writes])⟩) fun _ => ?_
      exact Fallible.Triple.modify fun s' h => h.1.weaken.remember h.2

theorem keeps_confirmParallel :
    Fallible.Keeps (Acking worker p q) (confirmParallel worker moment) := by
  unfold confirmParallel
  split
  · exact .pure ()
  · refine .get fun s _ => ?_
    simp only
    split
    · split
      · exact .fail _
      · exact .modify fun s h => h.record fun _ => rfl
    · refine .bind (keeps_cancelPulses _ _) fun _ => ?_
      refine .bind (keeps_serviceParallelOnce _) fun _ => .bind (.of _) fun statistics => ?_
      refine .get fun s _ => .bind (.whenever fun _ => .fail _) fun _ => ?_
      exact .modify fun s h => h.record fun _ => rfl

theorem keeps_serviceRemotePtt :
    Fallible.Keeps (Acking worker p q) (serviceRemotePtt worker moment) := by
  unfold serviceRemotePtt
  refine .bind (.attempt keeps_confirmCm119) fun cm119 => ?_
  refine .bind (.attempt keeps_confirmParallel) fun parallel => ?_
  exact .bind (.of cm119) fun _ => .of parallel

/-! ## Closing -/

theorem keeps_rejectSite (bank : SiteBank) (error : SiteError) :
    Fallible.Keeps (Acking worker p q) (rejectSite bank error) :=
  .modify fun _ h => h.outputs (keepsAcks_setSite (sameAcks_reject _))

theorem keeps_closeCm119 :
    Fallible.Keeps (Acking worker False False) (closeCm119 answers) := by
  unfold closeCm119
  refine .get fun s _ => ?_
  split
  · exact .pure ()
  · simp only
    refine Fallible.Triple.bind (Fallible.Triple.attempt (R := fun result s =>
      Acking worker False False s ∧ (result.isOk = true →
        Pending .cm119 (s.outputs.site .cm119) s.log)) ?_) fun result => ?_
    · refine Fallible.Triple.bind ((keeps_cancelPulses _ _).imp (fun _ h => h) (fun _ _ h => h)
        fun _ _ h => ⟨h, nofun⟩) fun _ => ?_
      refine (triple_publish.imp (fun s h => ⟨h, fun _ hfalse => hfalse.elim⟩) (fun _ _ h => h)
        fun _ _ h => ⟨h.1, nofun⟩).bind fun _ => ?_
      refine ((triple_submitted (fun _ => by simp)).imp (fun _ h => ⟨h.1.1, h.2.1⟩) (fun _ _ h => h)
        fun _ _ h => ⟨h, nofun⟩).bind fun _ => ?_
      exact triple_serviced.imp (fun _ h => h) (fun _ _ h => ⟨h.1, fun _ => h.2⟩)
        fun _ _ h => ⟨h, nofun⟩
    · refine Fallible.Triple.bind (Q := fun _ => Acking worker False False)
        (Fallible.Triple.modify fun s h => h.1.acknowledge h.2) fun _ => ?_
      refine Fallible.Keeps.bind (.whenever fun _ => .modify fun s h => ?_) fun _ => ?_
      · exact h.frame [] (keepsAcks_refl _) rfl (by simp)
      · exact .bind (.whenever fun _ => keeps_rejectSite _ _) fun _ => .of _

theorem keeps_closeParallel :
    Fallible.Keeps (Acking worker False False) (closeParallel worker answers) := by
  unfold closeParallel
  refine Fallible.Triple.get fun s hs => ?_
  split
  · exact Fallible.Triple.pure fun s' h => h ▸ hs
  · exact Fallible.Triple.panicked
  · next plan _ hplan =>
    simp only
    generalize parallelOutput plan (closingLevels s.outputs) false s.devices.pttInverted = value
    refine Fallible.Triple.bindTotal (Fallible.Triple.attempt (R := fun closed s =>
      Acking worker False False s ∧ (closed.isOk = true → Handed s .parallel value))
      (triple_publish.imp (fun s' h => ⟨h ▸ hs, nofun⟩) (fun _ _ h => ⟨h.1.1, fun _ => h.2.1⟩)
        fun _ _ h => ⟨h.1, nofun⟩)) fun closed => ?_
    cases closed with
    | error failure =>
      refine Fallible.Triple.bind (Q := fun _ => Acking worker False False)
        (Fallible.Triple.modify fun s h => h.1.acknowledge nofun) fun _ => ?_
      exact Fallible.Keeps.bind (keeps_rejectSite _ _) fun _ => .fail failure
    | ok u =>
      -- The call that closes the port has serviced it, in front of the submission.
      refine Fallible.Triple.bind (Q := fun _ s => Acking worker False False s ∧
        Handed s .parallel value ∧
        Pending .parallel ((s.outputs.site .parallel).submitted (value.setWidth 32)) s.log)
        (Fallible.Triple.modify fun s h => ?_) fun _ => ?_
      · have hhanded := h.2 rfl
        have hsince := hhanded.since
        rw [site_submitted] at hsince
        exact ⟨h.1.record fun _ => rfl, hhanded.append [_] (by simp), hsince.pending⟩
      refine Fallible.Triple.bind (Q := fun _ s => Acking worker False False s ∧
        Handed s .parallel value ∧
        Pending .parallel ((s.outputs.site .parallel).submitted (value.setWidth 32)) s.log)
        (Fallible.Triple.modify fun s h => ⟨h.1.frame [] (keepsAcks_refl _) rfl (by simp), h.2⟩)
        fun _ => ?_
      refine Fallible.Triple.bind (Q := fun _ s => Acking worker False False s ∧
        Pending .parallel (s.outputs.site .parallel) s.log)
        (Fallible.Triple.modify fun s h => ⟨h.1.submit h.2.1 fun hnone => ?_, ?_⟩) fun _ => ?_
      · exact absurd (hplan.symm.trans hnone) (by simp)
      · rw [site_submitted]
        exact h.2.2
      · exact Fallible.Triple.modify fun s h => h.1.acknowledge fun _ => h.2

theorem keeps_closeOutputs :
    Fallible.Keeps (Acking worker False False) (closeOutputs worker answers) := by
  unfold closeOutputs
  refine .bind (.modify fun s h => h.outputs (keepsAcks_setEncoder false)) fun _ => ?_
  refine .bind (.attempt keeps_closeCm119) fun cm119 => ?_
  refine .bind (.attempt keeps_closeParallel) fun port => ?_
  exact .bind (.of cm119) fun _ => .of port

/-! ## Commands -/

theorem keeps_serviceCommand (command : ServiceCommand) :
    Fallible.Keeps (Acking worker p q) (serviceCommand worker command answers) := by
  cases command with
  | output command =>
    refine Fallible.Keeps.of_exec fun s r s' hs hrun => ?_
    obtain ⟨outcome, happly, hout⟩ := Option.map_eq_some_iff.mp hrun
    obtain ⟨-, rfl⟩ := Prod.mk.inj hout
    exact hs.frame [] (keepsAcks_apply happly) rfl (by simp)
  | siteBind bank binding =>
    refine Fallible.Keeps.of_exec fun s r s' hs hrun => ?_
    obtain ⟨-, rfl⟩ := Prod.mk.inj (Option.some.inj hrun)
    exact hs.frame [] (keepsAcks_siteBind _ _ _ _) rfl (by simp)
  | sitePublish bank request => exact .modify fun s h => h.outputs (keepsAcks_sitePublish request)
  | selectChannel channel =>
    show Fallible.Keeps _ (Cycle.outcome fun outputs devices =>
      outputs.selectChannel channel devices answers)
    exact keeps_outcome fun _ _ => keepsAcks_selectChannel _ _ _
  | configureRemoteRadio settings =>
    refine Fallible.Keeps.of_exec fun s r s' hs hrun => ?_
    obtain ⟨-, rfl⟩ := Prod.mk.inj (Option.some.inj hrun)
    exact hs.outputs (keepsAcks_configureRemoteRadio settings)
  | snapshot => exact .pure ()
  | restore state => exact .modify fun s h => h.outputs (keepsAcks_restore state worker.plan)

/-! ## Opening -/

/-- Devices that were prepared: nothing is acknowledged, and no outputs are remembered. -/
theorem Acking.reopen {devices : ServiceDevices} {r : Except ServiceFailure Unit}
    (h : Acking worker False False s)
    (hforgets : worker.native = true → s.outputs.nativeOutputs = none)
    (hrun : reopenSite worker devices answers s = some (r, s')) :
    Acking worker (r.isOk = true) (r.isOk = true ∧ worker.native = true) s' := by
  unfold reopenSite at hrun
  split at hrun
  · next hopen =>
    obtain ⟨⟨outcome, next⟩, hsite, hout⟩ := Option.map_eq_some_iff.mp hrun
    obtain ⟨rfl, rfl⟩ := Prod.mk.inj hout
    obtain ⟨hprepares, hnone⟩ := prepareSite_acks hsite
    have habsent : worker.plan.parallel = none →
        (outcome.outputs.site .parallel).snapshot.submittedGeneration = 0 := fun hplan => by
      rcases hprepares.site .parallel with hsame | hnone
      · exact hsame.submittedGeneration.trans (h.absent hplan)
      · exact hnone.1
    refine ⟨fun bank => ?_, fun bank => ?_, fun hok bank => ?_, fun hq outputs hnative => ?_,
      fun hplan => ?_⟩
    · rcases hprepares.site bank with hsame | hnone
      · exact (h.submitted bank).append hsame _
      · exact fun hne => absurd hnone.1 hne
    · rcases hprepares.site bank with hsame | hnone
      · exact (h.serviced bank).append hsame _
      · exact fun hne => absurd hnone.2 hne
    · have hok' : outcome.result = .ok () := by
        cases hr : outcome.result with
        | ok u => rfl
        | error failure => rw [hr] at hok; cases hok
      obtain ⟨hcm119, hparallel⟩ := hnone hok'
      cases bank with
      | cm119 => exact fun hne => absurd hcm119.1 hne
      | parallel =>
        refine fun hne => absurd ?_ hne
        by_cases hplan : worker.plan.parallel = none
        · exact habsent hplan
        · have hplan' := Option.isSome_iff_ne_none.mpr hplan
          simp only [ServiceDevices.justOpened, Bool.and_eq_true, beq_iff_eq] at hopen
          exact (hparallel (hopen.1.1.2.trans hplan') hplan').1
    · have hforgot := hprepares.native.trans (hforgets hq.2)
      exact absurd (hforgot.symm.trans hnative) (by simp)
    · exact habsent hplan
  · cases hrun

/-! ## Runs -/

/-- The invariant of a run. -/
def ServiceRun.Acks (worker : ServiceWorker) (s : ServiceRun) : Prop :=
  Acking worker (s.phase = .serving) (s.phase = .serving ∧ worker.native = true) s.service

theorem acks_exec {s s' : ServiceRun} {m : Cycle Unit} (h : s.Acks worker)
    (hm : Fallible.Keeps
      (Acking worker (s.phase = .serving) (s.phase = .serving ∧ worker.native = true)) m)
    (hrun : s.exec m = some s') : s'.Acks worker := by
  obtain ⟨⟨r, service⟩, hexec, rfl⟩ := Option.map_eq_some_iff.mp hrun
  exact hm.exec h hexec

theorem keeps_serviceOnce (hp : p) (hq : worker.native = true → q) (hnot : q → worker.native = true) :
    Fallible.Keeps (Acking worker p q) (serviceOnce worker moment) := by
  unfold serviceOnce
  split
  · next hnative => exact keeps_serviceNativeOnce hp (hq hnative)
  · next hnative =>
    exact (keeps_serviceOrdinaryOnce hp).imp (fun _ h => h.weaken)
      (fun _ _ h => h.imp id fun hq => absurd (hnot hq) hnative)
      fun _ _ h => h.imp id fun hq => absurd (hnot hq) hnative

theorem acks_step {s s' : ServiceRun} {act : ServiceAct} (h : s.Acks worker)
    (hforgets : Forgets worker s act) (hstep : s.step worker act = some s') : s'.Acks worker := by
  cases act with
  | command command answers =>
    simp only [ServiceRun.step] at hstep
    split at hstep
    · exact acks_exec h (keeps_serviceCommand command) hstep
    · cases hstep
  | cycle moment =>
    simp only [ServiceRun.step] at hstep
    split at hstep
    · next hserving =>
      exact acks_exec h (keeps_serviceOnce hserving (fun hnative => ⟨hserving, hnative⟩) And.right)
        hstep
    · cases hstep
  | confirm moment => exact acks_exec h keeps_serviceRemotePtt hstep
  | control control =>
    obtain rfl := Option.some.inj hstep
    exact h.frame [] (keepsAcks_refl _) rfl (by simp)
  | setEncoder active =>
    obtain rfl := Option.some.inj hstep
    exact h.outputs (keepsAcks_setEncoder active)
  | bindEncoder encoder answers =>
    obtain ⟨outcome, hbind, rfl⟩ := Option.map_eq_some_iff.mp hstep
    exact h.frame [] (keepsAcks_bindEncoder hbind) rfl (by simp)
  | serviceRadio answers => exact acks_exec h (keeps_serviceRemoteRadio false) hstep
  | retireSite =>
    obtain rfl := Option.some.inj hstep
    exact (h.outputs (keepsAcks_retireSite _)).imp nofun nofun
  | giveUp =>
    obtain rfl := Option.some.inj hstep
    exact h.imp nofun nofun
  | close answers =>
    simp only [ServiceRun.step] at hstep
    split at hstep
    · next hretiring =>
      obtain ⟨⟨r, service⟩, hexec, rfl⟩ := Option.map_eq_some_iff.mp hstep
      have hclosed := keeps_closeOutputs.exec (h.imp False.elim False.elim) hexec
      exact hclosed.imp (by simp [hretiring]) (by simp [hretiring])
    · cases hstep
  | rejectStale bank => exact acks_exec h (keeps_rejectSite bank _) hstep
  | reopen devices answers =>
    simp only [ServiceRun.step] at hstep
    split at hstep
    · obtain ⟨⟨r, service⟩, hexec, rfl⟩ := Option.map_eq_some_iff.mp hstep
      have hopened := (h.imp False.elim False.elim).reopen hforgets hexec
      cases r with
      | error failure => exact hopened.imp nofun nofun
      | ok u => exact hopened.imp (fun _ => rfl) fun hq => ⟨rfl, hq.2⟩
    · cases hstep
  | elsewhere =>
    obtain rfl := Option.some.inj hstep
    exact h.frame [] (keepsAcks_refl _) rfl (by simp)

theorem acks_initial (worker : ServiceWorker) (next : Nat) (remoteRadio : Option RemoteRadio)
    (state : Option HardwareTransientState) (bank : SiteBank) :
    ((OutputState.initial next worker.plan remoteRadio state).site bank).Unacknowledged := by
  have hnew : ((OutputState.new next worker.plan remoteRadio).1.site bank).Unacknowledged := by
    cases bank <;> exact ⟨rfl, rfl⟩
  cases state with
  | none => exact hnew
  | some state =>
    have hsame := (keepsAcks_restore (s := (OutputState.new next worker.plan remoteRadio).1) state
      worker.plan).site bank
    exact ⟨hsame.submittedGeneration.trans hnew.1, hsame.servicedGeneration.trans hnew.2⟩

theorem acks_inductive (worker : ServiceWorker) :
    (serviceRuns worker).Inductive (Forgets worker) (ServiceRun.Acks worker) where
  init s hs := by
    obtain ⟨next, remoteRadio, state, devices, control, inputs, rfl⟩ := hs
    have hnone := acks_initial worker next remoteRadio state
    exact ⟨fun bank hne => absurd (hnone bank).1 hne, fun bank hne => absurd (hnone bank).2 hne,
      nofun, nofun, fun _ => (hnone .parallel).1⟩
  step _ _ _ h hforgets hstep := acks_step h hforgets hstep

/-- **The acknowledgements of both banks are truthful**: whatever the worker does and whichever calls
fail, what a site acknowledges was handed to the device under the generation that is named. -/
theorem truthful_of_reachBy (worker : ServiceWorker) (s : ServiceRun)
    (h : (serviceRuns worker).ReachBy (Forgets worker) s) : Truthful s.service :=
  Acking.truthful ((acks_inductive worker).reachBy h)

/-! ## A native worker -/

/-- A native worker with a CM119 alone, all of whose free pins are outputs. -/
def nativeWorker : ServiceWorker where
  native := true
  plan := ⟨some (cm119Plan .dudeUsb (fun _ => .outputLow) none), none, false⟩

/-- A native service that has opened nothing. -/
def nativeStart : ServiceRun where
  service := {
    outputs := OutputState.initial 1 nativeWorker.plan none none
    devices := ⟨none, none, false⟩
    next := 3
    control := .ordinary
    inputs := HardwareInputs.none
    log := [] }
  phase := .retiring

theorem init_nativeStart : (serviceRuns nativeWorker).init nativeStart :=
  ⟨1, none, none, ⟨none, none, false⟩, .ordinary, HardwareInputs.none, rfl⟩

/-- A site takes these pins between the first and the second of three cycles. -/
def nativeActs (pins : U32) : List ServiceAct :=
  let cycle : ServiceAct := .cycle ⟨false, 0, 0, OutputRun.allOk⟩
  [.reopen ⟨some (.open 0 0), none, false⟩ OutputRun.allOk, cycle,
    .command (.siteBind .cm119 ⟨3, pins, pins, 0⟩) OutputRun.allOk, cycle, cycle]

theorem meets_nativeActs (pins : U32) :
    (serviceRuns nativeWorker).Meets (Forgets nativeWorker) nativeStart (nativeActs pins) :=
  ⟨fun _ => rfl, fun _ _ => ⟨trivial, fun _ _ => ⟨trivial, fun _ _ => ⟨trivial, fun _ _ =>
    ⟨trivial, fun _ _ => trivial⟩⟩⟩⟩⟩

/-- The site's level is acknowledged, and was published under its generation. -/
theorem truthful_of_claim : ∃ s : ServiceRun,
    (s.service.outputs.site .cm119).snapshot.servicedGeneration = 4 ∧
    (s.service.outputs.site .cm119).snapshot.servicedHighMask = 1 ∧
    ServiceEvent.published .cm119 4 1 false ∈ s.service.log ∧ Truthful s.service := by
  obtain ⟨s, hrun, hgeneration, hlevels, hlog⟩ : ∃ s : ServiceRun,
      (serviceRuns nativeWorker).run nativeStart (nativeActs 1) = some s ∧
      (s.service.outputs.site .cm119).snapshot.servicedGeneration = 4 ∧
      (s.service.outputs.site .cm119).snapshot.servicedHighMask = 1 ∧
      ServiceEvent.published .cm119 4 1 false ∈ s.service.log := ⟨_, rfl, rfl, rfl, by decide⟩
  exact ⟨s, hgeneration, hlevels, hlog,
    truthful_of_reachBy nativeWorker s ⟨_, _, init_nativeStart, meets_nativeActs 1, hrun⟩⟩

/-- A generation that changes no level is acknowledged without a publication of its own: the outputs
that the generation before it published are found there. -/
theorem not_published_of_kept : ∃ s : ServiceRun, (serviceRuns nativeWorker).Reach s ∧
    (s.service.outputs.site .cm119).snapshot.servicedGeneration = 4 ∧
    ∀ levels ptt, ServiceEvent.published .cm119 4 levels ptt ∉ s.service.log := by
  obtain ⟨s, hrun, hgeneration, hlog⟩ : ∃ s : ServiceRun,
      (serviceRuns nativeWorker).run nativeStart (nativeActs 0) = some s ∧
      (s.service.outputs.site .cm119).snapshot.servicedGeneration = 4 ∧
      s.service.log.all (fun | .published .cm119 4 _ _ => false | _ => true) = true :=
    ⟨_, rfl, rfl, rfl⟩
  refine ⟨s, ⟨_, _, init_nativeStart, hrun⟩, hgeneration, fun levels ptt hmem => ?_⟩
  have hother := List.all_eq_true.mp hlog _ hmem
  cases hother

end Driver
end UsbRadioPlus
