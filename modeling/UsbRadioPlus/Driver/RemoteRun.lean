import UsbRadioPlus.Driver.RemotePtt

/-!
# The runs of a worker with a remote radio

Each iteration of the worker ends in a state of its phase (`Live`): in front of the opening of a
generation no provider is selected and the key was not asked for; while the worker serves, a station
without a generation has no permission; behind a stop the generation may be gone.
-/

namespace UsbRadioPlus
namespace Driver

open Sys

variable {worker : ServiceWorker} {setup : RemoteSetup} {moment : Moment} {rig : RigAnswers}
  {s s' : RemoteWorker} {phase next : RemotePhase} {p : Bool → Prop} {r : Prop}
  {selected : Option RemotePttSource} {generation : RemoteGeneration} {answers : DeviceAnswers}
  {devices : ServiceDevices}

/-! ## States of a phase -/

/-- How a permission is related to the service of the cycle. -/
def RemotePhase.policy : RemotePhase → Bool → Prop
  | .closed => Withheld
  | _ => Served

/-- A worker that was started. -/
def Live (worker : ServiceWorker) (s : RemoteWorker) : Prop :=
  s.phase ≠ .created ∧ ∃ selected, Owned worker selected s.phase s.phase.policy True s ∧
    (s.phase.unopened = true → selected = none ∧ lastRequest s.service.log = false)

theorem Owned.live (h : Owned worker selected phase phase.policy True s) (hphase : phase ≠ .created)
    (hunopened : phase.unopened = true → selected = none ∧ lastRequest s.service.log = false) :
    Live worker s := by
  obtain rfl := h.phase
  exact ⟨hphase, selected, h, hunopened⟩

/-- The phase changes. Only a worker that was not stopped goes on serving. -/
theorem Owned.setPhase (h : Owned worker selected phase p r s) (next : RemotePhase)
    (hstopped : next.stopped = false → phase.stopped = false) :
    Owned worker selected next p r { s with phase := next } :=
  ⟨h.chosen, h.keyed, h.provider, fun hnext => h.held (hstopped hnext), rfl, h.permitted, h.off,
    h.cm119, h.disciplined⟩

theorem live_setPhase {E : CallError → RemoteWorker → Prop} (next : RemotePhase)
    (hnext : next ≠ .created) (hstopped : next.stopped = false → phase.stopped = false)
    (hp : ∀ served, p served → next.policy served) :
    Fallible.Triple (fun s => Owned worker selected phase p True s ∧
        (next.unopened = true → selected = none ∧ lastRequest s.service.log = false))
      (setPhase next) (fun _ => Live worker) E :=
  Fallible.Triple.modify fun _ h => ((h.1.setPhase next hstopped).imp hp id).live hnext h.2

/-- The permission of an earlier cycle. -/
theorem Owned.unserved (h : Owned worker selected phase p r s) (hp : p s.served → p false) :
    Owned worker selected phase p r { s with served := false } :=
  ⟨h.chosen, h.keyed, h.provider, h.held, h.phase, fun hpermitted => (h.permitted hpermitted).imp_left hp,
    h.off, h.cm119, h.disciplined⟩

/-- Without a generation no provider was selected, and nothing is permitted. -/
theorem Owned.withheld {p' : Bool → Prop} (h : Owned worker selected phase p r s)
    (hstopped : phase.stopped = false) (hnone : s.generation = none) :
    Owned worker selected phase p' r s := by
  refine ⟨h.chosen, h.keyed, h.provider, h.held, h.phase, fun hpermitted => ?_, h.off, h.cm119,
    h.disciplined⟩
  have hsome := (h.permitted hpermitted).2
  rw [h.held hstopped hnone] at hsome
  cases hsome

/-- A change of the inputs and outputs of the service. -/
theorem Owned.setOutputs (h : Owned worker selected phase p r s) (inputs : HardwareInputs)
    (outputs : OutputState) :
    Owned worker selected phase p r { s with service := { s.service with inputs, outputs } } :=
  h.same rfl rfl rfl rfl rfl rfl rfl rfl

/-- A request that was withdrawn stays so, and what was confirmed since. -/
theorem withdrawn_gpio {α : Type} {m : Cycle α} {sources : RemotePttSource → Prop}
    (hm : ∀ control s₀, Fallible.Keeps (Emits control s₀) m) :
    Fallible.Keeps (fun s => Owned worker selected phase p r s ∧ Withdrawn sources s)
      (RemoteCycle.gpio m) :=
  Fallible.Triple.within fun s hs => by
    have hkept : ∀ {service : Service}, Emits s.service.control s.service service →
        Owned worker selected phase p r { s with service } ∧
          Withdrawn sources { s with service } := fun {service} h => by
      obtain ⟨new, hlog, hnew⟩ := h.log
      have hquiet : ∀ e ∈ new, e.remote = false := fun e he => (hnew e he).remote
      refine ⟨hs.1.emits h, ?_, fun source hsource => ?_⟩
      · show lastRequest service.log = false
        rw [hlog, lastRequest_append hquiet]
        exact hs.2.1
      · show confirmedOff source service.log = true
        rw [hlog]
        exact confirmedOff_append hquiet (hs.2.2 source hsource)
    exact (hm s.service.control s.service).imp
      (fun service (h : service = s.service) => h ▸ emits_refl rfl) (fun _ _ => hkept)
      fun _ _ => hkept

/-! ## Iterations -/

/-- Behind a failure nothing is permitted, or what the cycle gave. -/
theorem owned_unkeyOrFail {found : Moment × RigAnswers} :
    Fallible.Triple (Owned worker selected phase p True) (unkeyOrFail worker found)
      (fun _ => Owned worker selected phase p True) fun _ _ => False := by
  unfold unkeyOrFail
  refine Fallible.Triple.get fun s hs => ?_
  have hwithheld : ∀ s, Owned worker selected phase Withheld True s →
      Owned worker selected phase p True s := fun s h => h.imp (fun _ => False.elim) id
  split
  · exact Fallible.Triple.pure fun s' h => h ▸ hs
  · next generation hgeneration =>
    obtain ⟨hselected, hprovides⟩ := hs.provider generation hgeneration
    refine Fallible.Triple.bindTotal (Fallible.Triple.attempt (R := fun _ s =>
      Owned worker selected phase Withheld True s)
      ((triple_unkey (r := True) (p := p) hselected hprovides).imp
        (fun s' (h : s' = s) => h ▸ hs) (fun _ _ h => h.1) fun _ _ h => h)) fun result => ?_
    cases result with
    | ok u => exact Fallible.Triple.pure hwithheld
    | error error => exact Fallible.Triple.modify fun s' h => h.withdraw

/-- An iteration starts with the policy of the one before it, and ends with its own. -/
theorem triple_serviceOrUnkey {moment : RemoteMoment} (hstopped : phase.stopped = false) :
    Fallible.Triple (Owned worker selected phase Served True)
      (serviceOrUnkey worker setup moment) (fun _ => Owned worker selected phase Served True)
      fun _ _ => False := by
  unfold serviceOrUnkey
  refine Fallible.Triple.bindTotal (Q := fun _ => Owned worker selected phase Stale True)
    (Fallible.Triple.modify fun s h => (h.imp (fun _ _ => trivial) id).unserved id) fun _ => ?_
  refine Fallible.Triple.get fun s hs => ?_
  split
  · next hnone =>
    exact Fallible.Triple.pure fun s' h => h ▸ hs.withheld hstopped hnone
  · refine Fallible.Triple.bindTotal (Fallible.Triple.attempt (R := fun result s => match result with
      | .ok _ => Owned worker selected phase Served True s
      | .error _ => Owned worker selected phase Stale True s)
      (triple_serviceGeneration.imp (fun s' (h : s' = s) => h ▸ hs) (fun _ _ h => h)
        fun _ _ h => h)) fun result => ?_
    cases result with
    | ok u => exact Fallible.Triple.pure fun s' h => h
    | error error =>
      exact Fallible.Triple.bindTotal (Q := fun _ => Owned worker selected phase Served True)
        (Fallible.Triple.modify fun s' h => h.withdraw) fun _ => owned_unkeyOrFail

theorem live_remoteCycle {moment : RemoteMoment} :
    Fallible.Triple (Owned worker selected (.serving false) Served True)
      (remoteCycle worker setup moment) (fun _ => Live worker) fun _ => Live worker := by
  unfold remoteCycle
  have hlive : ∀ s, Owned worker selected (.serving false) Served True s → Live worker s :=
    fun s h => h.live nofun nofun
  refine Fallible.Triple.bindTotal (triple_serviceOrUnkey rfl) fun _ => ?_
  refine Fallible.Triple.bindTotal (Q := fun _ => Owned worker selected (.serving false) Served True)
    (Fallible.Triple.attempt ?_) fun result => ?_
  · exact owned_gpio fun _ _ => .bind (emits_serviceCommands moment.commands) fun _ =>
      emits_serviceOnce
  · cases result with
    | ok u => exact Fallible.Triple.pure hlive
    | error error =>
      refine Fallible.Triple.bindTotal owned_unkeyOrFail fun _ => ?_
      refine Fallible.Triple.whenever (fun _ => ?_) fun _ => hlive
      refine Fallible.Triple.bind (Q := fun _ => Owned worker selected (.serving false) Served True)
        (Fallible.Triple.modify fun s h => h.setOutputs _ _) fun _ => ?_
      exact (live_setPhase (.serving true) nofun (fun _ => rfl) fun _ h => h).imp
        (fun _ h => ⟨h, nofun⟩) (fun _ _ h => h) fun _ _ h => h

theorem live_retireCycle {unkeys : Moment × RigAnswers} :
    Fallible.Triple (Owned worker selected (.serving true) Served True)
      (retireCycle worker unkeys answers) (fun _ => Live worker) fun _ => Live worker := by
  unfold retireCycle
  have hlive : ∀ s, Owned worker selected (.serving true) Withheld True s → Live worker s :=
    fun s h => (h.imp (fun _ => False.elim) id).live nofun nofun
  have hclose : Fallible.Triple (Owned worker selected (.serving true) Withheld True)
      (RemoteCycle.gpio (closeOutputs worker answers))
      (fun _ => Owned worker selected (.serving true) Withheld True) fun _ => Live worker :=
    (owned_gpio fun _ _ => emits_closeOutputs).imp (fun _ h => h) (fun _ _ h => h) fun _ => hlive
  have hclosed : Fallible.Triple (Owned worker selected (.serving true) Withheld True)
      (setPhase .closed) (fun _ => Live worker) fun _ => Live worker :=
    (live_setPhase .closed nofun (fun _ => rfl) fun _ h => h).imp (fun _ h => ⟨h, nofun⟩)
      (fun _ _ h => h) fun _ _ h => h
  refine Fallible.Triple.bindTotal (Q := fun _ => Owned worker selected (.serving true) Stale True)
    (Fallible.Triple.modify fun s h => (h.imp (fun _ _ => trivial) id).unserved id) fun _ => ?_
  refine Fallible.Triple.get fun s hs => ?_
  split
  · next hnone =>
    exact (hclose.imp (fun s' (h : s' = s) => h ▸ hs.withheld rfl hnone) (fun _ _ h => h)
      fun _ _ h => h).bind fun _ => hclosed
  · next generation hgeneration =>
    obtain ⟨hselected, hprovides⟩ := hs.provider generation hgeneration
    refine Fallible.Triple.bindTotal (Fallible.Triple.attempt (R := fun _ =>
      Owned worker selected (.serving true) Withheld True)
      ((triple_unkey (r := True) hselected hprovides).imp (fun s' (h : s' = s) => h ▸ hs)
        (fun _ _ h => h.1) fun _ _ h => h)) fun result => ?_
    cases result with
    | ok u => exact hclose.bind fun _ => hclosed
    | error error =>
      refine Fallible.Triple.bindTotal
        (Q := fun _ => Owned worker selected (.serving true) Withheld True)
        (Fallible.Triple.modify fun s' h => h.withdraw) fun _ => ?_
      exact Fallible.Triple.bind (Q := fun _ => Owned worker selected (.serving true) Withheld True)
        (Fallible.Triple.fail hlive) fun _ => hclosed

/-! ## Opening -/

/-- PTT was not asked for. -/
abbrev Unasked : RemoteWorker → Prop := Withdrawn fun _ => False

theorem live_confirmStart :
    Fallible.Triple (fun s => Owned worker none .starting Served True s ∧ Unasked s)
      (confirmStart worker moment) (fun _ => Live worker) fun _ => Live worker := by
  unfold confirmStart
  refine Fallible.Triple.bindTotal (Fallible.Triple.attempt (R := fun _ s =>
    Owned worker none .starting Served True s ∧ Unasked s)
    (withdrawn_gpio fun _ _ => emits_serviceRemotePtt)) fun confirmed => ?_
  exact (live_setPhase (.opening _) nofun (fun _ => rfl) fun _ h => h).imp (fun _ h => ⟨h.1, fun _ => ⟨rfl, h.2.1⟩⟩)
    (fun _ _ h => h) fun _ _ h => h

/-- An encoder is admitted. -/
theorem emits_bindEncoder {control : PhysicalPttControl} {s₀ : Service}
    (encoder : Option ExternalEncoder) :
    Fallible.Keeps (Emits control s₀) (fun s : Service =>
      (s.outputs.bindEncoder encoder s.devices answers).map fun outcome =>
        (outcome.result, s.withOutcome outcome)) :=
  Fallible.Keeps.of_exec fun s r s' hs hrun => by
    obtain ⟨outcome, hbind, hout⟩ := Option.map_eq_some_iff.mp hrun
    obtain ⟨-, rfl⟩ := Prod.mk.inj hout
    exact hs.same rfl (cm119_bindEncoder _ _ _ hbind) rfl

theorem triple_openRig {found : OpenAnswers} :
    Fallible.Triple (fun s => Owned worker none phase p True s ∧ Unasked s) (openRig setup found)
      (fun _ s => Owned worker none phase Withheld True s ∧ Unasked s)
      fun _ s => Owned worker none phase Withheld True s ∧ Unasked s := by
  unfold openRig
  refine Fallible.Triple.bind (Q := fun _ s => Owned worker none phase Withheld True s ∧ Unasked s)
    (Fallible.Triple.modify fun s h => ⟨h.1.withdraw, h.2⟩) fun _ => ?_
  refine Fallible.Keeps.bind (.modify fun s h => ⟨h.1.setPttControl nofun nofun, rfl, nofun⟩)
    fun _ => ?_
  refine .bind (.of _) fun encoder => .bind (withdrawn_gpio fun _ _ => emits_bindEncoder encoder)
    fun _ => .whenever fun _ => .of _

/-- The generation is there: its provider was selected, with its signals unknown. -/
theorem Owned.open (h : Owned worker none phase p True s) (hunasked : lastRequest s.service.log = false)
    (hunknown : s.signals.physicalPtt = none) (hprovides : Provides worker generation.wiring.ptt) :
    Owned worker (some generation.wiring.ptt) phase p True (s.open generation) := by
  obtain ⟨source, key, hcontrol, hlast, -⟩ := h.keyed
  refine ⟨rfl, ⟨source, key, hcontrol, hlast, fun hkey => ?_⟩, fun _ heq => ?_, nofun, h.phase,
    fun hpermitted => ⟨(h.permitted hpermitted).1, rfl⟩, fun _ _ hoff => ?_, h.cm119,
    ⟨nofun, nofun, nofun⟩, h.disciplined⟩
  · rw [hunasked] at hlast
    rw [← hlast] at hkey
    cases hkey
  · exact Option.some.inj heq ▸ ⟨rfl, hprovides⟩
  · rw [show (s.open generation).signals.physicalPtt = none from hunknown] at hoff
    cases hoff

theorem provides_of_available {found : OpenAnswers} {source : RemotePttSource}
    (h : pttAvailable worker setup found source = true) : Provides worker source := by
  cases source with
  | rig => trivial
  | usb => exact (Bool.and_eq_true _ _ ▸ h).2
  | parallel =>
    show worker.plan.parallel.isSome = true
    cases hplan : worker.plan.parallel with
    | none => rw [pttAvailable, hplan] at h; cases h
    | some port => rfl

theorem provides_of_selectPtt {found : OpenAnswers} {source : RemotePttSource}
    (h : selectPtt worker setup found = some source) : Provides worker source := by
  unfold selectPtt at h
  split at h
  · split at h
    · next havailable => exact Option.some.inj h ▸ provides_of_available havailable
    · cases h
  · exact provides_of_available (List.find?_some h)

theorem provides_of_prepareGeneration {found : OpenAnswers}
    (h : prepareGeneration worker setup found = .ok generation) :
    Provides worker generation.wiring.ptt := by
  unfold prepareGeneration at h
  split at h
  · cases h
  · cases h
  · cases h
  · cases h
  · next hselect _ _ _ =>
    obtain rfl := Except.ok.inj h
    exact provides_of_selectPtt hselect

theorem live_openGeneration {retiring : Bool} {found : OpenAnswers} :
    Fallible.Triple (fun s => Owned worker none (.opening retiring) Served True s ∧ Unasked s)
      (openGeneration worker setup retiring found) (fun _ => Live worker) fun _ => Live worker := by
  unfold openGeneration
  refine Fallible.Triple.bindTotal (Fallible.Triple.attempt (R := fun _ s =>
    Owned worker none (.opening retiring) Withheld True s ∧ Unasked s) triple_openRig) fun opened => ?_
  cases opened with
  | error error =>
    refine Fallible.Triple.bindTotal (Q := fun _ =>
      Owned worker none (.opening retiring) Withheld True)
      (Fallible.Triple.modify fun s h => h.1.withdraw) fun _ => ?_
    exact (live_setPhase (.serving retiring) nofun (fun _ => rfl) fun _ => False.elim).imp (fun _ h => ⟨h, nofun⟩)
      (fun _ _ h => h) fun _ _ h => h
  | ok u =>
    simp only
    split
    · next error herror =>
      refine Fallible.Triple.bindTotal (Q := fun _ s =>
        Owned worker none (.opening retiring) Withheld True s ∧ Unasked s)
        (Fallible.Triple.modify fun s h => ⟨h.1.same rfl rfl rfl rfl rfl rfl rfl rfl, h.2⟩) fun _ => ?_
      exact (live_setPhase (.cleaning error _ _ retiring) nofun (fun _ => rfl) fun _ => False.elim).imp
        (fun _ h => ⟨h.1, fun _ => ⟨rfl, h.2.1⟩⟩) (fun _ _ h => h) fun _ _ h => h
    · next generation hprepared =>
      have hprovides := provides_of_prepareGeneration hprepared
      refine Fallible.Triple.bindTotal (Q := fun _ =>
        Owned worker none (.opening retiring) Withheld True)
        (Fallible.Triple.modify fun s h => h.1.withdraw) fun _ => ?_
      refine Fallible.Triple.bindTotal (Q := fun _ s =>
        Owned worker none (.opening retiring) Withheld True s ∧ Unasked s)
        (Fallible.Triple.modify fun s h => ⟨h.setPttControl nofun nofun, rfl, nofun⟩) fun _ => ?_
      refine Fallible.Triple.bindTotal (Q := fun _ s =>
        (Owned worker none (.opening retiring) Withheld True s ∧ Unasked s) ∧
          s.signals.physicalPtt = none)
        (Fallible.Triple.modify fun s h => ⟨⟨h.1.publishSignals nofun, h.2⟩, rfl⟩) fun _ => ?_
      refine Fallible.Triple.bindTotal (Q := fun _ =>
        Owned worker (some generation.wiring.ptt) (.opening retiring) Withheld True)
        (Fallible.Triple.modify fun s h => h.1.1.open h.1.2.1 h.2 hprovides) fun _ => ?_
      exact (live_setPhase (.serving retiring) nofun (fun _ => rfl) fun _ => False.elim).imp (fun _ h => ⟨h, nofun⟩)
        (fun _ _ h => h) fun _ _ h => h

/-- The rig is closed behind an unkey. -/
theorem Owned.closeRig (h : Owned worker selected phase p r s)
    (hunkeyed : Withdrawn (Unkeys worker s.service.log) s) :
    Owned worker selected phase p r (s.record .rigClosed) :=
  ⟨h.chosen, h.keyed, h.provider, h.held, h.phase, h.permitted, h.off, h.cm119,
    ⟨nofun, nofun, fun _ => hunkeyed⟩, h.disciplined⟩

/-- A failed admission keeps the rig until every bank was confirmed off. -/
theorem live_cleanAdmission {error : CallError} {rigOpen writable retiring : Bool} :
    Fallible.Triple (fun s => Owned worker none (.cleaning error rigOpen writable retiring) Served True s ∧
        Unasked s)
      (cleanAdmission worker rigOpen writable retiring moment rig) (fun _ => Live worker)
      fun _ => Live worker := by
  unfold cleanAdmission
  have hlive : ∀ sources s, Owned worker none (.cleaning error rigOpen writable retiring) Served True s ∧
      Withdrawn sources s → Live worker s := fun sources s h => h.1.live nofun fun _ => ⟨rfl, h.2.1⟩
  refine Fallible.Triple.bindTotal (Fallible.Triple.attempt (R := fun gpio s =>
    Owned worker none (.cleaning error rigOpen writable retiring) Served True s ∧ Unasked s ∧
      (gpio.isOk = true → Withdrawn (BankOf worker) s))
    (triple_confirmed.imp (fun _ h => h) (fun _ _ h => ⟨h.1, ⟨h.2.1, nofun⟩, fun _ => h.2⟩)
      fun _ _ h => ⟨h.1, h.2, nofun⟩)) fun gpio => ?_
  simp only
  refine Fallible.Triple.bind (Q := fun _ s =>
    Owned worker none (.cleaning error rigOpen writable retiring) Served True s ∧
      Withdrawn (BankOf worker) s)
    (Fallible.Triple.of (fun _ hok s h => ⟨h.1, h.2.2 (by rw [hok]; rfl)⟩)
      fun _ _ s h => hlive _ s ⟨h.1, h.2.1⟩) fun _ => ?_
  refine Fallible.Triple.bind (Fallible.Triple.of (fun _ _ _ h => h) fun _ _ => hlive _) fun _ => ?_
  refine Fallible.Triple.bindTotal (Q := fun _ =>
    Owned worker none (.cleaning error rigOpen writable retiring) Served True)
    (Fallible.Triple.whenever (fun _ => Fallible.Triple.modify fun s h => ?_) fun _ s h => h.1)
    fun _ => ?_
  · refine h.1.closeRig ⟨h.2.1, fun source hsource => ?_⟩
    cases source with
    | rig =>
      have hnone : selectedSource s.service.log = some .rig := hsource
      rw [h.1.chosen] at hnone
      cases hnone
    | usb => exact h.2.2 .usb hsource
    | parallel => exact h.2.2 .parallel hsource
  · refine Fallible.Triple.bindTotal (Q := fun _ =>
      Owned worker none (.cleaning error rigOpen writable retiring) Served True)
      (Fallible.Triple.modify fun s h => h.withdraw) fun _ => ?_
    exact (live_setPhase (.serving retiring) nofun (fun _ => rfl) fun _ h => h).imp (fun _ h => ⟨h, nofun⟩) (fun _ _ h => h)
      fun _ _ h => h

/-! ## Devices -/

/-- The openings are no PTT. -/
theorem follows_openings {control : PhysicalPttControl} :
    ∀ e ∈ openings devices, Follows control e := by
  intro e he
  unfold openings at he
  rcases List.mem_append.mp he with he | he
  · split at he
    · obtain rfl := List.mem_singleton.mp he
      exact ⟨nofun, rfl⟩
    · cases he
  · split at he
    · obtain rfl := List.mem_singleton.mp he
      exact ⟨nofun, rfl⟩
    · cases he

/-- The devices were opened as the plan says, and nothing else was done with them. -/
theorem emits_reopenSite {s s' : Service} {result : Except ServiceFailure Unit}
    (hrun : reopenSite worker devices answers s = some (result, s')) :
    devices.cm119.isSome = worker.plan.cm119.isSome ∧
      Emits s.control { s with devices } s' := by
  unfold reopenSite at hrun
  split at hrun
  · next hopen =>
    obtain ⟨⟨outcome, next⟩, hsite, hout⟩ := Option.map_eq_some_iff.mp hrun
    obtain ⟨-, rfl⟩ := Prod.mk.inj hout
    simp only [ServiceDevices.justOpened, Bool.and_eq_true, beq_iff_eq] at hopen
    exact ⟨hopen.1.1.1, rfl, cm119_prepareSite _ _ _ hsite, openings devices, rfl, follows_openings⟩
  · cases hrun

/-- The service with devices that are about to be opened. -/
theorem Owned.setDevices (h : Owned worker selected phase p r s)
    (hdevices : devices.cm119.isSome = worker.plan.cm119.isSome) :
    Owned worker selected phase p r { s with service := { s.service with devices } } :=
  h.same rfl rfl (hdevices.trans h.cm119.symm) rfl rfl rfl rfl rfl

/-- Devices that were opened to retire. -/
theorem Owned.opened (h : Owned worker selected phase p r s)
    (hdevices : devices.cm119.isSome = worker.plan.cm119.isSome) :
    Owned worker selected phase p r { s with
      service := { s.service with devices, log := openings devices ++ s.service.log } } := by
  have hemits : Emits s.service.control { s.service with devices }
      { s.service with devices, log := openings devices ++ s.service.log } :=
    ⟨rfl, rfl, openings devices, rfl, follows_openings⟩
  exact (h.setDevices hdevices).emits hemits

theorem owned_reopenSite :
    Fallible.Keeps (Owned worker selected phase p r) (RemoteCycle.gpio (reopenSite worker devices answers)) :=
  Fallible.Triple.within fun s hs => by
    intro service hservice
    obtain rfl := hservice
    split
    · next hrun =>
      obtain ⟨hdevices, hemits⟩ := emits_reopenSite hrun
      exact (hs.setDevices hdevices).emits hemits
    · next hrun =>
      obtain ⟨hdevices, hemits⟩ := emits_reopenSite hrun
      exact (hs.setDevices hdevices).emits hemits
    · trivial

theorem live_reopenDevices :
    Fallible.Triple (Owned worker selected .closed Withheld True)
      (reopenDevices worker devices answers) (fun _ => Live worker) fun _ => Live worker := by
  unfold reopenDevices
  refine Fallible.Triple.bindTotal (Q := fun _ => Owned worker selected .closed Withheld True)
    (Fallible.Triple.modify fun s h => h.unserved id) fun _ => ?_
  refine Fallible.Triple.bindTotal (Fallible.Triple.attempt (R := fun _ =>
    Owned worker selected .closed Withheld True) owned_reopenSite) fun result => ?_
  cases result with
  | ok u =>
    exact (live_setPhase (.serving false) nofun (fun _ => rfl) fun _ => False.elim).imp (fun _ h => ⟨h, nofun⟩)
      (fun _ _ h => h) fun _ _ h => h
  | error error =>
    refine Fallible.Triple.bindTotal (Q := fun _ => Owned worker selected .closed Withheld True)
      (Fallible.Triple.modify fun s h => h.setOutputs s.service.inputs _) fun _ => ?_
    exact (live_setPhase (.serving true) nofun (fun _ => rfl) fun _ => False.elim).imp (fun _ h => ⟨h, nofun⟩)
      (fun _ _ h => h) fun _ _ h => h

theorem live_rejectSite (bank : SiteBank) :
    Fallible.Triple (Owned worker selected .closed Withheld True)
      (RemoteCycle.gpio (rejectSite bank .staleGeneration)) (fun _ => Live worker)
      fun _ => Live worker := by
  have hemits : ∀ control s₀, Fallible.Keeps (Emits control s₀) (rejectSite bank .staleGeneration) :=
    fun _ _ => emits_modify (fun _ => rfl) (fun _ => rfl) fun _ => rfl
  exact (owned_gpio hemits).imp (fun _ h => h) (fun _ _ h => h.live nofun nofun)
    fun _ _ h => h.live nofun nofun

/-! ## Starting -/

/-- A worker that was not started: its station was told that nothing is permitted. -/
structure RemoteWorker.Created (s : RemoteWorker) : Prop where
  phase : s.phase = .created
  service : s.service.control = .remote none false
  log : s.service.log = []
  generation : s.generation = none
  control : s.control = .withdrawn

theorem RemoteWorker.Created.owned (h : s.Created)
    (hdevices : devices.cm119.isSome = worker.plan.cm119.isSome) :
    Owned worker none .created Withheld True { s with service := { s.service with devices } } where
  chosen := by simp only [h.log]; rfl
  keyed := ⟨none, false, h.service, by simp only [h.log]; rfl, nofun⟩
  provider := fun generation heq => by rw [h.generation] at heq; cases heq
  held := fun _ _ => rfl
  phase := h.phase
  permitted := fun hpermitted => by rw [h.control] at hpermitted; cases hpermitted
  off := nofun
  cm119 := hdevices
  disciplined := by simp only [h.log]; trivial

/-- The first devices. -/
theorem triple_openFirst :
    Fallible.Triple RemoteWorker.Created (RemoteCycle.gpio (reopenSite worker devices answers))
      (fun _ s => Owned worker none .created Withheld True s ∧ Unasked s)
      fun _ s => Owned worker none .created Withheld True s ∧ Unasked s :=
  Fallible.Triple.within fun s hs => by
    have hopened : ∀ {result : Except ServiceFailure Unit} {service : Service},
        reopenSite worker devices answers s.service = some (result, service) →
        Owned worker none .created Withheld True { s with service } ∧
          Unasked { s with service } := fun {result service} hrun => by
      obtain ⟨hdevices, hemits⟩ := emits_reopenSite hrun
      refine ⟨(hs.owned hdevices).emits hemits, ?_, nofun⟩
      obtain ⟨new, hlog, hnew⟩ := hemits.log
      show lastRequest service.log = false
      rw [hlog, lastRequest_append fun e he => (hnew e he).remote]
      show lastRequest s.service.log = false
      rw [hs.log]
      rfl
    intro service hservice
    obtain rfl := hservice
    split
    · next hrun => exact hopened hrun
    · next hrun => exact hopened hrun
    · trivial

theorem live_startService :
    Fallible.Triple RemoteWorker.Created (startService worker devices answers moment)
      (fun _ => Live worker) fun _ => Live worker := by
  unfold startService
  refine Fallible.Triple.bindTotal (Fallible.Triple.attempt (R := fun _ s =>
    Owned worker none .created Withheld True s ∧ Unasked s) (triple_openFirst.bind fun _ =>
      Fallible.Keeps.whenever fun _ => withdrawn_gpio fun _ _ => emits_serviceOnce)) fun result => ?_
  cases result with
  | ok u =>
    exact (live_setPhase .starting nofun (fun _ => rfl) fun _ => False.elim).imp
      (fun _ h => ⟨h.1, fun _ => ⟨rfl, h.2.1⟩⟩) (fun _ _ h => h) fun _ _ h => h
  | error error =>
    refine Fallible.Triple.bindTotal (Q := fun _ => Owned worker none .created Withheld True)
      (Fallible.Triple.modify fun s h => h.1.same rfl rfl rfl rfl rfl rfl rfl rfl) fun _ => ?_
    exact (live_setPhase (.closing true true) nofun (fun _ => rfl) fun _ => False.elim).imp (fun _ h => ⟨h, nofun⟩)
      (fun _ _ h => h) fun _ _ h => h

/-! ## Stopping -/

/-- The rig is closed behind an unkey alone. -/
theorem owned_retireGeneration {engine close : Except CallError Unit} :
    Fallible.Keeps (Owned worker selected phase Served True)
      (retireGeneration worker setup moment rig engine close) := by
  have hserved : ∀ s, Owned worker selected phase Withheld True s →
      Owned worker selected phase Served True s := fun s h => h.imp (fun _ => False.elim) id
  unfold retireGeneration
  refine owned_withGeneration fun generation hselected hprovides => ?_
  refine Fallible.Keeps.bind (.modify fun s h => h.same rfl rfl rfl rfl rfl rfl rfl rfl) fun _ => ?_
  refine Fallible.Keeps.bind (.of _) fun _ => ?_
  split
  · exact .pure ()
  · refine Fallible.Triple.bind ((triple_unkey hselected hprovides).imp (fun _ h => h) (fun _ _ h => h)
      fun _ => hserved) fun _ => ?_
    refine Fallible.Triple.whenever (fun _ => ?_) fun _ s h => hserved s h.1
    refine Fallible.Triple.bind (Q := fun _ s => Owned worker selected phase Withheld True s ∧
      Withdrawn (Unkeyed worker generation) s)
      (Fallible.Triple.modify fun s h => ⟨h.1.setGeneration hselected hprovides, h.2⟩) fun _ => ?_
    refine Fallible.Triple.bind (Q := fun _ => Owned worker selected phase Served True)
      (Fallible.Triple.modify fun s h => ?_) fun _ => Fallible.Keeps.of close
    refine (hserved s h.1).closeRig ⟨h.2.1, fun source hsource => h.2.2 source ?_⟩
    cases source with
    | usb => exact .inl hsource
    | parallel => exact .inl hsource
    | rig =>
      have hrig : selectedSource s.service.log = some .rig := hsource
      rw [h.1.chosen, hselected] at hrig
      exact .inr ⟨rfl, Option.some.inj hrig⟩

theorem live_retireOrFail {engine close : Except CallError Unit} {managed : Bool} :
    Fallible.Triple (Owned worker selected (.stopping true managed) Served True)
      (retireOrFail worker setup moment rig engine close) (fun _ => Live worker)
      fun _ => Live worker := by
  unfold retireOrFail
  refine Fallible.Triple.bindTotal (Fallible.Triple.attempt (R := fun _ =>
    Owned worker selected (.stopping true managed) Served True) owned_retireGeneration) fun result => ?_
  cases result with
  | ok u =>
    refine Fallible.Triple.modify fun s h => ?_
    have hretired : Owned worker selected (.stopping true managed) Served True
        { s with generation := none } := by
      have hprovider : ∀ generation, (none : Option RemoteGeneration) = some generation →
          selected = some generation.wiring.ptt ∧ Provides worker generation.wiring.ptt :=
        fun _ hnone => absurd hnone.symm (Option.some_ne_none _)
      exact ⟨h.chosen, h.keyed, hprovider, fun hstopped => absurd hstopped.symm Bool.false_ne_true,
        h.phase, h.permitted, h.off, h.cm119, h.disciplined⟩
    exact hretired.live nofun nofun
  | error error =>
    refine Fallible.Triple.modify fun s h => ?_
    have hwithdrawn : Owned worker selected (.stopping true managed) Served True
        (s.publishControl .withdrawn) := h.withdraw
    exact hwithdrawn.live nofun nofun

theorem live_closeLast {there managed : Bool} :
    Fallible.Triple (Owned worker selected (.closing there managed) Served True)
      (closeLast worker there managed answers) (fun _ => Live worker) fun _ => Live worker := by
  unfold closeLast
  refine Fallible.Triple.bindTotal (Fallible.Triple.attempt (R := fun _ =>
    Owned worker selected (.closing there managed) Served True)
    (Fallible.Keeps.whenever fun _ => owned_gpio fun _ _ => emits_closeOutputs)) fun closed => ?_
  refine Fallible.Triple.whenever (fun _ => ?_) fun _ s h => h.live nofun nofun
  refine Fallible.Triple.bindTotal (Q := fun _ => Owned worker selected (.closing there managed) Served True)
    (Fallible.Triple.modify fun s h => h.setOutputs _ s.service.outputs) fun _ => ?_
  exact Fallible.Triple.modify fun s h => (h.setPhase .ended nofun).live nofun nofun

/-! ## Runs -/

/-- The invariant of a run. -/
def RemoteWorker.Inv (worker : ServiceWorker) (s : RemoteWorker) : Prop := s.Created ∨ Live worker s

theorem RemoteWorker.Inv.live (h : s.Inv worker) (hphase : s.phase ≠ .created) : Live worker s :=
  h.elim (fun hcreated => absurd hcreated.phase hphase) id

theorem inv_exec {m : RemoteCycle Unit} {P : RemoteWorker → Prop}
    (hm : Fallible.Triple P m (fun _ => Live worker) fun _ => Live worker) (hs : P s)
    (hrun : s.exec m = some s') : s'.Inv worker := .inr (RemoteWorker.of_exec hm hs hrun)

/-- A change of the phase alone, or of what does not matter for PTT. -/
theorem Owned.inv (h : Owned worker selected phase phase.policy True s) (hphase : phase ≠ .created)
    (hopened : phase.unopened = false) : s.Inv worker :=
  .inr (h.live hphase fun hunopened => absurd (hopened.symm.trans hunopened) nofun)

theorem inv_step {act : RemoteAct} (h : s.Inv worker) (hstep : s.step worker setup act = some s') :
    s'.Inv worker := by
  have hlive : ∀ {phase}, s.phase = phase → phase ≠ .created → ∃ selected,
      Owned worker selected phase phase.policy True s ∧
        (phase.unopened = true → selected = none ∧ lastRequest s.service.log = false) := by
    rintro _ rfl hphase
    exact (h.live hphase).2
  unfold RemoteWorker.step at hstep
  split at hstep
  · next hphase =>
    rcases h with hcreated | hstarted
    · exact inv_exec live_startService hcreated hstep
    · exact absurd hphase hstarted.1
  · next hphase =>
    obtain ⟨selected, howned, hunopened⟩ := hlive hphase nofun
    obtain ⟨rfl, hunasked⟩ := hunopened rfl
    exact inv_exec live_confirmStart ⟨howned, hunasked, nofun⟩ hstep
  · next hphase =>
    obtain ⟨selected, howned, hunopened⟩ := hlive hphase nofun
    obtain ⟨rfl, hunasked⟩ := hunopened rfl
    exact inv_exec live_openGeneration ⟨howned, hunasked, nofun⟩ hstep
  · next hphase =>
    obtain ⟨selected, howned, hunopened⟩ := hlive hphase nofun
    obtain ⟨rfl, hunasked⟩ := hunopened rfl
    exact inv_exec live_cleanAdmission ⟨howned, hunasked, nofun⟩ hstep
  · next hphase =>
    obtain ⟨selected, howned, -⟩ := hlive hphase nofun
    exact inv_exec live_remoteCycle howned hstep
  · next hphase =>
    obtain ⟨selected, howned, -⟩ := hlive hphase nofun
    exact inv_exec live_retireCycle howned hstep
  · next hphase =>
    obtain ⟨selected, howned, -⟩ := hlive hphase nofun
    exact inv_exec live_reopenDevices howned hstep
  · next hphase =>
    obtain ⟨selected, howned, -⟩ := hlive hphase nofun
    obtain rfl := Option.some.inj hstep
    exact ((howned.unserved id).setOutputs _ s.service.outputs).inv nofun rfl
  · next hphase =>
    obtain ⟨selected, howned, -⟩ := hlive hphase nofun
    exact inv_exec (live_rejectSite _) howned hstep
  · next retiring hphase =>
    obtain ⟨selected, howned, -⟩ := hlive hphase nofun
    obtain rfl := Option.some.inj hstep
    exact (howned.setPhase (.stopping true _) nofun).inv nofun rfl
  · next hphase =>
    obtain ⟨selected, howned, -⟩ := hlive hphase nofun
    obtain rfl := Option.some.inj hstep
    have hserved : Owned worker selected .closed Served True s := howned.imp (fun _ => False.elim) id
    exact (hserved.setPhase (.stopping false _) nofun).inv nofun rfl
  · next hphase =>
    obtain ⟨selected, howned, -⟩ := hlive hphase nofun
    split at hstep
    · next hopen =>
      simp only [ServiceDevices.justOpened, Bool.and_eq_true, beq_iff_eq] at hopen
      obtain rfl := Option.some.inj hstep
      exact ((howned.opened hopen.2.1.1.1).setPhase (.stopping true _) nofun).inv nofun rfl
    · cases hstep
  · next hphase =>
    obtain ⟨selected, howned, -⟩ := hlive hphase nofun
    exact inv_exec live_retireOrFail howned hstep
  · next hphase =>
    obtain ⟨selected, howned, -⟩ := hlive hphase nofun
    split at hstep
    · obtain rfl := Option.some.inj hstep
      exact ((howned.setOutputs s.service.inputs _).setPhase (.closing _ _) nofun).inv nofun rfl
    · cases hstep
  · next hphase =>
    obtain ⟨selected, howned, -⟩ := hlive hphase nofun
    exact inv_exec live_closeLast howned hstep
  · cases hstep

theorem inv_inductive (worker : ServiceWorker) (setup : RemoteSetup) :
    (remoteWorkers worker setup).Inductive (fun _ _ => True) (RemoteWorker.Inv worker) where
  init s hs := by
    obtain ⟨outputs, devices, next, inputs, signals, rfl⟩ := hs
    exact .inl ⟨rfl, rfl, rfl, rfl, rfl⟩
  step _ _ _ h _ hstep := inv_step h hstep

/-- **A remote owner keys one provider**, whatever the engine calls and whichever calls fail: each
event may follow those before it, and transmission is permitted only where the service of the cycle
succeeded. -/
theorem disciplined_of_reach (worker : ServiceWorker) (setup : RemoteSetup) (s : RemoteWorker)
    (h : (remoteWorkers worker setup).Reach s) :
    Disciplined worker s.service.log ∧ (s.control.transmitPermitted = true → s.served = true) := by
  rcases (inv_inductive worker setup).reach h with hcreated | ⟨-, selected, howned, -⟩
  · rw [hcreated.log, hcreated.control]
    exact ⟨trivial, nofun⟩
  · refine ⟨howned.disciplined, fun hpermitted => ?_⟩
    have hpolicy := (howned.permitted hpermitted).1
    revert hpolicy
    cases s.phase <;> first | exact id | exact False.elim

/-! ## A rig that is keyed through the CM119 -/

/-- An ordinary worker with an audio adapter. -/
def rigWorker : ServiceWorker where
  native := false
  plan := ⟨some (cm119Plan .dudeUsb (fun _ => .outputLow) none), none, false⟩

/-- The CM119 keys the radio that the rig tunes. -/
def rigSetup : RemoteSetup where
  backend := .hamlib
  pttSource := some .usb
  usbAudio := true
  pollIntervalMs := 100
  physicalDuplex := false

/-- A worker that has opened nothing. -/
def rigStart : RemoteWorker where
  service := {
    outputs := (OutputState.new 1 rigWorker.plan none).1
    devices := ⟨none, none, false⟩
    next := 3
    control := .remote none false
    inputs := HardwareInputs.none
    log := [] }
  control := .withdrawn
  signals := ⟨none, true, none⟩
  tune := false
  generation := none
  accepting := true
  ready := false
  phase := .created
  served := false

theorem init_rigStart : (remoteWorkers rigWorker rigSetup).init rigStart :=
  ⟨(OutputState.new 1 rigWorker.plan none).1, ⟨none, none, false⟩, 3, HardwareInputs.none,
    ⟨none, true, none⟩, rfl⟩

/-- The CM119 answers that its PTT is at this level. -/
def rigMoment (ptt : Bool) : Moment where
  logicalPtt := false
  receiveClipEvents := 0
  nowMs := 0
  answers := { OutputRun.allOk with statisticsCm119 := .ok ⟨true, ptt⟩ }

/-- A rig that reports an inactive PTT. -/
def rigSilent : RigAnswers := ⟨.ok (), .ok 0⟩

/-- The engine keys the radio, and permits transmission. -/
def rigService : RemoteService where
  confirm := rigMoment false
  confirmRig := rigSilent
  calls := [.setPtt true (rigMoment true) rigSilent]
  result := .ok ()
  now := 0
  carrier := .ok 0
  idle := rigSilent
  snapshot := .ok ⟨true, false, true, false, 1, false, 0⟩
  ctcssRequested := false
  gate := .ok ()

/-- The worker opens its generation, and serves it once. -/
def rigServing : List RemoteAct :=
  [.start ⟨some (.open 0 0), none, false⟩ OutputRun.allOk (rigMoment false),
    .confirm (rigMoment false),
    .open ⟨.ok none, OutputRun.allOk, .ok (), true, true, .ok (.open, false), .ok (), .ok ⟨0, false⟩⟩,
    .cycle ⟨rigService, (rigMoment false, rigSilent), [], rigMoment true, (rigMoment false, rigSilent)⟩]

/-- The CM119 was keyed, and transmission is permitted. -/
theorem disciplined_of_rig : ∃ s : RemoteWorker,
    ServiceEvent.published .cm119 3 0 true ∈ s.service.log ∧ s.control.transmitPermitted = true ∧
    Disciplined rigWorker s.service.log ∧ s.served = true := by
  have hserving : ((remoteWorkers rigWorker rigSetup).run rigStart rigServing).any (fun s =>
      s.service.log.contains (.published .cm119 3 0 true) && s.control.transmitPermitted) = true := by
    decide +kernel
  obtain ⟨s, hrun, hboth⟩ := (Option.any_eq_true _ _).mp hserving
  rw [Bool.and_eq_true, List.contains_iff_mem] at hboth
  obtain ⟨hdisciplined, hserved⟩ :=
    disciplined_of_reach rigWorker rigSetup s ⟨_, _, init_rigStart, hrun⟩
  exact ⟨s, hboth.1, hboth.2, hdisciplined, hserved hboth.2⟩

/-- The rig is closed though it never confirmed that it is off: it is not the provider of PTT. -/
theorem closed_of_unconfirmed : ∃ s : RemoteWorker, (remoteWorkers rigWorker rigSetup).Reach s ∧
    ServiceEvent.rigClosed ∈ s.service.log ∧
    ∀ key, ServiceEvent.confirmed .rig key ∉ s.service.log := by
  have hretired : ((remoteWorkers rigWorker rigSetup).run rigStart (rigServing ++
      [.stop, .retire (rigMoment false) rigSilent (.ok ()) (.ok ())])).any (fun s =>
      s.service.log.contains .rigClosed &&
        s.service.log.all fun | .confirmed .rig _ => false | _ => true) = true := by
    decide +kernel
  obtain ⟨s, hrun, hboth⟩ := (Option.any_eq_true _ _).mp hretired
  rw [Bool.and_eq_true, List.contains_iff_mem] at hboth
  refine ⟨s, ⟨_, _, init_rigStart, hrun⟩, hboth.1, fun key hmem => ?_⟩
  have hother := List.all_eq_true.mp hboth.2 _ hmem
  cases hother

end Driver
end UsbRadioPlus
