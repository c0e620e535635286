import UsbRadioPlus.Driver.PinExclusivity
import UsbRadioPlus.Driver.RemoteEvents

/-!
# A remote owner keys one provider

Whatever the engine calls and whichever calls fail, the worker of a radio that is tuned remotely
asserts PTT only on the provider that it selected and only behind a request for the key
(`Disciplined`). It publishes the physical PTT as off only where that provider was confirmed off since
the last request, and closes the rig only where an unkey has confirmed the banks that are there, and
the rig if that is the provider. What the station is permitted comes from a service of the engine that
succeeded in the same cycle.
-/

namespace UsbRadioPlus
namespace Driver

open Sys

variable {worker : ServiceWorker} {setup : RemoteSetup} {control : PhysicalPttControl}
  {moment : Moment} {rig : RigAnswers} {log new : List ServiceEvent} {event : ServiceEvent}
  {source : RemotePttSource} {s s' : RemoteWorker} {phase : RemotePhase} {p : Bool → Prop} {r : Prop}
  {selected : Option RemotePttSource} {generation : RemoteGeneration} {answers : DeviceAnswers}

/-! ## Discipline of the events -/

/-- The last request of a remote owner was for the key. -/
def lastRequest : List ServiceEvent → Bool
  | [] => false
  | .requested key :: _ => key
  | _ :: log => lastRequest log

/-- The provider that was selected last. -/
def selectedSource : List ServiceEvent → Option RemotePttSource
  | [] => none
  | .selected source :: _ => some source
  | _ :: log => selectedSource log

/-- The provider was confirmed off since the last request. -/
def confirmedOff (source : RemotePttSource) : List ServiceEvent → Bool
  | [] => false
  | .requested _ :: _ => false
  | .confirmed confirmed key :: log => confirmed = source && !key || confirmedOff source log
  | _ :: log => confirmedOff source log

/-- The providers that an unkey confirms: every bank that is there, and the selected one. -/
def Unkeys (worker : ServiceWorker) (log : List ServiceEvent) : RemotePttSource → Prop
  | .usb => worker.plan.cm119.isSome = true
  | .parallel => worker.plan.parallel.isSome = true
  | .rig => selectedSource log = some .rig

/-- The event may follow these. -/
structure Allowed (worker : ServiceWorker) (event : ServiceEvent) (log : List ServiceEvent) : Prop where
  keyed : ∀ source, event.asserts = some source →
    selectedSource log = some source ∧ lastRequest log = true
  off : event = .physical (some false) → ∃ source, selectedSource log = some source ∧
    confirmedOff source log = true
  closed : event = .rigClosed → lastRequest log = false ∧
    ∀ source, Unkeys worker log source → confirmedOff source log = true

/-- Every event may follow those before it. -/
def Disciplined (worker : ServiceWorker) : List ServiceEvent → Prop
  | [] => True
  | event :: log => Allowed worker event log ∧ Disciplined worker log

theorem lastRequest_cons (h : event.remote = false) : lastRequest (event :: log) = lastRequest log := by
  cases event <;> first | rfl | cases h

theorem selectedSource_cons (h : event.remote = false) :
    selectedSource (event :: log) = selectedSource log := by
  cases event <;> first | rfl | cases h

theorem confirmedOff_cons (h : event.remote = false) (hoff : confirmedOff source log = true) :
    confirmedOff source (event :: log) = true := by
  cases event with
  | confirmed => simp [confirmedOff, hoff]
  | _ => first | exact hoff | cases h

theorem lastRequest_append (h : ∀ e ∈ new, e.remote = false) :
    lastRequest (new ++ log) = lastRequest log := by
  induction new with
  | nil => rfl
  | cons event new ih =>
    exact (lastRequest_cons (h event List.mem_cons_self)).trans
      (ih fun e he => h e (List.mem_cons_of_mem _ he))

theorem selectedSource_append (h : ∀ e ∈ new, e.remote = false) :
    selectedSource (new ++ log) = selectedSource log := by
  induction new with
  | nil => rfl
  | cons event new ih =>
    exact (selectedSource_cons (h event List.mem_cons_self)).trans
      (ih fun e he => h e (List.mem_cons_of_mem _ he))

theorem confirmedOff_append (h : ∀ e ∈ new, e.remote = false) (hoff : confirmedOff source log = true) :
    confirmedOff source (new ++ log) = true := by
  induction new with
  | nil => exact hoff
  | cons event new ih =>
    exact confirmedOff_cons (h event List.mem_cons_self)
      (ih fun e he => h e (List.mem_cons_of_mem _ he))

theorem confirmedOff_of_mem (h : ∀ e ∈ new, e.remote = false)
    (hmem : ServiceEvent.confirmed source false ∈ new) : confirmedOff source (new ++ log) = true := by
  induction new with
  | nil => cases hmem
  | cons event new ih =>
    rcases List.mem_cons.mp hmem with rfl | hmem
    · simp [confirmedOff]
    · exact confirmedOff_cons (h event List.mem_cons_self)
        (ih (fun e he => h e (List.mem_cons_of_mem _ he)) hmem)

/-- What the GPIO service does under a control that keys as the last request says. -/
theorem disciplined_append (hnew : ∀ e ∈ new, Follows control e)
    (hkeys : ∀ source, control.Keys source → selectedSource log = some source ∧ lastRequest log = true)
    (h : Disciplined worker log) : Disciplined worker (new ++ log) := by
  induction new with
  | nil => exact h
  | cons event new ih =>
    have hrest : ∀ e ∈ new, Follows control e := fun e he => hnew e (List.mem_cons_of_mem _ he)
    have hquiet : ∀ e ∈ new, e.remote = false := fun e he => (hrest e he).remote
    have hevent := hnew event List.mem_cons_self
    refine ⟨⟨fun source hs => ?_, ?_, ?_⟩, ih hrest⟩
    · show selectedSource (new ++ log) = _ ∧ lastRequest (new ++ log) = _
      rw [selectedSource_append hquiet, lastRequest_append hquiet]
      exact hkeys source (hevent.asserts source hs)
    · rintro rfl
      cases hevent.remote
    · rintro rfl
      cases hevent.remote

/-! ## The invariant

`p` relates a permission to transmit to the service of the cycle, `r` says that the published signals
are about the last request. -/

/-- The permission is that of the cycle. -/
def Served (served : Bool) : Prop := served = true

/-- There is no permission. -/
def Withheld (_ : Bool) : Prop := False

/-- The permission may be that of an earlier cycle. -/
def Stale (_ : Bool) : Prop := True

/-- The provider is there. -/
def Provides (worker : ServiceWorker) : RemotePttSource → Prop
  | .usb => worker.plan.cm119.isSome = true
  | .parallel => worker.plan.parallel.isSome = true
  | .rig => True

/-- What the computations of the worker keep; `selected` is the provider that was selected. -/
structure Owned (worker : ServiceWorker) (selected : Option RemotePttSource) (phase : RemotePhase)
    (p : Bool → Prop) (r : Prop) (s : RemoteWorker) : Prop where
  chosen : selectedSource s.service.log = selected
  keyed : ∃ source key, s.service.control = .remote source key ∧
    lastRequest s.service.log = key ∧ (key = true → selected = source)
  provider : ∀ generation, s.generation = some generation →
    selected = some generation.wiring.ptt ∧ Provides worker generation.wiring.ptt
  held : phase.stopped = false → s.generation = none → selected = none
  phase : s.phase = phase
  permitted : s.control.transmitPermitted = true → p s.served ∧ selected.isSome = true
  off : r → selected.isSome = true → s.signals.physicalPtt = some false →
    ∃ source, selected = some source ∧ confirmedOff source s.service.log = true
  cm119 : s.service.devices.cm119.isSome = worker.plan.cm119.isSome
  disciplined : Disciplined worker s.service.log

theorem Owned.imp {p' : Bool → Prop} {r' : Prop} (h : Owned worker selected phase p r s)
    (hp : ∀ served, p served → p' served) (hr : r' → r) : Owned worker selected phase p' r' s where
  chosen := h.chosen
  keyed := h.keyed
  provider := h.provider
  held := h.held
  phase := h.phase
  permitted := fun hpermitted => (h.permitted hpermitted).imp_left (hp s.served)
  off := fun h' => h.off (hr h')
  cm119 := h.cm119
  disciplined := h.disciplined

/-- A provider that the control keys was asked for. -/
theorem Owned.keys (h : Owned worker selected phase p r s) (hkeys : s.service.control.Keys source) :
    selected = some source ∧ lastRequest s.service.log = true := by
  obtain ⟨_, key, hcontrol, hlast, hselected⟩ := h.keyed
  obtain ⟨rendered, hkey⟩ := hkeys
  rw [hcontrol] at hkey
  simp only [PhysicalPttControl.keyFor, Bool.and_eq_true, beq_iff_eq] at hkey
  exact ⟨(hselected hkey.2).trans hkey.1, hlast.trans hkey.2⟩

/-- A computation of the GPIO service. -/
theorem Owned.emits (h : Owned worker selected phase p r s) {service : Service}
    (hemits : Emits s.service.control s.service service) :
    Owned worker selected phase p r { s with service } := by
  obtain ⟨new, hlog, hnew⟩ := hemits.log
  have hquiet : ∀ e ∈ new, e.remote = false := fun e he => (hnew e he).remote
  refine ⟨?_, ?_, h.provider, h.held, h.phase, h.permitted, fun hr hsome hoff => ?_, hemits.cm119.trans h.cm119, ?_⟩
  · rw [hlog, selectedSource_append hquiet]
    exact h.chosen
  · obtain ⟨source, key, hcontrol, hlast, hkey⟩ := h.keyed
    refine ⟨source, key, hemits.unchanged.trans hcontrol, ?_, hkey⟩
    rw [hlog, lastRequest_append hquiet, hlast]
  · obtain ⟨source, hsource, hconfirmed⟩ := h.off hr hsome hoff
    refine ⟨source, hsource, ?_⟩
    rw [hlog]
    exact confirmedOff_append hquiet hconfirmed
  · rw [hlog]
    refine disciplined_append hnew (fun source hkeys => ?_) h.disciplined
    exact ⟨h.chosen.trans (h.keys hkeys).1, (h.keys hkeys).2⟩

/-- An event that is neither a request nor a publication. -/
theorem Owned.record (h : Owned worker selected phase p r s) (hquiet : event.remote = false)
    (hevent : event.asserts = none) : Owned worker selected phase p r (s.record event) := by
  have hemits : Emits s.service.control s.service (s.service.record event) :=
    (emits_refl rfl).record ⟨fun source hs => (by rw [hevent] at hs; cases hs), hquiet⟩
  exact h.emits hemits

theorem Owned.publishSignals (h : Owned worker selected phase p r s) {signals : RemoteHardwareSignals}
    (hoff : signals.physicalPtt = some false →
      ∃ source, selected = some source ∧ confirmedOff source s.service.log = true) :
    Owned worker selected phase p True (s.publishSignals signals) := by
  refine ⟨h.chosen, h.keyed, h.provider, h.held, h.phase, h.permitted, fun _ _ => hoff, h.cm119,
    ⟨⟨nofun, fun heq => ?_, nofun⟩, h.disciplined⟩⟩
  obtain ⟨source, hsource, hconfirmed⟩ := hoff (ServiceEvent.physical.inj heq)
  exact ⟨source, h.chosen.trans hsource, hconfirmed⟩

/-- A request. The signals that were published may be about the one before it. -/
theorem Owned.setPttControl {r' : Prop} (h : Owned worker selected phase p r s)
    {ptt : Option RemotePttSource} {key : Bool} (hkey : key = true → selected = ptt)
    (hr : r' → selected.isSome = true → s.signals.physicalPtt ≠ some false) :
    Owned worker selected phase p r' (s.setPttControl ptt key) :=
  ⟨h.chosen, ⟨ptt, key, rfl, rfl, hkey⟩, h.provider, h.held, h.phase, h.permitted,
    fun hr' hsome hoff => absurd hoff (hr hr' hsome), h.cm119, ⟨⟨nofun, nofun, nofun⟩, h.disciplined⟩⟩

theorem Owned.setGeneration (h : Owned worker selected phase p r s)
    (hselected : selected = some generation.wiring.ptt)
    (hprovides : Provides worker generation.wiring.ptt) :
    Owned worker selected phase p r (s.setGeneration generation) :=
  ⟨h.chosen, h.keyed, fun _ heq => Option.some.inj heq ▸ ⟨hselected, hprovides⟩, nofun, h.phase,
    h.permitted, h.off, h.cm119, h.disciplined⟩

theorem Owned.setEncoder (h : Owned worker selected phase p r s) (active : Bool) :
    Owned worker selected phase p r (s.setEncoder active) :=
  ⟨h.chosen, h.keyed, h.provider, h.held, h.phase, h.permitted, h.off, h.cm119, h.disciplined⟩

/-- Nothing is permitted. -/
theorem Owned.withdraw {p' : Bool → Prop} (h : Owned worker selected phase p r s) :
    Owned worker selected phase p' r (s.publishControl .withdrawn) :=
  ⟨h.chosen, h.keyed, h.provider, h.held, h.phase, nofun, h.off, h.cm119, h.disciplined⟩

/-! ## PTT -/

theorem owned_gpio {α : Type} {m : Cycle α} (hm : ∀ control s₀, Fallible.Keeps (Emits control s₀) m) :
    Fallible.Keeps (Owned worker selected phase p r) (RemoteCycle.gpio m) :=
  Fallible.Triple.within fun s hs => (hm s.service.control s.service).imp
    (fun service (h : service = s.service) => h ▸ emits_refl rfl) (fun _ _ h => hs.emits h)
    fun _ _ h => hs.emits h

/-- The key was withdrawn, and these providers were confirmed off since. -/
def Withdrawn (sources : RemotePttSource → Prop) (s : RemoteWorker) : Prop :=
  lastRequest s.service.log = false ∧
    ∀ source, sources source → confirmedOff source s.service.log = true

/-- The banks that are there. -/
def BankOf (worker : ServiceWorker) : RemotePttSource → Prop
  | .usb => worker.plan.cm119.isSome = true
  | .parallel => worker.plan.parallel.isSome = true
  | .rig => False

theorem triple_confirmed :
    Fallible.Triple (fun s => Owned worker selected phase p r s ∧ Withdrawn (fun _ => False) s)
      (RemoteCycle.gpio (serviceRemotePtt worker moment))
      (fun _ s => Owned worker selected phase p r s ∧ Withdrawn (BankOf worker) s)
      fun _ s => Owned worker selected phase p r s ∧ Withdrawn (fun _ => False) s := by
  refine Fallible.Triple.within fun s hs => ?_
  have hlast : ∀ {service : Service}, Emits s.service.control s.service service →
      lastRequest service.log = false := by
    intro service h
    obtain ⟨new, hlog, hnew⟩ := h.log
    rw [hlog, lastRequest_append fun e he => (hnew e he).remote]
    exact hs.2.1
  have hconfirm : Fallible.Triple (Emits s.service.control s.service)
      (serviceRemotePtt worker moment) _ _ := triple_serviceRemotePtt_emits
  refine hconfirm.imp (fun service (h : service = s.service) => h ▸ emits_refl rfl)
    (fun _ service h => ⟨hs.1.emits h.1, hlast h.1, fun source hbank => ?_⟩)
    fun _ service h => ⟨hs.1.emits h, hlast h, nofun⟩
  have hbanked : Banked worker s.service source := by
    cases source with
    | rig => exact hbank
    | usb => exact hs.1.cm119.trans hbank
    | parallel => exact hbank
  obtain ⟨new, hlog, hmem⟩ := h.2 source hbanked
  obtain ⟨new', hlog', hnew⟩ := h.1.log
  obtain rfl := List.append_cancel_right (hlog.symm.trans hlog')
  obtain ⟨ptt, key, hcontrol, hkey, -⟩ := hs.1.keyed
  have hoff : s.service.control.keyFor source false = false := by
    rw [hcontrol, ← hkey, hs.2.1]
    simp [PhysicalPttControl.keyFor]
  rw [hoff] at hmem
  show confirmedOff source service.log = true
  rw [hlog]
  exact confirmedOff_of_mem (fun e he => (hnew e he).remote) hmem

theorem Withdrawn.record {sources : RemotePttSource → Prop} (h : Withdrawn sources s)
    (hquiet : event.remote = false) : Withdrawn sources (s.record event) :=
  ⟨(lastRequest_cons hquiet).trans h.1, fun source hs => confirmedOff_cons hquiet (h.2 source hs)⟩

theorem owned_keyRig (keyed : Bool) :
    Fallible.Keeps (Owned worker selected phase p r) (keyRig keyed rig) := by
  unfold keyRig
  refine .bind (.of _) fun _ => .bind (.of _) fun actual => .bind (.of _) fun _ => ?_
  exact .modify fun s h => h.record rfl rfl

theorem owned_needRig : Fallible.Keeps (Owned worker selected phase p r) (RemoteCycle.needRig generation) :=
  .whenever fun _ => .fail _

theorem owned_keyProvider (keyed : Bool) :
    Fallible.Keeps (Owned worker selected phase p r) (keyProvider generation keyed rig) := by
  unfold keyProvider
  split
  · exact .bind owned_needRig fun _ => .attempt (owned_keyRig keyed)
  · exact .pure _

/-- The provider and the banks that are there. -/
def Unkeyed (worker : ServiceWorker) (generation : RemoteGeneration) (source : RemotePttSource) : Prop :=
  BankOf worker source ∨ source = .rig ∧ generation.wiring.ptt = .rig

/-- The rig confirms that it is off, where it is the provider. -/
theorem triple_keyProvider_off :
    Fallible.Triple (fun s => Owned worker selected phase p r s ∧ Withdrawn (BankOf worker) s)
      (keyProvider generation false rig)
      (fun result s => Owned worker selected phase p r s ∧
        (result.isOk = true → Withdrawn (Unkeyed worker generation) s))
      fun _ s => Owned worker selected phase p r s := by
  unfold keyProvider
  split
  · next hrig =>
    refine Fallible.Triple.bind (Q := fun _ s => Owned worker selected phase p r s ∧
      Withdrawn (BankOf worker) s) (Fallible.Triple.whenever
        (fun _ => Fallible.Triple.fail fun _ h => h.1) fun _ _ h => h) fun _ => ?_
    refine Fallible.Triple.attempt ?_
    unfold keyRig
    refine Fallible.Triple.bind (Fallible.Triple.of (fun _ _ _ h => h) fun _ _ _ h => ⟨h.1, nofun⟩)
      fun _ => ?_
    refine Fallible.Triple.bind (Fallible.Triple.of (fun _ _ _ h => h) fun _ _ _ h => ⟨h.1, nofun⟩)
      fun actual => ?_
    refine Fallible.Triple.bind (Fallible.Triple.of (fun _ _ _ h => h) fun _ _ _ h => ⟨h.1, nofun⟩)
      fun _ => ?_
    refine Fallible.Triple.modify fun s h => ⟨h.1.record rfl rfl, fun _ => ?_⟩
    have hbanks : Withdrawn (BankOf worker) (s.record (.confirmed .rig false)) := h.2.record rfl
    refine ⟨hbanks.1, fun source hsource => ?_⟩
    rcases hsource with hbank | ⟨rfl, -⟩
    · exact hbanks.2 source hbank
    · show confirmedOff .rig (.confirmed .rig false :: s.service.log) = true
      simp [confirmedOff]
  · next hrig =>
    refine Fallible.Triple.pure fun s h => ⟨h.1, fun _ => ⟨h.2.1, fun source hsource => ?_⟩⟩
    rcases hsource with hbank | ⟨-, hptt⟩
    · exact h.2.2 source hbank
    · exact absurd hptt hrig

/-- The provider of the generation is confirmed off. -/
theorem Withdrawn.off (h : Withdrawn (Unkeyed worker generation) s)
    (hselected : selected = some generation.wiring.ptt)
    (hprovides : Provides worker generation.wiring.ptt) :
    ∃ source, selected = some source ∧ confirmedOff source s.service.log = true := by
  refine ⟨_, hselected, h.2 _ ?_⟩
  cases hptt : generation.wiring.ptt with
  | rig => exact .inr ⟨rfl, hptt⟩
  | usb =>
    rw [hptt] at hprovides
    exact .inl hprovides
  | parallel =>
    rw [hptt] at hprovides
    exact .inl hprovides

/-- The part of a withdrawal that confirms it. -/
theorem triple_confirmOff {k : RemoteCycle Unit} {Q : RemoteWorker → Prop}
    (hk : Fallible.Triple (fun s => Owned worker selected phase p r s ∧
      Withdrawn (Unkeyed worker generation) s) k (fun _ => Q) fun _ => Owned worker selected phase p r) :
    Fallible.Triple (fun s => Owned worker selected phase p r s ∧ lastRequest s.service.log = false)
      (do
        let gpio ← Fallible.attempt (RemoteCycle.gpio (serviceRemotePtt worker moment))
        let rig ← keyProvider generation false rig
        Fallible.of gpio
        Fallible.of rig
        k)
      (fun _ => Q) fun _ => Owned worker selected phase p r := by
  refine Fallible.Triple.bindTotal (Fallible.Triple.attempt (R := fun gpio s =>
    Owned worker selected phase p r s ∧ (gpio.isOk = true → Withdrawn (BankOf worker) s))
    (triple_confirmed.imp (fun s h => ⟨h.1, h.2, nofun⟩) (fun _ _ h => ⟨h.1, fun _ => h.2⟩)
      fun _ _ h => ⟨h.1, nofun⟩)) fun gpio => ?_
  cases gpio with
  | error failure =>
    refine Fallible.Triple.bind ((owned_keyProvider false).imp (fun _ h => h.1) (fun _ _ h => h)
      fun _ _ h => h) fun result => ?_
    exact fun s h => h
  | ok u =>
    refine Fallible.Triple.bind (triple_keyProvider_off.imp (fun s h => ⟨h.1, h.2 rfl⟩)
      (fun _ _ h => h) fun _ _ h => h) fun result => ?_
    refine Fallible.Triple.bind (Fallible.Triple.of (fun _ _ _ h => h) fun _ _ _ h => h.1) fun _ => ?_
    cases result with
    | error failure => exact fun s h => h.1
    | ok u => exact fun s h => hk s ⟨h.1, h.2 rfl⟩

theorem owned_setPtt (hselected : selected = some generation.wiring.ptt)
    (hprovides : Provides worker generation.wiring.ptt) (keyed : Bool) :
    Fallible.Keeps (Owned worker selected phase p True) (setPtt worker generation keyed moment rig) := by
  unfold setPtt
  refine .bind (.whenever fun _ => .modify fun s h => h.setEncoder false) fun _ => ?_
  refine Fallible.Triple.bind (Q := fun _ s => Owned worker selected phase p True s ∧
    s.signals.physicalPtt = none) (Fallible.Triple.modify fun s h => ⟨h.publishSignals nofun, rfl⟩)
    fun _ => ?_
  refine Fallible.Triple.bind (Q := fun _ s => Owned worker selected phase p True s ∧
    lastRequest s.service.log = keyed) (Fallible.Triple.modify fun s h =>
      ⟨h.1.setPttControl (fun _ => hselected) fun _ _ => (by rw [h.2]; simp), rfl⟩) fun _ => ?_
  cases keyed with
  | true =>
    refine Fallible.Triple.bind (Q := fun _ => Owned worker selected phase p True)
      ((Fallible.Keeps.attempt (owned_gpio fun _ _ => emits_serviceRemotePtt)).imp
        (fun _ h => h.1) (fun _ _ h => h) fun _ _ h => h) fun gpio => ?_
    refine Fallible.Keeps.bind (.of gpio) fun _ => ?_
    refine .bind (owned_keyProvider true) fun result => .bind (.of gpio) fun _ => ?_
    exact .bind (.of result) fun _ => .modify fun s h => h.publishSignals nofun
  | false =>
    exact triple_confirmOff (Fallible.Triple.modify fun s h =>
      h.1.publishSignals fun _ => h.2.off hselected hprovides)

theorem owned_transmitIdle (hselected : selected = some generation.wiring.ptt) :
    Fallible.Keeps (Owned worker selected phase p True) (transmitIdle generation rig) := by
  unfold transmitIdle
  split
  · exact .get fun s _ => .pure _
  · next hptt =>
    refine .bind owned_needRig fun _ => ?_
    simp only
    cases rig.getPtt with
    | error error =>
      refine .bind (.whenever nofun) fun _ => .bind (.modify fun s h => ?_) fun _ => .bind (.of _)
        fun _ => .pure _
      exact h.publishSignals nofun
    | ok value =>
      refine Fallible.Triple.bind (Q := fun _ s => Owned worker selected phase p True s ∧
        (decide (value ≠ 0) = false → confirmedOff .rig s.service.log = true))
        (Fallible.Triple.modify fun s h => ⟨h.record rfl rfl, fun hoff => ?_⟩) fun _ => ?_
      · show confirmedOff .rig (.confirmed .rig (decide (value ≠ 0)) :: s.service.log) = true
        simp [confirmedOff, hoff]
      · refine Fallible.Triple.bind (Q := fun _ => Owned worker selected phase p True)
          (Fallible.Triple.modify fun s h => h.1.publishSignals fun hoff => ?_) fun _ =>
          Fallible.Keeps.bind (.of _) fun _ => .pure _
        exact ⟨.rig, hselected.trans (congrArg some (not_not.mp hptt)), h.2 (Option.some.inj hoff)⟩

/-- An unkey that succeeds has confirmed every bank that is there, and the provider. -/
theorem triple_unkey (hselected : selected = some generation.wiring.ptt)
    (hprovides : Provides worker generation.wiring.ptt) :
    Fallible.Triple (Owned worker selected phase p r) (unkey worker generation moment rig)
      (fun _ s => Owned worker selected phase Withheld True s ∧ Withdrawn (Unkeyed worker generation) s)
      fun _ => Owned worker selected phase Withheld True := by
  unfold unkey
  refine Fallible.Triple.bind (Q := fun _ => Owned worker selected phase Withheld r)
    (Fallible.Triple.modify fun s h => ?_) fun _ => ?_
  · have hwithdrawn : Owned worker selected phase Withheld r ((s.setEncoder false).publishControl .withdrawn) :=
      (h.setEncoder false).withdraw
    exact ⟨hwithdrawn.chosen, hwithdrawn.keyed, hwithdrawn.provider, hwithdrawn.held, hwithdrawn.phase, nofun, hwithdrawn.off,
      hwithdrawn.cm119, hwithdrawn.disciplined⟩
  refine Fallible.Triple.bind (Q := fun _ s => Owned worker selected phase Withheld False s ∧
    lastRequest s.service.log = false) (Fallible.Triple.modify fun s h =>
      ⟨h.setPttControl nofun False.elim, rfl⟩) fun _ => ?_
  refine Fallible.Triple.bind (Q := fun _ s => Owned worker selected phase Withheld True s ∧
    lastRequest s.service.log = false) (Fallible.Triple.modify fun s h =>
      ⟨h.1.publishSignals nofun, h.2⟩) fun _ => ?_
  exact triple_confirmOff (Fallible.Triple.modify fun s h =>
    ⟨h.1.publishSignals fun _ => h.2.off hselected hprovides, h.2.1, h.2.2⟩)

/-! ## The engine -/

theorem owned_applyParallel {state : RemoteRequestState} :
    Fallible.Keeps (Owned worker selected phase p r) (applyParallel setup state answers) := by
  unfold applyParallel
  refine .bind (.whenever fun _ => .fail _) fun _ => .bind (.whenever fun _ => .fail _) fun _ => ?_
  split
  · exact owned_gpio fun _ _ => emits_outcome fun _ _ => cm119_selectChannel _ _ _ _
  · refine .bind (owned_gpio fun _ _ => Fallible.Keeps.of_exec fun s result s' hs hrun => ?_) fun _ =>
      owned_gpio fun _ _ => emits_serviceRemoteRadio nofun
    obtain ⟨-, rfl⟩ := Prod.mk.inj (Option.some.inj hrun)
    exact hs.same rfl rfl rfl

/-- The wiring of the generation stays. -/
theorem Owned.mapGeneration (h : Owned worker selected phase p r s)
    {f : RemoteGeneration → RemoteGeneration} (hf : ∀ generation, (f generation).wiring = generation.wiring) :
    Owned worker selected phase p r { s with generation := s.generation.map f } := by
  refine ⟨h.chosen, h.keyed, fun generation heq => ?_, fun hheld hnone =>
    h.held hheld (Option.map_eq_none_iff.mp hnone), h.phase, h.permitted, h.off, h.cm119, h.disciplined⟩
  obtain ⟨generation', hsome, rfl⟩ := Option.map_eq_some_iff.mp heq
  rw [hf]
  exact h.provider generation' hsome

/-- A computation on the generation that the worker holds. -/
theorem owned_withGeneration {α : Type} {f : RemoteGeneration → RemoteCycle α}
    {Q : α → RemoteWorker → Prop} {E : CallError → RemoteWorker → Prop}
    (hf : ∀ generation, selected = some generation.wiring.ptt → Provides worker generation.wiring.ptt →
      Fallible.Triple (Owned worker selected phase p r) (f generation) Q E) :
    Fallible.Triple (Owned worker selected phase p r) (withGeneration f) Q E := by
  unfold withGeneration
  refine Fallible.Triple.get fun s hs => ?_
  split
  · exact Fallible.Triple.panicked
  · next generation hgeneration =>
    obtain ⟨hselected, hprovides⟩ := hs.provider generation hgeneration
    exact (hf generation hselected hprovides).imp (fun s' h => h ▸ hs) (fun _ _ h => h)
      fun _ _ h => h

theorem owned_applyState (hselected : selected = some generation.wiring.ptt)
    (hprovides : Provides worker generation.wiring.ptt) {state : RemoteRequestState}
    {cancelled : Bool} {rig dsp : Except CallError Unit} :
    Fallible.Keeps (Owned worker selected phase p r)
      (applyState setup generation state cancelled rig dsp answers) := by
  unfold applyState
  refine .bind (.modify fun s h => h.withdraw) fun _ => .bind (.whenever fun _ => .fail _) fun _ => ?_
  refine .bind ?_ fun _ => .bind (.of _) fun _ => .modify fun s h => h.mapGeneration fun _ => rfl
  unfold applyTransport
  split
  · exact .bind (.of _) fun _ => .modify fun s h => h.setGeneration hselected hprovides
  · exact owned_applyParallel

theorem owned_call (hselected : selected = some generation.wiring.ptt)
    (hprovides : Provides worker generation.wiring.ptt) (call : BackendCall) :
    Fallible.Keeps (Owned worker selected phase p True) (call.run worker setup generation) := by
  cases call with
  | readState answer =>
    exact .bind owned_needRig fun _ => .bind (.of _) fun _ => .modify fun s h =>
      h.setGeneration hselected hprovides
  | applyState state cancelled rig dsp answers => exact owned_applyState hselected hprovides
  | setPtt keyed moment rig => exact owned_setPtt hselected hprovides keyed
  | setTune enabled =>
    exact .modify fun s h =>
      ⟨h.chosen, h.keyed, h.provider, h.held, h.phase, h.permitted, h.off, h.cm119, h.disciplined⟩
  | transmitIdle rig => exact .bind (owned_transmitIdle hselected) fun _ => .pure _
  | getSetting answer => exact .bind owned_needRig fun _ => .bind (.of _) fun _ => .pure _
  | setSetting answer => exact .bind owned_needRig fun _ => .of _

theorem owned_runCalls (calls : List BackendCall) :
    Fallible.Keeps (Owned worker selected phase p True) (runCalls worker setup calls) := by
  induction calls with
  | nil => exact .pure ()
  | cons call calls ih =>
    exact .bind (.attempt (owned_withGeneration fun _ hselected hprovides =>
      owned_call hselected hprovides call)) fun _ => ih

/-! ## Servicing -/

theorem owned_pollSignals {label : RemoteService} :
    Fallible.Keeps (Owned worker selected phase p True) (pollSignals setup label) := by
  unfold pollSignals
  refine owned_withGeneration fun generation hselected hprovides => Fallible.Keeps.whenever fun _ => ?_
  refine .bind (.whenever fun _ => .bind owned_needRig fun _ => ?_) fun _ => ?_
  · -- The carrier is published with the physical PTT that is known.
    refine .bind (.modify fun s h => ?_) fun _ => .bind (.of _) fun _ => .pure _
    exact h.publishSignals fun hoff => h.off trivial (by rw [hselected]; rfl) hoff
  · refine .bind (.whenever fun _ => .bind (owned_transmitIdle hselected) fun _ => .pure _) fun _ => ?_
    exact .modify fun s h => h.setGeneration hselected hprovides

/-- What the station is permitted comes from a service that succeeded. -/
theorem triple_publishPolicy {label : RemoteService} {snapshot : RemoteSnapshot} :
    Fallible.Triple (Owned worker selected phase p r) (publishPolicy setup label snapshot)
      (fun _ => Owned worker selected phase Served r) fun _ _ => False :=
  owned_withGeneration fun generation hselected _ => Fallible.Triple.modify fun s h =>
    ⟨h.chosen, h.keyed, h.provider, h.held, h.phase, fun hpermitted => ⟨by
      have hboth : (label.result.isOk && !snapshot.inhibited) = true := hpermitted
      exact (Bool.and_eq_true _ _ ▸ hboth).1, by rw [hselected]; rfl⟩, h.off, h.cm119, h.disciplined⟩

theorem owned_gateEncode {label : RemoteService} :
    Fallible.Keeps (Owned worker selected phase p r) (gateEncode label) := by
  unfold gateEncode
  refine owned_withGeneration fun generation hselected hprovides => Fallible.Keeps.get fun s _ => ?_
  refine .bind (.modify fun s h => h.setEncoder _) fun _ => .whenever fun _ => ?_
  exact .bind owned_needRig fun _ => .bind (.of _) fun _ => .modify fun s h =>
    h.setGeneration hselected hprovides

/-- A service of the generation: behind a failure the policy may be that of the cycle before. -/
theorem triple_serviceGeneration {label : RemoteService} :
    Fallible.Triple (Owned worker selected phase Stale True) (serviceGeneration worker setup label)
      (fun _ => Owned worker selected phase Served True) fun _ => Owned worker selected phase Stale True := by
  unfold serviceGeneration
  refine Fallible.Triple.bind (E := fun _ => Owned worker selected phase Stale True)
    (Q := fun _ => Owned worker selected phase Stale True) (fun s h => h) fun s => ?_
  refine Fallible.Triple.bind (Fallible.Keeps.whenever fun _ => owned_withGeneration
    fun generation hselected hprovides => owned_setPtt hselected hprovides false) fun _ => ?_
  refine Fallible.Triple.bind (owned_runCalls label.calls) fun _ => ?_
  refine Fallible.Triple.bind (Fallible.Keeps.whenever fun _ => owned_pollSignals) fun _ => ?_
  refine Fallible.Triple.bind (Fallible.Keeps.of _) fun snapshot => ?_
  refine Fallible.Triple.bindTotal triple_publishPolicy fun _ => ?_
  have hweaker : ∀ s, Owned worker selected phase Served True s → Owned worker selected phase Stale True s :=
    fun s h => h.imp (fun _ _ => trivial) id
  cases label.result with
  | error error =>
    refine Fallible.Triple.bind (Q := fun _ => Owned worker selected phase Served True)
      (Fallible.Triple.modify fun s h => h.setEncoder false) fun _ => ?_
    exact Fallible.Triple.fail hweaker
  | ok u =>
    refine (owned_gateEncode.imp (fun _ h => h) (fun _ _ h => h) fun _ => hweaker).bind fun _ => ?_
    refine Fallible.Triple.whenever (fun _ => Fallible.Triple.modify fun s h => ?_) fun _ _ h => h
    exact ⟨h.chosen, h.keyed, h.provider, h.held, h.phase, h.permitted, h.off, h.cm119, h.disciplined⟩

/-- A change of the outputs and inputs of the service, or of what does not matter for PTT. -/
theorem Owned.same (h : Owned worker selected phase p r s) (hlog : s'.service.log = s.service.log)
    (hcontrol : s'.service.control = s.service.control)
    (hdevices : s'.service.devices.cm119.isSome = s.service.devices.cm119.isSome)
    (hgeneration : s'.generation = s.generation)
    (hpolicy : s'.control = s.control) (hserved : s'.served = s.served)
    (hsignals : s'.signals = s.signals) (hphase : s'.phase = s.phase) :
    Owned worker selected phase p r s' where
  chosen := by rw [hlog]; exact h.chosen
  keyed := by rw [hlog, hcontrol]; exact h.keyed
  provider := by rw [hgeneration]; exact h.provider
  held := by rw [hgeneration]; exact h.held
  phase := hphase.trans h.phase
  permitted := by rw [hpolicy, hserved]; exact h.permitted
  off := by rw [hlog, hsignals]; exact h.off
  cm119 := hdevices.trans h.cm119
  disciplined := by rw [hlog]; exact h.disciplined

end Driver
end UsbRadioPlus
