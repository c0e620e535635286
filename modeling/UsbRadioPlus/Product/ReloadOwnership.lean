import UsbRadioPlus.Product.ChannelReload

/-!
# Who owns the devices during a reload

`Heap`: the stations of a channel are one that may hold devices, and one that holds none; and no device
was opened while another station held one. `Owned`: the first one is that of the channel, the other one
is kept for a rollback.

`previous` is the generation that a rollback brings back, wherever it is kept.
-/

namespace UsbRadioPlus
namespace Product

open Sys Fallible Station Driver Asl3

variable {P : ProductParts} {s s' : Channel P} {active idle : Option Nat} {id : Nat}
  {station after : HardwareStation P.toStationParts}

/-! ## The stations -/

/-- No live update is open. The updates of a remote radio are no part of a reload. -/
def Settled (station : HardwareStation P.toStationParts) : Prop :=
  station.remoteDsp = false → station.storage.transaction = none

/-- A live update is open. -/
def live : Option (AdoptedChannelReload P) → Bool
  | some ⟨.live, _⟩ => true
  | _ => false

/-- The boxes that are alive are those of the two stations. -/
structure Heap (s : Channel P) (active idle : Option Nat) : Prop where
  fresh : ∀ id, s.next ≤ id → s.stations id = none
  alive : ∀ id, (s.stations id).isSome = true ↔ active = some id ∨ idle = some id
  apart : ∀ id, active = some id → idle ≠ some id
  idle : ∀ id, idle = some id → s.held id = false
  alone : ∀ o ∈ s.openings, ∀ id, o.held id = true → id = o.station
  settled : live s.rollback = false → ∀ id station, s.stations id = some station → Settled station

/-- A station has been opened. -/
def Channel.opened (self : Channel P) (station : HardwareStation P.toStationParts) : Channel P :=
  { self.setStation self.next (some station) with
    next := self.next + 1
    openings := ⟨self.next, self.held⟩ :: self.openings }

namespace Heap

theorem held (h : Heap s active idle) (hheld : s.held id = true) : active = some id := by
  have halive : (s.stations id).isSome = true := by
    cases hs : s.stations id with
    | none => simp [Channel.held, hs] at hheld
    | some station => rfl
  rcases (h.alive id).mp halive with hactive | hidle
  · exact hactive
  · rw [h.idle id hidle] at hheld
    cases hheld

theorem exists_station (h : Heap s (some id) idle) : ∃ station, s.stations id = some station :=
  Option.isSome_iff_exists.mp ((h.alive id).mpr (.inl rfl))

theorem lt_next (h : Heap s active idle) (hid : (s.stations id).isSome = true) : id < s.next := by
  by_contra hle
  rw [h.fresh id (Nat.le_of_not_lt hle)] at hid
  cases hid

theorem held_setStation_ne {other : Nat} {new : Option (HardwareStation P.toStationParts)}
    (hne : other ≠ id) : (s.setStation id new).held other = s.held other := by
  simp [Channel.held, Channel.setStation, Function.update_of_ne hne]

/-- The station that may hold devices is exchanged for another state of it. -/
theorem setStation (h : Heap s (some id) idle)
    (hsettled : live s.rollback = false → Settled after) :
    Heap (s.setStation id (some after)) (some id) idle := by
  have hid := h.exists_station
  refine ⟨fun other hle => ?_, fun other => ?_, h.apart, fun other hother => ?_, h.alone,
    fun hlive other st hst => ?_⟩
  · have hne : other ≠ id := by
      rintro rfl
      obtain ⟨station, hst⟩ := hid
      exact absurd (hst.symm.trans (h.fresh other hle)) (by simp)
    simp only [Channel.setStation, Function.update_of_ne hne]
    exact h.fresh other hle
  · by_cases hne : other = id
    · subst hne
      simp [Channel.setStation]
    · simp only [Channel.setStation, Function.update_of_ne hne]
      exact h.alive other
  · have hne : other ≠ id := fun heq => h.apart id rfl (heq ▸ hother)
    rw [held_setStation_ne hne]
    exact h.idle other hother
  · by_cases hne : other = id
    · subst hne
      simp only [Channel.setStation, Function.update_self, Option.some.injEq] at hst
      exact hst ▸ hsettled hlive
    · simp only [Channel.setStation, Function.update_of_ne hne] at hst
      exact h.settled hlive other st hst

/-- Whatever it does, it opens its devices alone. -/
theorem worked (h : Heap s (some id) idle) (before : HardwareStation P.toStationParts)
    (hsettled : live s.rollback = false → Settled after) :
    Heap (s.worked id before after) (some id) idle := by
  have hset := h.setStation hsettled
  refine ⟨hset.fresh, hset.alive, hset.apart, hset.idle, fun o ho other hother => ?_, hset.settled⟩
  simp only [Channel.worked] at ho
  split at ho
  · exact h.alone o ho other hother
  · rcases List.mem_cons.mp ho with rfl | ho
    · exact (Option.some.inj (h.held hother)).symm
    · exact h.alone o ho other hother

/-- A new station opens its stream where no other one holds a device. -/
theorem opened (h : Heap s none idle) (hsettled : Settled station) :
    Heap (s.opened station) (some s.next) idle := by
  have hnext : ∀ other, idle = some other → other ≠ s.next := fun other hother heq =>
    absurd (h.lt_next ((h.alive other).mpr (.inr hother))) (by omega)
  refine ⟨fun other hle => ?_, fun other => ?_, fun other hother hidle => ?_, fun other hother => ?_,
    fun o ho other hother => ?_, fun hlive other st hst => ?_⟩
  · have hne : other ≠ s.next := Nat.ne_of_gt hle
    simp only [Channel.opened, Channel.setStation, Function.update_of_ne hne]
    exact h.fresh other (Nat.le_of_lt hle)
  · by_cases hne : other = s.next
    · subst hne
      simp [Channel.opened, Channel.setStation]
    · have halive := h.alive other
      simp only [Channel.opened, Channel.setStation, Function.update_of_ne hne]
      rw [halive]
      simp [Ne.symm hne]
  · exact hnext other hidle (Option.some.inj hother).symm
  · have hheld := h.idle other hother
    rw [← held_setStation_ne (hnext other hother)] at hheld
    exact hheld
  · rcases List.mem_cons.mp ho with rfl | ho
    · exact absurd (h.held hother) (by simp)
    · exact h.alone o ho other hother
  · by_cases hne : other = s.next
    · subst hne
      simp only [Channel.opened, Channel.setStation, Function.update_self, Option.some.injEq] at hst
      exact hst ▸ hsettled
    · simp only [Channel.opened, Channel.setStation, Function.update_of_ne hne] at hst
      exact h.settled hlive other st hst

theorem settled_drop (h : Heap s active idle) (hlive : live s.rollback = false) (other : Nat)
    (st : HardwareStation P.toStationParts)
    (hst : (s.setStation id none).stations other = some st) : Settled st := by
  by_cases hne : other = id
  · subst hne
    simp [Channel.setStation] at hst
  · simp only [Channel.setStation, Function.update_of_ne hne] at hst
    exact h.settled hlive other st hst

/-- A station is dropped. -/
theorem drop (h : Heap s (some id) idle) : Heap (s.setStation id none) none idle := by
  refine ⟨fun other hle => ?_, fun other => ?_, fun _ hnone => absurd hnone (by simp),
    fun other hother => ?_, h.alone, h.settled_drop⟩
  · by_cases hne : other = id
    · subst hne
      simp [Channel.setStation]
    · simp only [Channel.setStation, Function.update_of_ne hne]
      exact h.fresh other hle
  · by_cases hne : other = id
    · subst hne
      have := h.apart other rfl
      simp [Channel.setStation, this]
    · simp only [Channel.setStation, Function.update_of_ne hne]
      rw [h.alive other]
      simp [Ne.symm hne]
  · have hne : other ≠ id := fun heq => h.apart id rfl (heq ▸ hother)
    rw [held_setStation_ne hne]
    exact h.idle other hother

theorem dropIdle (h : Heap s active (some id)) : Heap (s.setStation id none) active none := by
  refine ⟨fun other hle => ?_, fun other => ?_, fun _ _ hnone => absurd hnone (by simp),
    fun _ hnone => absurd hnone (by simp), h.alone, h.settled_drop⟩
  · by_cases hne : other = id
    · subst hne
      simp [Channel.setStation]
    · simp only [Channel.setStation, Function.update_of_ne hne]
      exact h.fresh other hle
  · by_cases hne : other = id
    · subst hne
      have : active ≠ some other := fun hactive => h.apart other hactive rfl
      simp [Channel.setStation, this]
    · simp only [Channel.setStation, Function.update_of_ne hne]
      rw [h.alive other]
      simp [Ne.symm hne]

/-- A station that holds nothing steps aside. -/
theorem park (h : Heap s (some id) none) (hheld : s.held id = false) : Heap s none (some id) := by
  refine ⟨h.fresh, fun other => (h.alive other).trans (by simp), fun _ hnone => absurd hnone (by simp),
    fun other hother => ?_, h.alone, h.settled⟩
  obtain rfl := Option.some.inj hother
  exact hheld

theorem resume (h : Heap s none (some id)) : Heap s (some id) none :=
  ⟨h.fresh, fun other => (h.alive other).trans (by simp), fun _ _ hnone => absurd hnone (by simp),
    fun _ hnone => absurd hnone (by simp), h.alone, h.settled⟩

/-- The control is no part of the heap. -/
theorem frame (h : Heap s active idle) (hstations : s'.stations = s.stations)
    (hnext : s'.next = s.next) (hopenings : s'.openings = s.openings)
    (hlive : live s'.rollback = false → live s.rollback = false) : Heap s' active idle := by
  obtain ⟨control, rollback, stations, next, openings⟩ := s'
  obtain rfl : stations = s.stations := hstations
  obtain rfl : next = s.next := hnext
  obtain rfl : openings = s.openings := hopenings
  exact ⟨h.fresh, h.alive, h.apart, h.idle, h.alone, fun hnot => h.settled (hlive hnot)⟩

end Heap

/-! ## The channel -/

/-- The station that is kept for a rollback. -/
def parked : Option (AdoptedChannelReload P) → Option Nat
  | some ⟨.hardware id _, _⟩ => some id
  | _ => none

/-- The plan that a live update was prepared from. -/
def preparedFrom : PreparedChannelReload P → Option (StationPlan P.toStationParts)
  | .preparing worker .. => some worker.snapshot.previous
  | .live update .. => some update.previous
  | _ => none

/-- A live update in preparation is one of the plan of the station, as long as no remote radio retunes
it. -/
def Current (s : Channel P) : Prop :=
  ∀ reload plan, s.control.reload = some reload → preparedFrom reload = some plan →
    ∃ id station, s.control.hardware = some id ∧ s.stations id = some station ∧
      (station.remoteDsp = false → plan = station.plan)

/-- What holds between any two calls of a channel. -/
structure Owned (s : Channel P) : Prop where
  heap : Heap s s.control.hardware (parked s.rollback)
  running : s.control.running = true → s.control.hardware.isSome = true
  single : s.rollback.isSome = true → s.control.reload = none
  current : Current s
  /-- Media come with their preflight. -/
  paired : s.control.media.isSome = true → s.control.preflight.isSome = true

/-- The plan of a station, or the one that it goes back to without a commit. A remote radio retunes its
station. -/
def planOf (station : HardwareStation P.toStationParts) : Option (StationPlan P.toStationParts) :=
  if station.remoteDsp then none
  else some (match station.storage.transaction with
    | none => station.plan
    | some transaction => transaction.candidate.previous)

/-- What a generation of a channel is. The controller of media goes on working. -/
structure Generation (P : ProductParts) where
  hardware : Option Nat
  plan : Option (StationPlan P.toStationParts)
  media : Option (StationPlan P.toStationParts × Bool)
  preflight : Option P.HardwarePreflight
  remote : Option P.RemotePreparation
  jitter : P.JitterConfig

/-- A generation of its parts, with the plan that its station has. -/
def generation (s : Channel P) (hardware : Option Nat)
    (media : Option (StationMedia P.toStationParts)) (preflight : Option P.HardwarePreflight)
    (remote : Option P.RemotePreparation) (jitter : P.JitterConfig) : Generation P where
  hardware := hardware
  plan := (hardware.bind s.stations).bind planOf
  media := media.map fun media => (media.plan, media.direct)
  preflight := preflight
  remote := remote
  jitter := jitter

/-- The generation of the control. -/
def present (s : Channel P) : Generation P :=
  generation s s.control.hardware s.control.media s.control.preflight s.control.remote
    s.control.jitter

/-- The generation that a rollback leaves in the control. -/
def previous (s : Channel P) : Generation P :=
  match s.rollback with
  | none => present s
  | some ⟨.hardware id _, jitter⟩ =>
    generation s (some id) s.control.media s.control.preflight s.control.remote jitter
  | some ⟨.prepared media preflight remote, jitter⟩ =>
    generation s s.control.hardware (some media) (some preflight) remote jitter
  | some ⟨_, jitter⟩ =>
    generation s s.control.hardware s.control.media s.control.preflight s.control.remote jitter

/-- Whether a rollback may leave it running. -/
def runs (s : Channel P) : Bool :=
  match s.rollback with
  | some ⟨.hardware _ transient, _⟩ => transient.isSome
  | _ => s.control.running

/-- What a call that does not commit keeps. -/
structure Kept (s s' : Channel P) : Prop where
  owned : Owned s'
  previous : previous s' = previous s
  runs : runs s' = true → runs s = true

theorem Owned.kept (h : Owned s) : Kept s s := ⟨h, rfl, fun hruns => hruns⟩

theorem Kept.trans {s'' : Channel P} (h : Kept s s') (h' : Kept s' s'') : Kept s s'' :=
  ⟨h'.owned, h'.previous.trans h.previous, fun hruns => h.runs (h'.runs hruns)⟩

/-! ## Work on the station of the channel -/

variable {α : Type} {failure : StationError P.toStationParts → Status}
  {m : HardwareStation.Working P.toStationParts α}

theorem ends_onStation {R : Except (StationError P.toStationParts) α →
      HardwareStation P.toStationParts → Prop}
    (hst : s.stations id = some station) (hm : Ends m station R) :
    Ends (onStation id failure m) s fun r s' =>
      ∃ result after, R result after ∧ r = result.mapError failure ∧
        s' = s.worked id station after := by
  obtain ⟨result, after, hrun, hr⟩ := hm
  refine ⟨result.mapError failure, s.worked id station after, ?_, result, after, hr, rfl, rfl⟩
  simp only [onStation, hst, hrun, Option.map_some]
  cases result <;> rfl

/-- What a station is to a rollback. -/
structure Serves (station after : HardwareStation P.toStationParts) : Prop where
  equipment : after.equipment = station.equipment
  planOf : planOf after = planOf station
  plan : after.remoteDsp = false → station.remoteDsp = false ∧ after.plan = station.plan
  settled : Settled station → Settled after

theorem Serves.of_alike (h : HardwareStation.Alike station after) : Serves station after where
  equipment := h.equipment
  planOf := by
    unfold Product.planOf
    rw [h.remoteDsp, h.storage, h.plan]
  plan hremote := ⟨h.remoteDsp ▸ hremote, h.plan⟩
  settled hsettled := by
    unfold Settled
    rw [h.remoteDsp, h.storage]
    exact hsettled

/-- The station does nothing but to use its devices. -/
theorem Heap.alike (h : Heap s (some id) idle) (hst : s.stations id = some station)
    (halike : HardwareStation.Alike station after) :
    Heap (s.worked id station after) (some id) idle :=
  h.worked station fun hlive => (Serves.of_alike halike).settled (h.settled hlive id station hst)

theorem stations_worked_self : (s.worked id station after).stations id = some after := by
  simp [Channel.worked, Channel.setStation]

theorem stations_worked_ne {other : Nat} (hne : other ≠ id) :
    (s.worked id station after).stations other = s.stations other := by
  simp [Channel.worked, Channel.setStation, Function.update_of_ne hne]

theorem generation_congr {hardware : Option Nat} {media : Option (StationMedia P.toStationParts)}
    {preflight : Option P.HardwarePreflight} {remote : Option P.RemotePreparation}
    {jitter : P.JitterConfig}
    (h : ∀ id, hardware = some id → (s'.stations id).bind planOf = (s.stations id).bind planOf) :
    generation s' hardware media preflight remote jitter =
      generation s hardware media preflight remote jitter := by
  cases hardware with
  | none => rfl
  | some id => simp only [generation, Option.bind_some, h id rfl]

/-- Only the plans of the stations make a difference. -/
theorem previous_congr (hcontrol : s'.control = s.control) (hrollback : s'.rollback = s.rollback)
    (h : ∀ id, (s'.stations id).bind planOf = (s.stations id).bind planOf) :
    previous s' = previous s := by
  unfold previous present
  rw [hcontrol, hrollback]
  split <;> exact generation_congr fun id _ => h id

theorem plans_worked (hst : s.stations id = some station) (hplan : planOf after = planOf station)
    (other : Nat) :
    ((s.worked id station after).stations other).bind planOf = (s.stations other).bind planOf := by
  by_cases hne : other = id
  · subst hne
    rw [stations_worked_self, hst]
    exact hplan
  · rw [stations_worked_ne hne]

/-- Work on the station of the channel. -/
theorem Owned.worked (h : Owned s) (hid : s.control.hardware = some id)
    (hst : s.stations id = some station)
    (hplan : s.control.reload = none ∨
      (after.remoteDsp = false → station.remoteDsp = false ∧ after.plan = station.plan))
    (hsettled : live s.rollback = false → Settled after) :
    Owned (s.worked id station after) := by
  have hheap : Heap s (some id) (parked s.rollback) := hid ▸ h.heap
  refine ⟨?_, h.running, h.single, fun reload plan hreload hprepared => ?_, h.paired⟩
  · show Heap _ s.control.hardware (parked s.rollback)
    rw [hid]
    exact hheap.worked station hsettled
  · obtain ⟨other, st, hother, hst', hcurrent⟩ := h.current reload plan hreload hprepared
    obtain rfl := Option.some.inj (hid.symm.trans hother)
    obtain rfl := Option.some.inj (hst.symm.trans hst')
    refine ⟨id, after, hid, stations_worked_self, fun hremote => ?_⟩
    rcases hplan with hnone | hplan
    · exact absurd (hnone.symm.trans hreload) (Option.some_ne_none _).symm
    · obtain ⟨hremote', hplan'⟩ := hplan hremote
      exact (hcurrent hremote').trans hplan'.symm

/-- The station stays the generation that it is. -/
theorem Owned.serves (h : Owned s) (hid : s.control.hardware = some id)
    (hst : s.stations id = some station) (hserves : Serves station after) :
    Kept s (s.worked id station after) :=
  ⟨h.worked hid hst (.inr hserves.plan) fun hlive => hserves.settled (h.heap.settled hlive id _ hst),
    previous_congr rfl rfl (plans_worked hst hserves.planOf), fun hruns => hruns⟩

/-- A step that leaves the stations alone, and who owns them. -/
theorem Owned.frame (h : Owned s) (hstations : s'.stations = s.stations) (hnext : s'.next = s.next)
    (hopenings : s'.openings = s.openings) (hhardware : s'.control.hardware = s.control.hardware)
    (hparked : parked s'.rollback = parked s.rollback)
    (hlive : live s'.rollback = false → live s.rollback = false)
    (hrunning : s'.control.running = true → s.control.running = true)
    (hsingle : s'.rollback.isSome = true → s'.control.reload = none)
    (hreload : ∀ reload plan, s'.control.reload = some reload → preparedFrom reload = some plan →
      ∃ id station, s.control.hardware = some id ∧ s.stations id = some station ∧
        (station.remoteDsp = false → plan = station.plan))
    (hpaired : s'.control.media.isSome = true → s'.control.preflight.isSome = true) :
    Owned s' := by
  refine ⟨?_, fun hrun => ?_, hsingle, ?_, hpaired⟩
  · rw [hhardware, hparked]
    exact h.heap.frame hstations hnext hopenings hlive
  · rw [hhardware]
    exact h.running (hrunning hrun)
  · unfold Current
    rw [hhardware, hstations]
    exact hreload

end Product
end UsbRadioPlus
