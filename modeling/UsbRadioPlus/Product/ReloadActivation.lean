import UsbRadioPlus.Product.ReloadCalls

/-!
# What the activation and the end of a reload keep

While a station is exchanged no station, or one that is not the channel's, may hold devices. The
generation of the station that stepped aside is then `spare`: an activation that fails, and a rollback,
make it the present one.
-/

namespace UsbRadioPlus
namespace Product

open Sys Fallible Station Driver Asl3

variable {P : ProductParts} {s s' s'' : Channel P} {id : Nat} {idle : Option Nat}
  {station after : HardwareStation P.toStationParts}
  {transient : Option HardwareTransientState}

/-! ## Live updates -/

/-- A live update moves the plan of the station, and what a rollback brings back stays. -/
theorem Owned.moved (h : Owned s) (hid : s.control.hardware = some id)
    (hst : s.stations id = some station) (hreload : s.control.reload = none)
    (hlive : live s.rollback = true) (hplan : planOf after = planOf station) :
    Kept s (s.worked id station after) :=
  ⟨h.worked hid hst (.inl hreload) fun hnot => absurd (hlive.symm.trans hnot) (by decide),
    previous_congr rfl rfl (plans_worked hst hplan), fun hruns => hruns⟩

theorem ends_acceptUpdate (h : Owned s) (hid : s.control.hardware = some id)
    (hreload : s.control.reload = none) (hlive : live s.rollback = true)
    (answers : UpdateAnswers P.toStationParts) :
    Ends (onStation id updateStatus (HardwareStation.acceptUpdate answers)) s fun _ s' =>
      Kept s s' := by
  obtain ⟨station, hst⟩ := h.exists_station hid
  refine (ends_onStation hst (HardwareStation.ends_acceptUpdate answers)).imp ?_
  rintro r s' ⟨result, after, ⟨hupdated, hstorage, hplan⟩, rfl, rfl⟩
  refine h.moved hid hst hreload hlive ?_
  unfold planOf
  rw [hupdated.remoteDsp, hstorage]
  rcases hplan with ⟨-, hplan⟩ | ⟨transaction, htx, -⟩
  · rw [hplan]
  · simp only [htx]

theorem ends_beginUpdate (h : Owned s) (hid : s.control.hardware = some id)
    (hst : s.stations id = some station) (hreload : s.control.reload = none)
    (hlive : live s.rollback = true) {update : StationUpdate P.toStationParts}
    (hprevious : station.remoteDsp = false → update.previous = station.plan)
    (answers : UpdateAnswers P.toStationParts) :
    Ends (onStation id setupError (HardwareStation.beginUpdate update answers)) s fun _ s' =>
      Kept s s' ∧ s'.control = s.control ∧ s'.rollback = s.rollback := by
  refine (ends_onStation hst (HardwareStation.ends_beginUpdate update answers)).imp ?_
  rintro r s' ⟨result, after, ⟨hupdated, hplan, hstorage⟩, rfl, rfl⟩
  refine ⟨h.moved hid hst hreload hlive ?_, rfl, rfl⟩
  unfold planOf
  rw [hupdated.remoteDsp]
  split
  · rfl
  · rename_i hremote
    rcases hstorage with hstorage | ⟨hnone, hsome⟩
    · rw [hstorage, hplan]
    · simp only [hnone, hsome]
      rw [hprevious (by simpa using hremote)]

theorem ends_activateLive (h : Owned s) {update : StationUpdate P.toStationParts}
    {jitter : P.JitterConfig} {mixers : Bool × Bool × Bool}
    (hreload : s.control.reload = some (.live update jitter mixers)) (answers : ActivateAnswers P) :
    Ends (activateLive update jitter answers) s fun _ s' => Kept s s' := by
  have hnone := h.rollback_none hreload
  obtain ⟨id, station, hid, hst, hprevious⟩ := h.current _ _ hreload rfl
  unfold activateLive
  rw [ends_get_bind]
  refine ends_modify_bind.mpr (ends_modify_bind.mpr ?_)
  -- The rollback slot has the jitter of the previous generation.
  have hlive : Kept s { s with
      control := { s.control with jitter, reload := none }
      rollback := some ⟨.live, s.control.jitter⟩ } := by
    refine ⟨h.frame rfl rfl rfl rfl ?_ (fun hnot => (by cases hnot)) (fun hrun => hrun) (fun _ => rfl)
      (fun _ _ hsome => absurd hsome.symm (Option.some_ne_none _)) h.paired, ?_, fun hruns => ?_⟩
    · rw [hnone]
      rfl
    · unfold previous present
      rw [hnone]
      exact generation_congr fun _ _ => rfl
    · unfold runs
      rw [hnone]
      exact hruns
  split
  · rename_i hnone'
    exact absurd (hid.symm.trans hnone') (Option.some_ne_none _)
  · rename_i id' hid'
    obtain rfl := Option.some.inj (hid.symm.trans hid')
    refine (ends_beginUpdate hlive.owned hid hst rfl rfl hprevious answers.update).bind
      (fun _ s' h' => ?_) fun _ _ h' => ?_
    · have hbegun := hlive.trans h'.1
      refine (ends_acceptUpdate hbegun.owned ?_ ?_ ?_ answers.update).imp fun _ _ h'' =>
        hbegun.trans h''
      · rw [h'.2.1]
        exact hid
      · rw [h'.2.1]
      · rw [h'.2.2]
        rfl
    · exact hlive.trans h'.1

/-! ## The station that steps aside -/

/-- The generation of a station, with the rest of the control. -/
def spare (s : Channel P) (id : Nat) (jitter : P.JitterConfig) : Generation P :=
  generation s (some id) s.control.media s.control.preflight s.control.remote jitter

/-- Work beside a station that stepped aside. -/
structure Beside (idle : Option Nat) (s s' : Channel P) : Prop where
  control : s'.control = s.control
  rollback : s'.rollback = s.rollback
  station : ∀ id, idle = some id → s'.stations id = s.stations id

theorem Beside.refl : Beside idle s s := ⟨rfl, rfl, fun _ _ => rfl⟩

theorem Beside.trans (h : Beside idle s s') (h' : Beside idle s' s'') : Beside idle s s'' :=
  ⟨h'.control.trans h.control, h'.rollback.trans h.rollback,
    fun id hid => (h'.station id hid).trans (h.station id hid)⟩

theorem Beside.spare (h : Beside (some id) s s') (jitter : P.JitterConfig) :
    spare s' id jitter = spare s id jitter := by
  unfold Product.spare
  rw [h.control]
  refine generation_congr fun other hother => ?_
  obtain rfl := Option.some.inj hother
  rw [h.station id rfl]

theorem Heap.beside_worked (h : Heap s (some id) idle)
    (before after : HardwareStation P.toStationParts) :
    Beside idle s (s.worked id before after) :=
  ⟨rfl, rfl, fun _ hother => stations_worked_ne fun heq => h.apart id rfl (heq ▸ hother)⟩

theorem Heap.beside_drop (h : Heap s (some id) idle) : Beside idle s (s.setStation id none) := by
  refine ⟨rfl, rfl, fun other hother => ?_⟩
  have hne : other ≠ id := fun heq => h.apart id rfl (heq ▸ hother)
  simp [Channel.setStation, Function.update_of_ne hne]

/-- The station comes back: whether it runs, or has failed. -/
theorem ends_restorePrevious (hst : s.stations id = some station) (answers : RestoreAnswers) :
    Ends (restorePrevious id transient answers) s fun r s' =>
      ∃ restored after, r = .ok restored ∧ (restored = some true → transient.isSome = true) ∧
        HardwareStation.Alike station after ∧ s' = s.worked id station after := by
  unfold restorePrevious
  refine (ends_onStation (R := fun r after => (r = .ok true → transient.isSome = true) ∧
    HardwareStation.Alike station after) hst ?_).attempt_bind ?_
  · refine (HardwareStation.ends_reopen answers.reopened).bind (fun _ s₁ h => ?_) fun _ _ h =>
      ⟨fun hok => (by cases hok), h⟩
    cases transient with
    | none => exact ends_pure.mpr ⟨fun hok => (by cases hok), h⟩
    | some state =>
      refine (HardwareStation.ends_stageTransientState state).bind (fun _ s₂ h₂ => ?_)
        fun _ _ h₂ => ⟨fun _ => rfl, h.trans h₂⟩
      refine (HardwareStation.ends_start answers.service answers.audio answers.cleanup).bind
        (fun _ s₃ h₃ => ?_) fun _ _ h₃ => ⟨fun _ => rfl, (h.trans h₂).trans h₃⟩
      exact ends_pure.mpr ⟨fun _ => rfl, (h.trans h₂).trans h₃⟩
  rintro r s' ⟨result, after, ⟨htrue, halike⟩, rfl, rfl⟩
  cases result with
  | ok running =>
    refine ends_pure.mpr ⟨some running, after, rfl, fun hsome => htrue ?_, halike, rfl⟩
    rw [Option.some.inj hsome]
  | error e => exact ends_pure.mpr ⟨none, after, rfl, fun hsome => (by cases hsome), halike, rfl⟩

/-! ## The exchange -/

/-- A station was opened with these, and is bound to the remote radio where there is one. -/
def Equipped (station : HardwareStation P.toStationParts)
    (fittings : StationFittings P.toStationParts) : Prop :=
  station.equipment = (fittings, fittings.remote.isSome, fittings.remote.isSome)

/-- How the attempt to open a station ends. -/
inductive Opens (idle : Option Nat) (fittings : StationFittings P.toStationParts) (s : Channel P) :
    Except Status Nat → Prop where
  | opened {id : Nat} {station : HardwareStation P.toStationParts} (heap : Heap s (some id) idle)
      (hst : s.stations id = some station) (hequipped : Equipped station fittings) :
      Opens idle fittings s (.ok id)
  | refused {e : Status} (heap : Heap s none idle) : Opens idle fittings s (.error e)

theorem ends_openStation (h : Heap s none idle) (media : StationMedia P.toStationParts)
    (preflight : P.HardwarePreflight) (remote : Option P.RemotePreparation) (opened : Bool) :
    Ends (openStation media preflight remote opened) s fun r s' =>
      Beside idle s s' ∧ Opens idle ⟨media, preflight, remote⟩ s' r := by
  unfold openStation
  split
  · rw [ends_get_bind]
    refine ends_modify_bind.mpr ?_
    have hheap : Heap (s.opened (.openPreflighted s.next media preflight)) (some s.next) idle :=
      h.opened fun _ => rfl
    have hbeside : Beside idle s (s.opened (.openPreflighted s.next media preflight)) := by
      refine ⟨rfl, rfl, fun other hother => ?_⟩
      have hne : other ≠ s.next := fun heq => hheap.apart s.next rfl (heq ▸ hother)
      simp [Channel.opened, Channel.setStation, Function.update_of_ne hne]
    have hst : (s.opened (.openPreflighted s.next media preflight)).stations s.next =
        some (.openPreflighted s.next media preflight) := by
      simp [Channel.opened, Channel.setStation]
    cases remote with
    | none => exact ends_pure.mpr ⟨hbeside, .opened hheap hst rfl⟩
    | some remote =>
      refine (ends_onStation hst (HardwareStation.ends_bindRemote remote)).attempt_bind ?_
      rintro r s' ⟨result, after, ⟨hstorage, hequipped⟩, rfl, rfl⟩
      have hsettled : Settled after := fun _ => by
        rw [hstorage]
        rfl
      have hworked := hheap.worked (.openPreflighted s.next media preflight) fun _ => hsettled
      have hbeside' :=
        hbeside.trans (hheap.beside_worked (.openPreflighted s.next media preflight) after)
      cases result with
      | ok => exact ends_pure.mpr ⟨hbeside', .opened hworked stations_worked_self (hequipped rfl)⟩
      | error e =>
        exact ends_modify_bind.mpr
          (ends_fail.mpr ⟨hbeside'.trans hworked.beside_drop, .refused hworked.drop⟩)
  · exact ends_fail.mpr ⟨.refl, .refused h⟩

theorem ends_restoreRunning (hst : s.stations id = some station) (answers : RestoreAnswers) :
    Ends (restoreRunning id transient answers) s fun r s' => r = .ok () ∧ ∃ running after,
      (running = true → transient.isSome = true) ∧ HardwareStation.Alike station after ∧
        s' = { s.worked id station after with control := { s.control with running } } := by
  unfold restoreRunning
  refine (ends_restorePrevious hst answers).bind ?_ ?_
  · rintro restored s' ⟨_, after, hrestored, htrue, halike, rfl⟩
    obtain rfl := Except.ok.inj hrestored
    refine ends_modify.mpr ⟨rfl, restored.getD false, after, fun hrunning => htrue ?_, halike, rfl⟩
    cases restored with
    | none => cases hrunning
    | some running => exact congrArg some hrunning
  · rintro e s' ⟨_, _, hrestored, -⟩
    cases hrestored

theorem ends_retainRestoration_bind {f : Unit → Controlled P Unit}
    {T : Except Status Unit → Channel P → Prop} :
    Ends (retainRestoration >>= f) s T ↔ Ends (f ()) { s with
      control := { s.control with reload := none }
      rollback := some ⟨.restoring, s.control.jitter⟩ } T := Iff.rfl

/-- What an activation leaves that has failed behind the suspension. -/
theorem ends_restoreAndFail (h : Heap s (some id) none) (hlive : live s.rollback = false)
    (hpaired : s.control.media.isSome = true → s.control.preflight.isSome = true) (status : Status)
    (answers : ActivateAnswers P) :
    Ends (restoreAndFail id transient status answers) s fun r s' => r ≠ .ok () ∧ Owned s' ∧
      present s' = spare s id s.control.jitter ∧ previous s' = spare s id s.control.jitter ∧
        (runs s' = true → transient.isSome = true) := by
  obtain ⟨station, hst⟩ := h.exists_station
  unfold restoreAndFail
  refine (ends_restoreRunning hst answers.restore).bind ?_ ?_
  · rintro - s' ⟨-, running, after, htrue, halike, rfl⟩
    refine ends_modify_bind.mpr (ends_retainRestoration_bind.mpr ?_)
    have hspare : spare (s.worked id station after) id s.control.jitter =
        spare s id s.control.jitter :=
      generation_congr fun other _ => plans_worked hst (Serves.of_alike halike).planOf other
    refine ends_fail.mpr ⟨fun hok => (by cases hok), ?_, hspare, hspare, htrue⟩
    · refine ⟨(h.alike hst halike).frame rfl rfl rfl fun _ => hlive, fun _ => rfl, fun _ => rfl, ?_,
        hpaired⟩
      intro reload plan hsome
      exact absurd hsome.symm (Option.some_ne_none _)
  · rintro e s' ⟨hok, -⟩
    cases hok

theorem ends_startReplacement {new : Nat} (h : Heap s (some new) idle)
    (hst : s.stations new = some station) (retained : ControllerReloadState)
    (answers : ActivateAnswers P) :
    Ends (startReplacement new transient retained answers) s fun _ s' =>
      Heap s' (some new) idle ∧ Beside idle s s' ∧
        ∃ after, s'.stations new = some after ∧ after.equipment = station.equipment := by
  unfold startReplacement
  refine (ends_onStation (R := fun r after => r = .ok () ∧ after.equipment = station.equipment ∧
    (Settled station → Settled after)) hst
    (ends_modify.mpr ⟨rfl, rfl, fun hsettled => hsettled⟩)).bind ?_ ?_
  · rintro - s₁ ⟨-, after, ⟨rfl, hequipment, hsettled⟩, -, rfl⟩
    have hheap := h.worked station fun hlive => hsettled (h.settled hlive new station hst)
    have hbeside := h.beside_worked station after
    rw [ends_get_bind]
    split
    · refine (ends_onStation stations_worked_self (HardwareStation.ends_start answers.start.service
        answers.start.audio answers.start.cleanup)).imp ?_
      rintro r s₂ ⟨_, after', halike, -, rfl⟩
      exact ⟨hheap.alike stations_worked_self halike,
        hbeside.trans (hheap.beside_worked after after'), after', stations_worked_self,
        halike.equipment.trans hequipment⟩
    · exact ends_pure.mpr ⟨hheap, hbeside, after, stations_worked_self, hequipment⟩
  · rintro e s₁ ⟨_, _, ⟨rfl, -⟩, herror, -⟩
    cases herror

/-- The channel works with what was prepared. -/
inductive Works (prepared : PreparedChannelReplacement P) (s : Channel P) : Prop where
  | media (hhardware : s.control.hardware = none)
      (hmedia : s.control.media.map (fun media => (media.plan, media.direct)) =
        some (prepared.media.plan, prepared.media.direct))
      (hpreflight : s.control.preflight = some prepared.preflight)
      (hremote : s.control.remote = prepared.remote)
      (hjitter : s.control.jitter = prepared.jitter)
  /-- The station was opened with all of it. -/
  | hardware {id : Nat} (hhardware : s.control.hardware = some id)
      (hequipment : (s.stations id).map HardwareStation.equipment =
        some (⟨prepared.media, prepared.preflight, prepared.remote⟩, prepared.remote.isSome,
          prepared.remote.isSome))
      (hjitter : s.control.jitter = prepared.jitter)

/-- The previous generation of an exchange is kept. -/
def exchanged : Option (AdoptedChannelReload P) → Bool
  | some ⟨.prepared .., _⟩ | some ⟨.hardware .., _⟩ => true
  | _ => false

/-- It has taken the place of a generation that is kept. -/
structure Adopts (prepared : PreparedChannelReplacement P) (s : Channel P) : Prop where
  works : Works prepared s
  exchanged : exchanged s.rollback = true

theorem Works.aside {prepared : PreparedChannelReplacement P} (h : Works prepared s)
    (haside : Aside s s') : Works prepared s' := by
  have hcontrol := haside.control
  cases h with
  | media hhardware hmedia hpreflight hremote hjitter =>
    refine .media (haside.hardware.trans hhardware) (haside.media.trans hmedia) ?_ ?_
      (haside.jitter.trans hjitter)
    · rw [hcontrol]
      exact hpreflight
    · rw [hcontrol]
      exact hremote
  | hardware hhardware hequipment hjitter =>
    exact .hardware (haside.hardware.trans hhardware) ((haside.opened _).trans hequipment)
      (haside.jitter.trans hjitter)

theorem Adopts.aside {prepared : PreparedChannelReplacement P} (h : Adopts prepared s)
    (haside : Aside s s') : Adopts prepared s' :=
  ⟨h.works.aside haside, by rw [haside.rollback, h.exchanged]⟩

/-- What an activation of a replacement leaves: all of the new generation, or all of the old one. -/
structure Activates (prepared : PreparedChannelReplacement P) (s : Channel P)
    (r : Except Status Unit) (s' : Channel P) : Prop where
  kept : Kept s s'
  whole : Adopts prepared s' ∨ r ≠ .ok () ∧ present s' = present s

theorem previous_of_none (h : s.rollback = none) : previous s = present s := by
  unfold previous
  rw [h]

theorem Activates.before {prepared : PreparedChannelReplacement P} {r : Except Status Unit}
    (hkept : Kept s s') (hrollback : s.rollback = none) (hrollback' : s'.rollback = none)
    (h : Activates prepared s' r s'') : Activates prepared s r s'' := by
  refine ⟨hkept.trans h.kept, h.whole.imp_right fun hfailed => ⟨hfailed.1, hfailed.2.trans ?_⟩⟩
  rw [← previous_of_none hrollback, ← previous_of_none hrollback', hkept.previous]

/-- The state in front of the exchange. -/
structure Exchanged (s : Channel P) (id : Nat) (transient : Option HardwareTransientState) :
    Prop where
  owned : Owned s
  hardware : s.control.hardware = some id
  rollback : s.rollback = none
  reload : s.control.reload = none
  transient : transient.isSome = true → s.control.running = true

namespace Exchanged

theorem heap (h : Exchanged s id transient) : Heap s (some id) none := by
  have hheap := h.owned.heap
  rw [h.hardware, h.rollback] at hheap
  exact hheap

theorem present (h : Exchanged s id transient) : present s = spare s id s.control.jitter := by
  unfold Product.present spare
  rw [h.hardware]

theorem previous (h : Exchanged s id transient) : previous s = spare s id s.control.jitter :=
  (previous_of_none h.rollback).trans h.present

theorem runs (h : Exchanged s id transient) (htransient : transient.isSome = true) :
    runs s = true := by
  unfold Product.runs
  rw [h.rollback]
  exact h.transient htransient

theorem aside (h : Exchanged s id transient) (haside : Aside s s') : Exchanged s' id transient where
  owned := haside.owned
  hardware := haside.hardware.trans h.hardware
  rollback := haside.rollback.trans h.rollback
  reload := haside.reload.trans h.reload
  transient htransient := by
    rw [haside.control]
    exact h.transient htransient

/-- A failure brings the station back. -/
theorem restoreAndFail (h : Exchanged s id transient) (prepared : PreparedChannelReplacement P)
    (hheap : Heap s' (some id) none) (hrollback : s'.rollback = s.rollback)
    (hcontrol : s'.control = { s.control with hardware := s'.control.hardware })
    (hspare : spare s' id s.control.jitter = spare s id s.control.jitter) (status : Status) (answers : ActivateAnswers P) :
    Ends (Product.restoreAndFail id transient status answers) s' (Activates prepared s) := by
  have hpaired : s'.control.media.isSome = true → s'.control.preflight.isSome = true := by
    rw [hcontrol]
    exact h.owned.paired
  have hjitter : s'.control.jitter = s.control.jitter := by rw [hcontrol]
  have hlive : live s'.rollback = false := by
    rw [hrollback, h.rollback]
    rfl
  refine (ends_restoreAndFail hheap hlive hpaired status answers).imp ?_
  rintro r s'' ⟨hfailed, howned, hpresent, hprevious, htransient⟩
  rw [hjitter, hspare] at hpresent hprevious
  exact ⟨⟨howned, hprevious.trans h.previous.symm, fun hruns => h.runs (htransient hruns)⟩,
    .inr ⟨hfailed, hpresent.trans h.present.symm⟩⟩

end Exchanged

theorem ends_exchangeHardware (h : Exchanged s id transient) (hheld : s.held id = false)
    (hdrained : Drained s) (prepared : PreparedChannelReplacement P) (answers : ActivateAnswers P) :
    Ends (exchangeHardware id prepared transient answers) s (Activates prepared s) := by
  unfold exchangeHardware
  refine (ends_capture hdrained).bind (fun retained s₁ hs => ?_) fun e s₁ hs => ?_
  · subst s₁
    refine ends_modify_bind.mpr ?_
    -- The station that is no more the channel's has stepped aside.
    have hparked : Heap { s with control := { s.control with hardware := none } } none (some id) :=
      (h.heap.park hheld).frame rfl rfl rfl fun hlive => hlive
    have hspare {s' : Channel P} (hbeside : Beside (some id)
        { s with control := { s.control with hardware := none } } s') :
        spare s' id s.control.jitter = spare s id s.control.jitter := hbeside.spare s.control.jitter
    refine (ends_openStation hparked prepared.media prepared.preflight prepared.remote
      answers.opened).attempt_bind ?_
    rintro r s₂ ⟨hbeside, hopens⟩
    cases hopens with
    | refused hheap =>
      exact h.restoreAndFail prepared hheap.resume hbeside.rollback (by rw [hbeside.control])
        (hspare hbeside) _ answers
    | opened hheap hst hequipped =>
      rename_i new station
      refine (ends_startReplacement hheap hst retained answers).attempt_bind ?_
      rintro r s₃ ⟨hheap', hbeside', after, hst', hequipment⟩
      have hbeside₃ := hbeside.trans hbeside'
      cases r with
      | error e =>
        refine ends_modify_bind.mpr ?_
        have hbeside₄ := hbeside₃.trans hheap'.beside_drop
        exact h.restoreAndFail prepared hheap'.drop.resume hbeside₄.rollback
          (by rw [hbeside₄.control])
          (hspare hbeside₄) _ answers
      | ok =>
        rw [ends_get_bind]
        refine ends_modify_bind.mpr (ends_modify_bind.mpr ?_)
        have hcontrol := hbeside₃.control
        have hjitter : s₃.control.jitter = s.control.jitter := by rw [hcontrol]
        have hadopted : Kept s { s₃ with
            control := { s₃.control with hardware := some new, jitter := prepared.jitter }
            rollback := some ⟨.hardware id transient, s₃.control.jitter⟩ } := by
          refine ⟨⟨hheap'.frame rfl rfl rfl fun _ => ?_, fun _ => rfl, fun _ => ?_, ?_, ?_⟩, ?_,
            h.runs⟩
          · rw [hbeside₃.rollback]
            exact congrArg live h.rollback
          · rw [hcontrol]
            exact h.reload
          · intro reload plan hsome
            rw [hcontrol] at hsome
            exact absurd (h.reload.symm.trans hsome) (Option.some_ne_none _).symm
          · rw [hcontrol]
            exact h.owned.paired
          · rw [h.previous, ← hspare hbeside₃, ← hjitter]
            rfl
        refine (ends_channelActivationReady hadopted.owned answers.ready).imp ?_
        intro r s₄ haside
        refine ⟨hadopted.trans haside.kept, .inl (Adopts.aside ?_ haside)⟩
        refine ⟨.hardware rfl ?_ rfl, rfl⟩
        rw [hst', Option.map_some, hequipment, hequipped]
  · subst hs
    exact ⟨h.owned.kept, .inr ⟨fun hok => (by cases hok), rfl⟩⟩

theorem ends_captureTransient (h : Owned s) (hid : s.control.hardware = some id)
    (answers : ActivateAnswers P) :
    Ends (captureTransient id answers) s fun r s' => Aside s s' ∧
      ∀ transient, r = .ok transient → transient.isSome = true → s.control.running = true := by
  obtain ⟨station, hst⟩ := h.exists_station hid
  unfold captureTransient
  rw [ends_get_bind]
  split
  · rename_i hrunning
    have hstate : Ends (HardwareStation.transientState answers.transient) station
        fun _ after => HardwareStation.Alike station after := by
      unfold HardwareStation.transientState
      rw [ends_get_bind]
      split
      · exact ends_of.mpr (.refl station)
      · exact ends_fail.mpr (.refl station)
    refine (h.ends_alike hid hst hstate).bind (fun state s' h' => ?_) fun _ _ h' => ?_
    · exact ends_pure.mpr ⟨h', fun _ _ _ => hrunning⟩
    · exact ⟨h', fun _ _ _ => hrunning⟩
  · refine ends_pure.mpr ⟨h.aside, fun transient hok hsome => ?_⟩
    obtain rfl := Except.ok.inj hok
    cases hsome

theorem ends_suspendStation (answers : ActivateAnswers P) :
    Ends (suspendStation answers) station fun r after =>
      Serves station after ∧ (r = .ok () → after.holds = false) := by
  unfold suspendStation
  refine ends_modify_bind.mpr ?_
  refine (HardwareStation.ends_suspend answers.stopped answers.stoppedAgain answers.service).imp ?_
  rintro r after ⟨halike, hholds⟩
  refine ⟨?_, hholds⟩
  have hserves := Serves.of_alike halike
  split at hserves
  · exact ⟨hserves.equipment, hserves.planOf, hserves.plan, hserves.settled⟩
  · exact hserves

theorem ends_activateHardware (h : Exchanged s id none)
    (prepared : PreparedChannelReplacement P) (answers : ActivateAnswers P) :
    Ends (activateHardware id prepared answers) s (Activates prepared s) := by
  unfold activateHardware
  refine (ends_captureTransient h.owned h.hardware answers).bind ?_ ?_
  · rintro transient s₁ ⟨haside, hrunning⟩
    have h₁ : Exchanged s₁ id transient := by
      have hnone := h.aside haside
      refine ⟨hnone.owned, hnone.hardware, hnone.rollback, hnone.reload, fun hsome => ?_⟩
      rw [haside.control]
      exact hrunning transient rfl hsome
    obtain ⟨station, hst⟩ := h₁.heap.exists_station
    refine (h₁.owned.ends_serve h₁.hardware hst (ends_suspendStation answers)).attempt_bind ?_
    rintro r s₂ ⟨haside₂, result, after, rfl, hst', hholds⟩
    have h₂ := h₁.aside haside₂
    have hkept₂ := haside.kept.trans haside₂.kept
    cases result with
    | error e =>
      refine (h₂.restoreAndFail prepared h₂.heap rfl rfl rfl _ answers).imp fun r s' h' => ?_
      exact Activates.before hkept₂ h.rollback h₂.rollback h'
    | ok =>
      have hheld : s₂.held id = false := by
        simp only [Channel.held, hst', Option.any_some]
        exact hholds rfl
      refine (ends_drainReceive h₂.owned answers.drainAgain).attempt_bind ?_
      rintro r s₃ ⟨haside₃, hheld₃, hdrained⟩
      have h₃ := h₂.aside haside₃
      have hkept₃ := hkept₂.trans haside₃.kept
      cases r with
      | error status =>
        refine (h₃.restoreAndFail prepared h₃.heap rfl rfl rfl _ answers).imp fun r s' h' => ?_
        exact Activates.before hkept₃ h.rollback h₃.rollback h'
      | ok =>
        rw [← hheld₃] at hheld
        refine (ends_exchangeHardware h₃ hheld (hdrained rfl) prepared answers).imp fun r s' h' => ?_
        exact Activates.before hkept₃ h.rollback h₃.rollback h'
  · rintro e s₁ ⟨haside, -⟩
    refine ⟨haside.kept, .inr ⟨fun hok => (by cases hok), ?_⟩⟩
    rw [← previous_of_none h.rollback, ← previous_of_none (h.aside haside).rollback,
      haside.kept.previous]

/-! ## The activation -/

/-- The exchange of media that were never started. -/
theorem ends_activatePrepared (h : Owned s) (hrollback : s.rollback = none)
    (hhardware : s.control.hardware = none) (hreload : s.control.reload = none)
    (hdrained : Drained s) (prepared : PreparedChannelReplacement P) :
    Ends (activatePrepared prepared) s (Activates prepared s) := by
  have hfailed (e : Status) : Activates prepared s (.error e) s :=
    ⟨h.kept, .inr ⟨fun hok => (by cases hok), rfl⟩⟩
  unfold activatePrepared
  refine (ends_capture hdrained).bind (fun retained s' hs => ?_) fun e s' hs => hs ▸ hfailed e
  subst s'
  rw [ends_get_bind]
  split
  · exact ends_fail.mpr (hfailed _)
  · rename_i media hmedia
    refine ends_modify_bind.mpr ?_
    split
    · rename_i hpreflight
      have hpaired := h.paired (by simp [hmedia])
      rw [hpreflight] at hpaired
      cases hpaired
    · rename_i preflight hpreflight
      refine ends_modify_bind.mpr (ends_modify.mpr ⟨⟨?_, ?_, fun hruns => ?_⟩, .inl ?_⟩)
      · refine h.frame rfl rfl rfl rfl ?_ (fun _ => ?_) (fun hrun => hrun) (fun _ => hreload) ?_
          fun _ => rfl
        · rw [hrollback]
          rfl
        · rw [hrollback]
          rfl
        · intro reload plan hsome
          exact absurd (hreload.symm.trans hsome) (Option.some_ne_none _).symm
      · unfold previous present
        rw [hrollback, hmedia, hpreflight]
        exact generation_congr fun _ _ => rfl
      · unfold runs
        rw [hrollback]
        exact hruns
      · exact ⟨.media hhardware rfl rfl rfl rfl, rfl⟩

/-- A replacement is adopted as a whole, and stays adopted. -/
theorem ends_channelReloadActivate (h : Owned s) (answers : ActivateAnswers P) :
    Ends (channelReloadActivate answers) s fun r s' => Kept s s' ∧
      (∀ prepared, s.control.reload = some (.replacement prepared) → Activates prepared s r s') ∧
      ∀ prepared, Adopts prepared s → Adopts prepared s' := by
  have hfree {reload : PreparedChannelReload P} (hreload : s.control.reload = some reload)
      (prepared : PreparedChannelReplacement P) : ¬ Adopts prepared s := by
    intro hadopts
    have hexchanged := hadopts.exchanged
    rw [h.rollback_none hreload] at hexchanged
    cases hexchanged
  have hnot {adopted : AdoptedChannelReload P} (hrollback : s.rollback = some adopted) :
      s.control.reload = none := h.single (by simp [hrollback])
  unfold channelReloadActivate
  rw [ends_get_bind]
  split
  · rename_i hrollback
    refine (ends_channelActivationReady h answers.ready).imp fun r s' haside => ?_
    refine ⟨haside.kept, fun _ hreload => ?_, fun _ hadopts => hadopts.aside haside⟩
    exact absurd ((hnot hrollback).symm.trans hreload) (Option.some_ne_none _).symm
  · rename_i hrollback
    have hreload := hnot hrollback
    have hlive (prepared : PreparedChannelReplacement P) : ¬ Adopts prepared s := by
      intro hadopts
      have hexchanged := hadopts.exchanged
      rw [hrollback] at hexchanged
      cases hexchanged
    have hresult {r : Except Status Unit} {s' : Channel P} (hkept : Kept s s') : Kept s s' ∧
        (∀ prepared, s.control.reload = some (.replacement prepared) → Activates prepared s r s') ∧
        ∀ prepared, Adopts prepared s → Adopts prepared s' :=
      ⟨hkept, fun _ hsome => absurd (hreload.symm.trans hsome) (Option.some_ne_none _).symm,
        fun prepared hadopts => absurd hadopts (hlive prepared)⟩
    split
    · exact ends_fail.mpr (hresult h.kept)
    · rename_i id hid
      exact (ends_acceptUpdate h hid hreload (by rw [hrollback]; rfl) answers.update).imp
        fun _ _ hkept => hresult hkept
  · rename_i hreload _ _
    refine ends_fail.mpr ⟨h.kept, fun _ hsome => ?_, fun _ hadopts => hadopts⟩
    exact absurd (hreload.symm.trans hsome) (Option.some_ne_none _).symm
  · rename_i hreload _ _
    have hnone := h.rollback_none hreload
    refine ends_modify_bind.mpr (ends_modify.mpr ⟨⟨?_, ?_, fun hruns => ?_⟩, fun _ hsome => ?_,
      fun prepared hadopts => absurd hadopts (hfree hreload prepared)⟩)
    · refine h.unprepared.owned.frame rfl rfl rfl rfl ?_ (fun _ => congrArg live hnone)
        (fun hrun => hrun) (fun _ => rfl)
        (fun _ _ hsome => absurd hsome.symm (Option.some_ne_none _)) h.paired
      rw [show ({ s with control := { s.control with reload := none } } : Channel P).rollback = none
        from hnone]
      rfl
    · rw [previous_of_none hnone]
      rfl
    · unfold runs
      rw [hnone]
      exact hruns
    · cases hreload.symm.trans hsome
  · rename_i hreload _ _
    refine ends_fail.mpr ⟨h.kept, fun _ hsome => ?_, fun _ hadopts => hadopts⟩
    cases hreload.symm.trans hsome
  · rename_i hreload _ _
    refine (ends_activateLive h hreload answers).imp fun r s' hkept => ?_
    refine ⟨hkept, fun _ hsome => ?_, fun prepared hadopts => absurd hadopts (hfree hreload prepared)⟩
    cases hreload.symm.trans hsome
  · rename_i prepared hreload _ _
    have hnone := h.rollback_none hreload
    have hresult {r : Except Status Unit} {s' : Channel P} (hactivates : Activates prepared s r s') :
        Kept s s' ∧
        (∀ prepared, s.control.reload = some (.replacement prepared) → Activates prepared s r s') ∧
        ∀ prepared, Adopts prepared s → Adopts prepared s' := by
      refine ⟨hactivates.kept, fun prepared' hsome => ?_,
        fun prepared hadopts => absurd hadopts (hfree hreload prepared)⟩
      cases hreload.symm.trans hsome
      exact hactivates
    refine (ends_drainReceive h answers.drain).bind (fun _ s₁ h₁ => ?_) fun e s₁ h₁ => ?_
    · obtain ⟨haside, -, hdrained⟩ := h₁
      refine ends_modify_bind.mpr ?_
      have hkept := haside.kept.trans haside.owned.unprepared
      have hrollback := haside.rollback.trans hnone
      split
      · rename_i hhardware
        refine (ends_activatePrepared haside.owned.unprepared.owned hrollback ?_ rfl (hdrained rfl)
          prepared).imp fun r s' h' => hresult (h'.before hkept hnone hrollback)
        exact haside.hardware.trans hhardware
      · rename_i id hid
        refine (ends_activateHardware ⟨haside.owned.unprepared.owned, haside.hardware.trans hid,
          hrollback, rfl, fun hsome => (by cases hsome)⟩ prepared answers).imp fun r s' h' =>
            hresult (h'.before hkept hnone hrollback)
    · refine hresult ⟨h₁.1.kept, .inr ⟨fun hok => (by cases hok), ?_⟩⟩
      rw [← previous_of_none hnone, ← previous_of_none (h₁.1.rollback.trans hnone), h₁.1.kept.previous]

end Product
end UsbRadioPlus
