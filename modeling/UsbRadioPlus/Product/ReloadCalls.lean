import UsbRadioPlus.Product.ReloadOwnership

/-!
# What the calls of a channel keep

Each call ends, without a panic, where its devices have one owner again (`Owned`). All of them but a
start and a commit keep the generation that a rollback brings back (`Kept`); the ones that are no part
of a reload keep all of it (`Aside`).
-/

namespace UsbRadioPlus
namespace Product

open Sys Fallible Station Driver Asl3

variable {P : ProductParts} {s s' : Channel P} {id : Nat}
  {station after : HardwareStation P.toStationParts}

/-! ## Work beside a reload -/

/-- A call that leaves all but the media of the next generation alone. -/
structure Aside (s s' : Channel P) : Prop where
  kept : Kept s s'
  rollback : s'.rollback = s.rollback
  control : s'.control = { s.control with media := s'.control.media }
  media : s'.control.media.map (fun media => (media.plan, media.direct)) =
    s.control.media.map fun media => (media.plan, media.direct)
  opened : ∀ id, (s'.stations id).map HardwareStation.equipment =
    (s.stations id).map HardwareStation.equipment

namespace Aside

theorem owned (h : Aside s s') : Owned s' := h.kept.owned

theorem hardware (h : Aside s s') : s'.control.hardware = s.control.hardware := by rw [h.control]

theorem reload (h : Aside s s') : s'.control.reload = s.control.reload := by rw [h.control]

theorem jitter (h : Aside s s') : s'.control.jitter = s.control.jitter := by rw [h.control]

theorem trans {s'' : Channel P} (h : Aside s s') (h' : Aside s' s'') : Aside s s'' where
  kept := h.kept.trans h'.kept
  rollback := h'.rollback.trans h.rollback
  control := by rw [h'.control, h.control]
  media := h'.media.trans h.media
  opened id := (h'.opened id).trans (h.opened id)

end Aside

theorem Owned.aside (h : Owned s) : Aside s s := ⟨h.kept, rfl, rfl, rfl, fun _ => rfl⟩

theorem Owned.exists_station (h : Owned s) (hid : s.control.hardware = some id) :
    ∃ station, s.stations id = some station := by
  have hheap := h.heap
  rw [hid] at hheap
  exact hheap.exists_station

variable {α : Type} {failure : StationError P.toStationParts → Status}
  {m : HardwareStation.Working P.toStationParts α}

theorem Owned.aside_worked (h : Owned s) (hid : s.control.hardware = some id)
    (hst : s.stations id = some station) (hserves : Serves station after) :
    Aside s (s.worked id station after) := by
  refine ⟨h.serves hid hst hserves, rfl, rfl, rfl, fun other => ?_⟩
  by_cases hne : other = id
  · subst hne
    rw [stations_worked_self, hst, Option.map_some, Option.map_some, hserves.equipment]
  · rw [stations_worked_ne hne]

theorem Owned.ends_serve {R : Except (StationError P.toStationParts) α →
      HardwareStation P.toStationParts → Prop} (h : Owned s)
    (hid : s.control.hardware = some id) (hst : s.stations id = some station)
    (hm : Ends m station fun r after => Serves station after ∧ R r after) :
    Ends (onStation id failure m) s fun r s' => Aside s s' ∧
      ∃ result after, r = result.mapError failure ∧ s'.stations id = some after ∧
        R result after := by
  refine (ends_onStation hst hm).imp ?_
  rintro r s' ⟨result, after, ⟨hserves, hr⟩, rfl, rfl⟩
  exact ⟨h.aside_worked hid hst hserves, result, after, rfl, stations_worked_self, hr⟩

/-- Work that leaves the generation of the station alone. -/
theorem Owned.ends_alike (h : Owned s) (hid : s.control.hardware = some id)
    (hst : s.stations id = some station)
    (hm : Ends m station fun _ after => HardwareStation.Alike station after) :
    Ends (onStation id failure m) s fun _ s' => Aside s s' :=
  (h.ends_serve (R := fun _ _ => True) hid hst
    (hm.imp fun _ _ halike => ⟨.of_alike halike, trivial⟩)).imp fun _ _ h' => h'.1

/-- A station of a remote radio may be retuned. -/
theorem ends_serviceRemote (answers : ReadyAnswers P) :
    Ends (serviceRemote answers) station fun _ after => Serves station after ∧ True := by
  refine ends_modify.mpr ⟨?_, trivial⟩
  split
  · rename_i hremote
    have habsurd {p : Prop} (hnot : station.remoteDsp = false) : p :=
      absurd (hremote.symm.trans hnot) (by decide)
    exact ⟨rfl, by simp [planOf, hremote], habsurd, fun _ => habsurd⟩
  · exact ⟨rfl, rfl, fun hremote => ⟨hremote, rfl⟩, fun hsettled => hsettled⟩

theorem ends_channelActivationReady (h : Owned s) (answers : ReadyAnswers P) :
    Ends (channelActivationReady answers) s fun _ s' => Aside s s' := by
  unfold channelActivationReady
  rw [ends_get_bind]
  split
  · split
    · exact ends_fail.mpr h.aside
    · rename_i id hid
      obtain ⟨station, hst⟩ := h.exists_station hid
      refine (h.ends_serve hid hst (ends_serviceRemote answers)).bind (fun _ s' h' => ?_)
        fun _ _ h' => h'.1
      rw [ends_get_bind]
      split
      · exact ends_pure.mpr h'.1
      · exact ends_pure.mpr h'.1
      · exact ends_fail.mpr h'.1
      · exact ends_fail.mpr h'.1
  · exact ends_pure.mpr h.aside

/-- Nothing waits for the controller. -/
def Drained (s : Channel P) : Prop :=
  ∀ state, controller s = some state → state.pending = none ∧ waiting s = 0

theorem Owned.media (h : Owned s) {media : StationMedia P.toStationParts}
    (hmedia : s.control.media = some media) (media' : StationMedia P.toStationParts) (hplan : media'.plan = media.plan)
    (hdirect : media'.direct = media.direct) :
    Aside s { s with control := { s.control with media := some media' } } := by
  have howned : Owned { s with control := { s.control with media := some media' } } :=
    h.frame rfl rfl rfl rfl rfl id id h.single h.current fun _ => h.paired (by simp [hmedia])
  refine ⟨⟨howned, ?_, id⟩, rfl, rfl, by simp [hmedia, hplan, hdirect], fun _ => rfl⟩
  unfold previous present generation
  simp only [hmedia, Option.map_some, hplan, hdirect]

/-- Behind a drain that has ended, the controller has what there was. -/
theorem ends_drainReceive (h : Owned s) (answer : DrainAnswer) :
    Ends (drainReceive answer) s fun r s' =>
      Aside s s' ∧ s'.held = s.held ∧ (r = .ok () → Drained s') := by
  unfold drainReceive
  rw [ends_get_bind]
  split
  · rename_i id hid
    obtain ⟨station, hst⟩ := h.exists_station hid
    refine (ends_onStation (R := fun r after => r = .ok () ∧ after = { station with
      controller := answer.controller, available := answer.available }) hst
      (ends_modify.mpr ⟨rfl, rfl⟩)).bind ?_ ?_
    · rintro - s' ⟨-, _, ⟨rfl, rfl⟩, -, rfl⟩
      have hserves : Serves station { station with
          controller := answer.controller, available := answer.available } :=
        ⟨rfl, rfl, fun hremote => ⟨hremote, rfl⟩, fun hsettled => hsettled⟩
      have haside := h.aside_worked hid hst hserves
      have hheld : (s.worked id station { station with
          controller := answer.controller, available := answer.available }).held = s.held := by
        funext other
        by_cases hne : other = id
        · subst hne
          simp only [Channel.held, stations_worked_self, hst]
          rfl
        · simp only [Channel.held, stations_worked_ne hne]
      split
      · rename_i hdelivered
        refine ends_pure.mpr ⟨haside, hheld, fun _ state hstate => ?_⟩
        have hid' := haside.hardware.trans hid
        obtain ⟨hpending, hnone⟩ := answer.drained hdelivered
        simp only [controller, hid', stations_worked_self, Option.map_some,
          Option.some.injEq] at hstate
        subst hstate
        refine ⟨hpending, ?_⟩
        simpa [waiting, hid', stations_worked_self] using hnone
      · exact ends_fail.mpr ⟨haside, hheld, fun hok => (by cases hok)⟩
    · rintro e s' ⟨_, _, ⟨rfl, -⟩, herror, -⟩
      cases herror
  · rename_i hnone
    split
    · rename_i media hmedia
      refine ends_modify_bind.mpr ?_
      have haside := h.media hmedia { media with controller := answer.controller } rfl rfl
      split
      · rename_i hdelivered
        refine ends_pure.mpr ⟨haside, rfl, fun _ state hstate => ?_⟩
        obtain ⟨hpending, -⟩ := answer.drained hdelivered
        simp only [controller, hnone, Option.map_some, Option.some.injEq] at hstate
        subst hstate
        exact ⟨hpending, by simp [waiting, hnone]⟩
      · exact ends_fail.mpr ⟨haside, rfl, fun hok => (by cases hok)⟩
    · exact ends_fail.mpr ⟨h.aside, rfl, fun hok => (by cases hok)⟩

/-- "receive handoff was drained before reload-state capture". -/
theorem ends_capture (h : Drained s) : Ends capture s fun _ s' => s' = s := by
  unfold capture
  rw [ends_get_bind]
  split
  · exact ends_fail.mpr rfl
  · rename_i state hstate
    obtain ⟨hpending, hwaiting⟩ := h state hstate
    simp only [ControllerState.reloadState, hpending, hwaiting, Option.isSome_none, ne_eq,
      not_true_eq_false, decide_false, Bool.or_false, Bool.false_eq_true, if_false]
    exact ends_pure.mpr rfl

/-! ## Stop and service -/

/-- A stop keeps the generation, as a rollback does not start it. -/
theorem Owned.stopped (h : Owned s) :
    Kept s { s with control := { s.control with running := false } } := by
  refine ⟨h.frame rfl rfl rfl rfl rfl id (fun hrun => (by cases hrun)) h.single h.current
    h.paired, rfl,
    fun hruns => ?_⟩
  unfold runs at hruns ⊢
  split at hruns
  · rename_i hrollback
    rw [show s.rollback = _ from hrollback]
    exact hruns
  · cases hruns

theorem ends_channelStop (h : Owned s) (answers : StopStationAnswers) :
    Ends (channelStop answers) s fun _ s' => Kept s s' := by
  unfold channelStop
  rw [ends_get_bind]
  split
  · exact ends_modify.mpr h.stopped
  · rename_i id hid
    obtain ⟨station, hst⟩ := h.exists_station hid
    refine (h.ends_alike hid hst ((HardwareStation.ends_stop answers.stopped answers.service).imp
      fun _ _ h' => h'.1)).bind (fun _ s' h' => ?_) fun _ _ h' => h'.kept
    exact ends_modify.mpr (h'.kept.trans h'.owned.stopped)

theorem ends_pollStop (h : Owned s) (answers : StopStationAnswers) :
    Ends (pollStop answers) s fun _ s' => Aside s s' := by
  unfold pollStop
  rw [ends_get_bind]
  split
  · exact ends_pure.mpr h.aside
  · rename_i id hid
    obtain ⟨station, hst⟩ := h.exists_station hid
    exact h.ends_alike hid hst (HardwareStation.ends_pollStop _ _ _)

theorem ends_channelQuiesce (h : Owned s) (answers : StopStationAnswers) :
    Ends (channelQuiesce answers) s fun _ s' => Kept s s' := by
  unfold channelQuiesce
  refine (ends_pollStop h answers).bind (fun done s' h' => ?_) fun _ _ h' => h'.kept
  refine ends_modify_bind.mpr ?_
  split
  · exact ends_pure.mpr (h'.kept.trans h'.owned.stopped)
  · exact ends_fail.mpr (h'.kept.trans h'.owned.stopped)

theorem ends_channelService (h : Owned s) (answers : ReadyAnswers P)
    (delivered : Except Status Unit) (drain : DrainAnswer) :
    Ends (channelService answers delivered drain) s fun _ s' => Aside s s' := by
  have hservice : Ends (serviceStation answers) s fun _ s' => Aside s s' := by
    unfold serviceStation
    rw [ends_get_bind]
    split
    · rename_i id hid
      obtain ⟨station, hst⟩ := h.exists_station hid
      exact (h.ends_serve hid hst (ends_serviceRemote answers)).imp fun _ _ h' => h'.1
    · exact ends_pure.mpr h.aside
  refine hservice.bind (fun _ s' h' => ?_) fun _ _ h' => h'
  cases delivered with
  | error e => exact ends_of_bind.mpr h'
  | ok =>
    refine ends_of_ok_bind.mpr ?_
    exact (ends_drainReceive h'.owned drain).imp fun _ _ h'' => h'.trans h''.1

/-! ## Prepare -/

/-- Another generation has been prepared. -/
theorem Owned.prepared (h : Owned s) (hnone : s.rollback = none)
    {reload : PreparedChannelReload P}
    (hreload : ∀ plan, preparedFrom reload = some plan → ∃ id station,
      s.control.hardware = some id ∧ s.stations id = some station ∧
        (station.remoteDsp = false → plan = station.plan)) :
    Kept s { s with control := { s.control with reload := some reload } } := by
  refine ⟨h.frame rfl rfl rfl rfl rfl id id (fun hsome => ?_) ?_ h.paired, rfl, id⟩
  · rw [show s.rollback = none from hnone] at hsome
    cases hsome
  · intro reload' plan heq hprepared
    obtain rfl := Option.some.inj heq
    exact hreload plan hprepared

/-- It is given up. -/
theorem Owned.unprepared (h : Owned s) :
    Kept s { s with control := { s.control with reload := none } } :=
  ⟨h.frame rfl rfl rfl rfl rfl id id (fun _ => rfl)
    (fun _ _ hsome => absurd hsome.symm (Option.some_ne_none _)) h.paired, rfl, id⟩

theorem Owned.rollback_none (h : Owned s) {reload : PreparedChannelReload P}
    (hreload : s.control.reload = some reload) : s.rollback = none := by
  cases hrollback : s.rollback with
  | none => rfl
  | some adopted =>
    have hnone := h.single (by simp [hrollback])
    exact absurd (hnone.symm.trans hreload) (Option.some_ne_none _).symm

theorem ends_setupResult {β : Type} (result : Option β) :
    Ends (setupResult result) s fun _ s' => s' = s := by
  unfold setupResult
  split
  · exact ends_pure.mpr rfl
  · exact ends_fail.mpr rfl

/-- Without a live update, nothing has changed. -/
theorem ends_prepareLive (h : Owned s) (hnone : s.rollback = none)
    (hrunning : s.control.running = true) (before configuration : P.ChannelConfiguration)
    (remote : Option P.RemoteConfiguration) (answers : PrepareAnswers P) :
    Ends (prepareLive before configuration remote answers) s fun r s' =>
      Kept s s' ∧ (r = .ok false → s' = s) := by
  obtain ⟨id, hid⟩ := Option.isSome_iff_exists.mp (h.running hrunning)
  obtain ⟨station, hst⟩ := h.exists_station hid
  unfold prepareLive
  simp only [ends_get_bind, hid]
  refine (ends_setupResult answers.livePlan).bind (fun plan s' hs => ?_) fun _ s' hs => ?_
  · subst hs
    simp only [hst]
    split
    · refine (h.ends_serve (R := fun r after => after = station ∧
        ∀ snapshot, r = .ok snapshot → snapshot.previous = station.plan) hid hst
        ((HardwareStation.ends_updateSnapshot answers.processing).imp ?_)).bind ?_ ?_
      · rintro r after ⟨rfl, hsnapshot⟩
        exact ⟨⟨rfl, rfl, fun hremote => ⟨hremote, rfl⟩, fun hsettled => hsettled⟩, rfl, hsnapshot⟩
      · rintro snapshot s' ⟨haside, result, after, hresult, hafter, rfl, hsnapshot⟩
        have hprevious : snapshot.previous = after.plan := by
          cases result with
          | ok snapshot' => exact hsnapshot snapshot (congrArg Except.ok (Except.ok.inj hresult).symm)
          | error e => cases hresult
        split
        · refine ends_modify_bind.mpr (ends_pure.mpr ⟨?_, fun hok => (by cases hok)⟩)
          refine haside.kept.trans (haside.owned.prepared (haside.rollback.trans hnone) ?_)
          rintro plan' hplan'
          refine ⟨id, after, haside.hardware.trans hid, hafter, fun _ => ?_⟩
          exact (Option.some.inj hplan').symm.trans hprevious
        · exact ends_fail.mpr ⟨haside.kept, fun hok => (by cases hok)⟩
      · rintro e s' ⟨haside, -⟩
        exact ⟨haside.kept, fun hok => (by cases hok)⟩
    · exact ends_pure.mpr ⟨h.kept, fun _ => rfl⟩
  · subst hs
    exact ⟨h.kept, fun hok => (by cases hok)⟩

theorem ends_attachDirect (media : StationMedia P.toStationParts) (attached : Bool) :
    Ends (attachDirect media attached) s fun _ s' => s' = s := by
  unfold attachDirect
  rw [ends_get_bind]
  split
  · split
    · exact ends_pure.mpr rfl
    · exact ends_fail.mpr rfl
  · exact ends_pure.mpr rfl

theorem ends_prepareReplacement (h : Owned s) (hnone : s.rollback = none)
    (configuration : P.ChannelConfiguration) (remote : Option P.RemoteConfiguration)
    (answers : PrepareAnswers P) :
    Ends (prepareReplacement configuration remote answers) s fun _ s' => Kept s s' := by
  have hfail {s' : Channel P} (hs : s' = s) : Kept s s' := hs ▸ h.kept
  unfold prepareReplacement
  refine (ends_setupResult answers.plan).bind (fun _ s₁ hs => ?_) fun _ _ hs => hfail hs
  subst hs
  refine (ends_setupResult answers.remote).bind (fun _ s₂ hs => ?_) fun _ _ hs => hfail hs
  subst hs
  refine (ends_setupResult answers.preflight).bind (fun _ s₃ hs => ?_) fun _ _ hs => hfail hs
  subst hs
  refine (ends_setupResult answers.media).bind (fun _ s₄ hs => ?_) fun _ _ hs => hfail hs
  subst hs
  refine (ends_attachDirect _ answers.attached).bind (fun _ s₅ hs => ?_) fun _ _ hs => hfail hs
  subst hs
  exact ends_modify.mpr (h.prepared hnone fun _ hplan => absurd hplan.symm (Option.some_ne_none _))

theorem ends_prepareGeneration (h : Owned s) (driver : DriverInner P) (answers : PrepareAnswers P) :
    Ends (prepareGeneration driver answers) s fun _ s' => Kept s s' := by
  unfold prepareGeneration
  rw [ends_get_bind]
  split
  · exact ends_fail.mpr h.kept
  · rename_i hsome
    have hnone : s.rollback = none := by simpa using hsome
    split
    · exact ends_fail.mpr h.kept
    · split
      · exact ends_fail.mpr h.kept
      · split
        · exact ends_modify.mpr (h.prepared hnone fun _ hplan =>
            absurd hplan.symm (Option.some_ne_none _))
        · split
          · exact ends_fail.mpr h.kept
          · split
            · rename_i hrunning
              refine (ends_prepareLive h hnone hrunning _ _ _ answers).bind (fun live s' h' => ?_)
                fun _ _ h' => h'.1
              cases live with
              | true => exact ends_fail.mpr h'.1
              | false =>
                obtain rfl := h'.2 rfl
                exact ends_prepareReplacement h hnone _ _ answers
            · exact ends_prepareReplacement h hnone _ _ answers

theorem previous_of_prepare {self : StationUpdatePreparation P.toStationParts}
    {plan : StationPlan P.toStationParts} {answers : Prepared P.toStationParts}
    {update : StationUpdate P.toStationParts} (h : self.prepare plan answers = .ok update) :
    update.previous = self.previous := by
  unfold StationUpdatePreparation.prepare at h
  split at h
  · cases h
  · split at h
    · cases h
    · split at h
      · cases h
      · cases h
      · split at h
        · cases h
        · cases h
        · exact (congrArg StationUpdate.previous (Except.ok.inj h)).symm

theorem ends_channelReloadPrepare (h : Owned s) (driver : DriverInner P)
    (answers : PrepareAnswers P) :
    Ends (channelReloadPrepare driver answers) s fun _ s' => Kept s s' := by
  unfold channelReloadPrepare
  rw [ends_get_bind]
  split
  · rename_i worker jitter mixers cancelled hreload
    split
    · refine ends_modify_bind.mpr ?_
      split
      · exact (ends_prepareGeneration h.unprepared.owned driver answers).imp fun _ _ h' =>
          h.unprepared.trans h'
      · split
        · exact ends_fail.mpr h.unprepared
        · split
          · exact ends_fail.mpr h.unprepared
          · rename_i update hupdate
            refine ends_modify.mpr (h.prepared (h.rollback_none hreload) fun plan hplan => ?_)
            refine h.current _ plan hreload ?_
            exact (congrArg some (previous_of_prepare hupdate).symm).trans hplan
    · exact ends_fail.mpr h.kept
  · exact ends_fail.mpr h.kept
  · exact ends_prepareGeneration h driver answers

end Product
end UsbRadioPlus
