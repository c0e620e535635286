import UsbRadioPlus.Product.ReloadActivation

/-!
# What the start and the end of a reload keep

A rollback that succeeds makes the previous generation the present one; a commit drops it. A start is
the only other call that changes what a rollback brings back.
-/

namespace UsbRadioPlus
namespace Product

open Sys Fallible Station Driver Asl3

variable {P : ProductParts} {s s' : Channel P} {id : Nat} {idle : Option Nat}
  {station after : HardwareStation P.toStationParts}
  {transient : Option HardwareTransientState} {jitter : P.JitterConfig}

/-! ## Restoration -/

/-- No reload is in progress. -/
def Idle (s : Channel P) : Prop := s.rollback = none ∧ s.control.reload = none

/-- What the end of a reload without a commit leaves. -/
def Reverts (s : Channel P) (r : Except Status Unit) (s' : Channel P) : Prop :=
  Kept s s' ∧ (r = .ok () → Idle s')

theorem Reverts.failed {e : Status} (h : Kept s s') : Reverts s (.error e) s' :=
  ⟨h, fun hok => (by cases hok)⟩

theorem Reverts.before {s'' : Channel P} {r : Except Status Unit} (hreverts : Reverts s' r s'')
    (h : Kept s s') : Reverts s r s'' :=
  ⟨h.trans hreverts.1, hreverts.2⟩

/-- A rollback slot without a station is cleared, as the control has what it says. -/
theorem Owned.cleared (h : Owned s) (hparked : parked s.rollback = none)
    (hlive : live s.rollback = false)
    (hprevious : previous s = present s) (hruns : s.control.running = true → runs s = true) :
    Kept s { s with rollback := none } := by
  exact ⟨h.frame rfl rfl rfl rfl hparked.symm (fun _ => hlive) (fun hrun => hrun)
    (fun hsome => (by cases hsome)) h.current h.paired, hprevious.symm, hruns⟩

theorem ends_finishRestoring (h : Owned s)
    (hrollback : s.rollback = some ⟨.restoring, s.control.jitter⟩) (answers : FinishAnswers P) :
    Ends (finishRestoring answers) s (Reverts s) := by
  have hclear {s' : Channel P} (h' : Owned s')
      (hrollback' : s'.rollback = some ⟨.restoring, s'.control.jitter⟩) :
      Kept s' { s' with rollback := none } := by
    refine h'.cleared (by rw [hrollback']; rfl) (by rw [hrollback']; rfl) ?_ fun hrun => ?_
    · unfold previous
      rw [hrollback']
      rfl
    · unfold runs
      rw [hrollback']
      exact hrun
  have hslot {s' : Channel P} (haside : Aside s s') :
      s'.rollback = some ⟨.restoring, s'.control.jitter⟩ := by
    rw [haside.rollback, hrollback, haside.jitter]
  unfold finishRestoring
  refine (ends_channelActivationReady h answers.ready).attempt_bind fun r s₁ h₁ => ?_
  split
  · exact ends_fail.mpr (.failed h₁.kept)
  · refine ends_modify.mpr ⟨h₁.kept.trans (hclear h₁.owned (hslot h₁)), fun _ => ⟨rfl, ?_⟩⟩
    exact h₁.owned.single (by rw [hslot h₁]; rfl)
  · rw [ends_get_bind]
    split
    · exact ends_fail.mpr (.failed h₁.kept)
    · refine (ends_pollStop h₁.owned answers.stop).bind (fun done s₂ h₂ => ?_) fun _ _ h₂ =>
        .failed (h₁.trans h₂).kept
      have haside := h₁.trans h₂
      split
      · refine ends_modify_bind.mpr (ends_modify_bind.mpr (ends_fail.mpr (.failed ?_)))
        have hstopped := haside.kept.trans haside.owned.stopped
        have hslot₂ := hslot haside
        exact hstopped.trans (hclear hstopped.owned hslot₂)
      · exact ends_fail.mpr (.failed haside.kept)

/-- A station that holds the place of the channel's again. -/
theorem Heap.resumed (h : Heap s (some id) none) (hreload : s.control.reload = none)
    (hpaired : s.control.media.isSome = true → s.control.preflight.isSome = true) {running : Bool}
    {rollback : Option (AdoptedChannelReload P)} (hparked : parked rollback = none)
    (hlive : live s.rollback = false) :
    Owned { s with control := { s.control with running, hardware := some id }, rollback } := by
  refine ⟨?_, fun _ => rfl, fun _ => hreload, fun _ _ hsome => ?_, hpaired⟩
  · show Heap _ (some id) (parked rollback)
    rw [hparked]
    exact h.frame rfl rfl rfl fun _ => hlive
  · exact absurd (hreload.symm.trans hsome) (Option.some_ne_none _).symm

theorem ends_dropHardware (h : Heap s s.control.hardware idle) :
    Ends dropHardware s fun r s' => r = .ok () ∧ Heap s' none idle ∧ s'.rollback = s.rollback ∧
      s'.control = { s.control with hardware := none } ∧
        ∀ id, idle = some id → s'.stations id = s.stations id := by
  unfold dropHardware
  rw [ends_get_bind]
  split
  · rename_i hnone
    refine ends_pure.mpr ⟨rfl, hnone ▸ h, rfl, ?_, fun _ _ => rfl⟩
    rw [← hnone]
  · rename_i id hid
    rw [hid] at h
    exact ends_modify_bind.mpr (ends_modify.mpr ⟨rfl, h.drop.frame rfl rfl rfl fun hlive => hlive, rfl,
      rfl,
      h.beside_drop.station⟩)

theorem ends_rollbackHardware (h : Owned s)
    (hrollback : s.rollback = some ⟨.hardware id transient, s.control.jitter⟩)
    (answers : FinishAnswers P) :
    Ends (rollbackHardware id transient ⟨.hardware id transient, s.control.jitter⟩ answers) s
      (Reverts s) := by
  have hreload := h.single (by simp [hrollback])
  have hprevious : previous s = spare s id s.control.jitter := by
    unfold previous
    rw [hrollback]
    rfl
  unfold rollbackHardware
  refine (ends_pollStop h answers.stop).attempt_bind fun r s₁ h₁ => ?_
  split
  · refine ends_modify_bind.mpr ?_
    have hheap : Heap { s₁ with control := { s₁.control with running := false } }
        s₁.control.hardware (some id) := by
      have hheap := h₁.owned.heap
      rw [h₁.rollback, hrollback] at hheap
      exact hheap.frame rfl rfl rfl fun hlive => hlive
    refine (ends_dropHardware hheap).bind ?_ fun e s₂ h₂ => (by cases h₂.1)
    rintro - s₂ ⟨-, hheap₂, hrollback₂, hcontrol₂, hstations₂⟩
    refine ends_modify_bind.mpr ?_
    have hheap₂ : Heap { s₂ with rollback := none } (some id) none :=
      hheap₂.resume.frame rfl rfl rfl fun _ => by
        rw [hrollback₂, show _ = s.rollback from h₁.rollback, hrollback]
        rfl
    obtain ⟨station, hst⟩ := hheap₂.exists_station
    refine (ends_restorePrevious hst answers.restore).bind ?_ ?_
    · rintro restored s₃ ⟨_, after, hrestored, htrue, halike, rfl⟩
      obtain rfl := Except.ok.inj hrestored
      have hheap₃ := hheap₂.alike hst halike
      have hcontrol : s₂.control = { s.control with
          media := s₁.control.media, running := false, hardware := none } := by
        rw [hcontrol₂, h₁.control]
      have hspare : spare (Channel.worked { s₂ with rollback := none } id station after) id
          s.control.jitter = previous s := by
        have hslot : previous s₁ = spare s₁ id s.control.jitter := by
          unfold previous
          rw [h₁.rollback, hrollback]
          rfl
        rw [← h₁.kept.previous, hslot]
        unfold spare
        rw [show (Channel.worked { s₂ with rollback := none } id station after).control = s₂.control
          from rfl, hcontrol₂]
        refine generation_congr fun other hother => ?_
        obtain rfl := Option.some.inj hother
        refine (plans_worked hst (Serves.of_alike halike).planOf id).trans ?_
        rw [← hstations₂ id rfl]
      have hreload₂ : s₂.control.reload = none := by
        rw [hcontrol]
        exact hreload
      have hpaired₂ : s₂.control.media.isSome = true → s₂.control.preflight.isSome = true := by
        rw [hcontrol₂]
        exact h₁.owned.paired
      have hjitter₂ : s₂.control.jitter = s.control.jitter := by rw [hcontrol]
      split
      · refine ends_modify_bind.mpr (ends_fail.mpr (.failed ⟨?_, ?_, fun hruns => ?_⟩))
        · exact hheap₃.resumed hreload₂ hpaired₂ rfl rfl
        · rw [← hspare, ← hjitter₂]
          rfl
        · have hrunning : s₂.control.running = true := hruns
          rw [hcontrol] at hrunning
          cases hrunning
      · rename_i running
        refine ends_modify_bind.mpr (ends_modify_bind.mpr (ends_modify_bind.mpr ?_))
        have hrestored : Kept s { Channel.worked { s₂ with rollback := none } id station after with
            control := { s₂.control with running, hardware := some id }
            rollback := some ⟨.restoring, s.control.jitter⟩ } := by
          refine ⟨hheap₃.resumed hreload₂ hpaired₂ rfl rfl, hspare, fun hruns => ?_⟩
          unfold runs
          rw [hrollback]
          exact htrue (congrArg some hruns)
        refine (ends_finishRestoring hrestored.owned ?_ answers).imp fun _ _ h' => h'.before hrestored
        rw [hjitter₂]
    · rintro e s₃ ⟨_, _, herror, -⟩
      cases herror
  · exact ends_fail.mpr (.failed h₁.kept)
  · exact ends_fail.mpr (.failed h₁.kept)

/-! ## The end of a reload -/

theorem ends_rollbackAdopted (h : Owned s) {adopted : AdoptedChannelReload P}
    (hrollback : s.rollback = some adopted) (hlive : ∀ jitter, s.rollback ≠ some ⟨.live, jitter⟩)
    (answers : FinishAnswers P) : Ends (rollbackAdopted adopted answers) s (Reverts s) := by
  have hreload := h.single (by simp [hrollback])
  -- The jitter is that of the slot at once.
  have hjitter : Kept s { s with control := { s.control with jitter := adopted.jitter } } := by
    refine ⟨h.frame rfl rfl rfl rfl rfl (fun hlive => hlive) (fun hrun => hrun) h.single h.current
      h.paired, ?_, fun hruns => hruns⟩
    unfold previous
    rw [hrollback]
    obtain ⟨before, jitter⟩ := adopted
    cases before <;> rfl
  unfold rollbackAdopted
  refine ends_modify_bind.mpr ?_
  have hclear (hparked : parked s.rollback = none) (hlive : live s.rollback = false)
      (hpresent : previous { s with control := { s.control with jitter := adopted.jitter } } =
        present { s with control := { s.control with jitter := adopted.jitter } })
      (hruns : s.control.running = true → runs s = true) :
      Reverts s (.ok ()) { s with
        control := { s.control with jitter := adopted.jitter }, rollback := none } :=
    ⟨hjitter.trans (hjitter.owned.cleared hparked hlive hpresent hruns), fun _ => ⟨rfl, hreload⟩⟩
  obtain ⟨before, jitter⟩ := adopted
  have hruns (hbefore : ∀ id transient, before ≠ .hardware id transient)
      (hrun : s.control.running = true) : runs s = true := by
    unfold runs
    rw [hrollback]
    split
    · rename_i heq
      exact absurd (congrArg AdoptedChannelReload.previous (Option.some.inj heq)) (hbefore _ _)
    · exact hrun
  cases before with
  | unchanged =>
    refine ends_modify.mpr (hclear (by rw [hrollback]; rfl) (by rw [hrollback]; rfl) ?_
      (hruns fun _ _ h => (by cases h)))
    unfold previous
    rw [hrollback]
    rfl
  | live => exact absurd hrollback (hlive jitter)
  | restoring =>
    exact (ends_finishRestoring hjitter.owned hrollback answers).imp fun _ _ h' => h'.before hjitter
  | prepared media preflight remote =>
    refine ends_modify_bind.mpr (ends_modify.mpr ⟨⟨?_, ?_, ?_⟩, fun _ => ⟨rfl, hreload⟩⟩)
    · refine h.frame rfl rfl rfl rfl (by rw [hrollback]; rfl) (fun _ => by rw [hrollback]; rfl)
        (fun hrun => hrun) (fun hsome => (by cases hsome)) h.current fun _ => rfl
    · unfold previous
      rw [hrollback]
      rfl
    · exact hruns fun _ _ h => (by cases h)
  | hardware id transient =>
    exact (ends_rollbackHardware hjitter.owned hrollback answers).imp fun _ _ h' => h'.before hjitter

/-- A commit leaves the devices to the station of the channel. -/
theorem ends_retireAdopted (h : Owned s) {adopted : AdoptedChannelReload P}
    (hrollback : s.rollback = some adopted) (hlive : ∀ jitter, s.rollback ≠ some ⟨.live, jitter⟩) :
    Ends (retireAdopted adopted) s fun r s' => r = .ok () ∧ Owned s' ∧ s'.rollback = none ∧
      s'.control = s.control ∧
        ∀ id, s.control.hardware = some id → s'.stations id = s.stations id := by
  have hreload := h.single (by simp [hrollback])
  unfold retireAdopted
  refine ends_modify_bind.mpr ?_
  obtain ⟨before, jitter⟩ := adopted
  have hcleared (hparked : parked s.rollback = none) (hnot : live s.rollback = false) :
      Owned { s with rollback := none } :=
    h.frame rfl rfl rfl rfl hparked.symm (fun _ => hnot) (fun hrun => hrun)
      (fun hsome => (by cases hsome)) h.current h.paired
  cases before with
  | hardware id transient =>
    have hheap := h.heap
    rw [hrollback] at hheap
    have hdropped : Heap (s.setStation id none) s.control.hardware none := hheap.dropIdle
    have hnot : live s.rollback = false := by
      rw [hrollback]
      rfl
    refine ends_modify.mpr ⟨rfl, ⟨hdropped.frame rfl rfl rfl fun _ => hnot, h.running,
      fun hsome => (by cases hsome), ?_, h.paired⟩, rfl, rfl, fun other hother => ?_⟩
    · intro reload plan hsome
      exact absurd (hreload.symm.trans hsome) (Option.some_ne_none _).symm
    · have hne : other ≠ id := fun heq => hheap.apart other hother (heq ▸ rfl)
      simp [Channel.setStation, Function.update_of_ne hne]
  | live => exact absurd hrollback (hlive jitter)
  | _ =>
    exact ends_pure.mpr ⟨rfl, hcleared (by rw [hrollback]; rfl) (by rw [hrollback]; rfl), rfl, rfl,
      fun _ _ => rfl⟩

/-- What a commit leaves: the control, and of the stations the one of the channel. -/
structure Commits (s s' : Channel P) : Prop where
  owned : Owned s'
  rollback : s'.rollback = none
  control : s'.control = s.control
  station : ∀ id, s.control.hardware = some id → s'.stations id = s.stations id

theorem ends_finishReplacement_commit (h : Owned s) (hlive : ∀ jitter, s.rollback ≠ some ⟨.live, jitter⟩)
    (answers : FinishAnswers P) :
    Ends (finishReplacement true answers) s fun r s' => r = .ok () ∧ Commits s s' := by
  unfold finishReplacement
  rw [ends_get_bind, if_pos rfl]
  split
  · rename_i hnone
    exact ends_pure.mpr ⟨rfl, h, hnone, rfl, fun _ _ => rfl⟩
  · rename_i adopted hrollback
    refine (ends_retireAdopted h hrollback hlive).imp ?_
    rintro r s' ⟨hok, howned, hnone, hcontrol, hstation⟩
    exact ⟨hok, howned, hnone, hcontrol, hstation⟩

theorem ends_finishReplacement (h : Owned s) (hlive : ∀ jitter, s.rollback ≠ some ⟨.live, jitter⟩)
    (answers : FinishAnswers P) : Ends (finishReplacement false answers) s (Reverts s) := by
  unfold finishReplacement
  rw [ends_get_bind, if_neg Bool.false_ne_true]
  split
  · rename_i hsome
    obtain ⟨reload, hreload⟩ := Option.isSome_iff_exists.mp hsome
    exact ends_modify.mpr ⟨h.unprepared, fun _ => ⟨h.rollback_none hreload, rfl⟩⟩
  · rename_i hnone
    split
    · rename_i hrollback
      exact ends_pure.mpr ⟨h.kept, fun _ => ⟨hrollback, by simpa using hnone⟩⟩
    · rename_i adopted hrollback
      exact ends_rollbackAdopted h hrollback hlive answers

/-! ### Live updates -/

/-- Behind the end of a live update the station is settled, and the slot is cleared. -/
theorem Owned.ended (h : Owned s) (hid : s.control.hardware = some id)
    (station : HardwareStation P.toStationParts) (hrollback : live s.rollback = true)
    (hclosed : after.storage.transaction = none) :
    Owned { s.worked id station after with rollback := none } := by
  have hreload : s.control.reload = none := h.single (by
    cases hr : s.rollback with
    | none => simp [hr, live] at hrollback
    | some adopted => rfl)
  have hparked : parked s.rollback = none := by
    unfold live at hrollback
    split at hrollback
    · rename_i hr
      rw [hr]
      rfl
    · cases hrollback
  have hheap : Heap s (some id) none := by
    have hheap := h.heap
    rwa [hid, hparked] at hheap
  have hset : Heap (s.worked id station after) (some id) none :=
    hheap.worked station fun _ _ => hclosed
  refine ⟨?_, h.running, fun hsome => (by cases hsome), fun _ _ hsome => ?_, h.paired⟩
  · show Heap _ s.control.hardware none
    rw [hid]
    refine ⟨hset.fresh, hset.alive, hset.apart, hset.idle, hset.alone, fun _ other st hother => ?_⟩
    -- A live update has no other station.
    rcases (hset.alive other).mp (Option.isSome_iff_exists.mpr ⟨st, hother⟩) with hactive | hidle
    · obtain rfl := Option.some.inj hactive
      have hafter : (s.worked id station after).stations id = some st := hother
      rw [stations_worked_self] at hafter
      exact fun _ => Option.some.inj hafter ▸ hclosed
    · cases hidle
  · exact absurd (hreload.symm.trans hsome) (Option.some_ne_none _).symm

theorem planOf_finished (hupdated : HardwareStation.Updated station after)
    (h : HardwareStation.Finished false station after) : planOf after = planOf station := by
  unfold planOf
  rw [hupdated.remoteDsp]
  split
  · rfl
  · cases h with
    | same hplan hstorage => rw [hplan, hstorage]
    | reverses hsome _ hreverses => simp only [hsome, hreverses]
    | ends hsome hnone hplan => simp only [hsome, hnone, hplan, cond_false]

theorem ends_finishLive (h : Owned s) (hrollback : s.rollback = some ⟨.live, jitter⟩)
    (answers : FinishAnswers P) :
    Ends (finishLive false ⟨.live, jitter⟩ answers) s (Reverts s) := by
  have hlive : live s.rollback = true := by
    rw [hrollback]
    rfl
  have hreload := h.single (by simp [hrollback])
  unfold finishLive
  rw [ends_get_bind]
  split
  · exact ends_fail.mpr (.failed h.kept)
  · rename_i id hid
    obtain ⟨station, hst⟩ := h.exists_station hid
    refine (ends_onStation hst (HardwareStation.ends_finishUpdate false answers.update)).bind ?_ ?_
    · rintro _ s₁ ⟨result, after, ⟨hupdated, hfinished, hclosed⟩, hresult, rfl⟩
      have hplan := planOf_finished hupdated hfinished
      have hok : result.isOk = true := by
        cases result with
        | ok => rfl
        | error e => cases hresult
      refine ends_modify_bind.mpr (ends_modify.mpr ⟨⟨?_, ?_, fun hruns => ?_⟩, fun _ => ⟨rfl, hreload⟩⟩)
      · have hended := h.ended hid station hlive (hclosed hok)
        exact hended.frame rfl rfl rfl rfl rfl (fun hnot => hnot) (fun hrun => hrun) hended.single
          hended.current hended.paired
      · unfold previous
        rw [hrollback]
        exact generation_congr fun other _ => plans_worked hst hplan other
      · unfold runs
        rw [hrollback]
        exact hruns
    · rintro e s₁ ⟨result, after, ⟨hupdated, hfinished, -⟩, -, rfl⟩
      exact .failed (h.moved hid hst hreload hlive (planOf_finished hupdated hfinished))

theorem ends_finishLive_commit (h : Owned s) (hrollback : s.rollback = some ⟨.live, jitter⟩)
    (answers : FinishAnswers P) :
    Ends (finishLive true ⟨.live, jitter⟩ answers) s fun _ s' => Owned s' := by
  have hlive : live s.rollback = true := by
    rw [hrollback]
    rfl
  have hreload := h.single (by simp [hrollback])
  unfold finishLive
  rw [ends_get_bind]
  split
  · exact ends_fail.mpr h
  · rename_i id hid
    obtain ⟨station, hst⟩ := h.exists_station hid
    refine (ends_onStation hst (HardwareStation.ends_finishUpdate true answers.update)).bind ?_ ?_
    · rintro _ s₁ ⟨result, after, ⟨-, -, hclosed⟩, hresult, rfl⟩
      have hok : result.isOk = true := by
        cases result with
        | ok => rfl
        | error e => cases hresult
      exact ends_modify_bind.mpr (ends_pure.mpr (h.ended hid station hlive (hclosed hok)))
    · rintro e s₁ ⟨result, after, -, -, rfl⟩
      exact h.worked hid hst (.inl hreload) fun hnot => absurd (hlive.symm.trans hnot) (by decide)

/-! ### Both -/

/-- The preparation may be marked as cancelled. -/
theorem Owned.cancelled (h : Owned s) {worker : ReloadWorker P} {mixers : Bool × Bool × Bool}
    {before : Bool} (hreload : s.control.reload = some (.preparing worker jitter mixers before))
    (after : Bool) : Kept s { s with control := { s.control with
      reload := some (.preparing worker jitter mixers after) } } :=
  h.prepared (h.rollback_none hreload) fun plan hplan => h.current _ plan hreload hplan

theorem ends_channelReloadFinish (h : Owned s) (answers : FinishAnswers P) :
    Ends (channelReloadFinish false answers) s (Reverts s) := by
  unfold channelReloadFinish
  rw [ends_get_bind]
  split
  · rename_i hrollback
    exact ends_finishLive h hrollback answers
  · rename_i worker jitter mixers cancelled hreload hlive
    have hcancelled := h.cancelled hreload (cancelled || !false)
    refine ends_modify_bind.mpr ?_
    split
    · refine (ends_finishReplacement hcancelled.owned (fun jitter' => ?_) answers).imp
        fun _ _ h' => h'.before hcancelled
      rw [h.rollback_none hreload]
      exact (Option.some_ne_none _).symm
    · exact ends_fail.mpr (.failed hcancelled)
  · rename_i hlive hnot
    exact ends_finishReplacement h (fun jitter hrollback => hlive jitter hrollback) answers

theorem ends_channelReloadFinish_commit (h : Owned s) (answers : FinishAnswers P) :
    Ends (channelReloadFinish true answers) s fun r s' => Owned s' ∧
      ∀ prepared, Adopts prepared s → r = .ok () ∧ Commits s s' := by
  unfold channelReloadFinish
  rw [ends_get_bind]
  split
  · rename_i hrollback
    refine (ends_finishLive_commit h hrollback answers).imp fun r s' h' => ⟨h', fun _ hadopts => ?_⟩
    have hexchanged := hadopts.exchanged
    rw [hrollback] at hexchanged
    cases hexchanged
  · rename_i worker jitter mixers cancelled hreload hlive
    have hcancelled := h.cancelled hreload (cancelled || !true)
    have hnone := h.rollback_none hreload
    have hnot {p : Prop} (prepared : PreparedChannelReplacement P) (hadopts : Adopts prepared s) :
        p := by
      have hexchanged := hadopts.exchanged
      rw [hnone] at hexchanged
      cases hexchanged
    refine ends_modify_bind.mpr ?_
    split
    · refine (ends_finishReplacement_commit hcancelled.owned (fun jitter' => ?_) answers).imp
        fun _ _ h' => ⟨h'.2.owned, fun prepared hadopts => hnot prepared hadopts⟩
      rw [hnone]
      exact (Option.some_ne_none _).symm
    · exact ends_fail.mpr ⟨hcancelled.owned, fun prepared hadopts => hnot prepared hadopts⟩
  · rename_i hlive hnot
    exact (ends_finishReplacement_commit h (fun jitter hrollback => hlive jitter hrollback) answers).imp
      fun _ _ h' => ⟨h'.2.owned, fun _ _ => h'⟩

/-! ## The start -/

theorem ends_startHardware (h : Owned s) (hid : s.control.hardware = some id)
    (answers : StartAnswers P) : Ends (startHardware id answers) s fun _ s' => Owned s' := by
  obtain ⟨station, hst⟩ := h.exists_station hid
  unfold startHardware
  refine (h.ends_alike hid hst (HardwareStation.ends_start answers.service answers.audio
    answers.cleanup)).attempt_bind fun r s₁ haside => ?_
  cases r with
  | error e => exact ends_pure_bind.mpr (ends_of_bind.mpr haside.owned)
  | ok =>
    refine ends_modify_bind.mpr (ends_of_ok_bind.mpr ?_)
    have h₁ := haside.owned
    have hrunning : Owned { s₁ with control := { s₁.control with running := true } } := by
      refine ⟨h₁.heap.frame rfl rfl rfl fun hlive => hlive, fun _ => ?_, h₁.single, h₁.current,
        h₁.paired⟩
      rw [haside.hardware, hid]
      rfl
    exact (ends_channelActivationReady hrunning answers.ready).imp fun _ _ h' => h'.owned

/-- A station is opened for a channel that has none. -/
theorem ends_startOpened (h : Owned s) (hnone : s.control.hardware = none)
    (media : StationMedia P.toStationParts) (preflight : P.HardwarePreflight)
    (remote : Option P.RemotePreparation)
    (answers : StartAnswers P) :
    Ends (do
      let id ← openStation media preflight remote answers.opened
      setHardware (some id)
      startHardware id answers : Controlled P Unit) s fun _ s' => Owned s' := by
  have hheap := h.heap
  rw [hnone] at hheap
  -- Without a station there is no live update.
  have hcurrent {p : Prop} (reload : PreparedChannelReload P)
      (plan : StationPlan P.toStationParts) (hreload : s.control.reload = some reload)
      (hprepared : preparedFrom reload = some plan) : p := by
    obtain ⟨id, _, hid, -⟩ := h.current reload plan hreload hprepared
    exact absurd (hnone.symm.trans hid) (Option.some_ne_none _).symm
  have hkept {hardware : Option Nat} {s' : Channel P} (hbeside : Beside (parked s.rollback) s s')
      (hheap' : Heap s' hardware (parked s.rollback))
      (hrunning : s.control.running = true → hardware.isSome = true) :
      Owned { s' with control := { s'.control with hardware } } := by
    obtain ⟨control, rollback, stations, next, openings⟩ := s'
    obtain ⟨rfl, rfl, -⟩ := hbeside
    exact ⟨hheap'.frame rfl rfl rfl fun hlive => hlive, hrunning, h.single,
      fun reload plan hreload hprepared => hcurrent reload plan hreload hprepared, h.paired⟩
  refine (ends_openStation hheap media preflight remote answers.opened).bind ?_ ?_
  · rintro id s₁ ⟨hbeside, hopens⟩
    refine ends_modify_bind.mpr ?_
    cases hopens with
    | opened hheap' => exact ends_startHardware (hkept hbeside hheap' fun _ => rfl) rfl answers
  · rintro e s₁ ⟨hbeside, hopens⟩
    cases hopens with
    | refused hheap' =>
      have howned := hkept hbeside hheap' fun hrun => by
        rw [← hnone]
        exact h.running hrun
      rw [show s₁ = { s₁ with control := { s₁.control with hardware := none } } by
        rw [hbeside.control, ← hnone, ← hbeside.control]]
      exact howned

theorem ends_channelStart (h : Owned s) (answers : StartAnswers P) :
    Ends (channelStart answers) s fun _ s' => Owned s' := by
  unfold channelStart
  rw [ends_get_bind]
  split
  · rename_i id hid
    exact ends_startHardware h hid answers
  · rename_i hnone
    split
    · exact ends_fail.mpr h
    · rename_i media hmedia
      refine ends_modify_bind.mpr ?_
      -- The media, the preflight and the remote preparation are taken.
      have hframe {control : ChannelControl P} (hhardware : control.hardware = s.control.hardware)
          (hreload : control.reload = s.control.reload)
          (hrunning : control.running = s.control.running) (hmedia : control.media = none) :
          Owned { s with control } := by
        refine h.frame rfl rfl rfl hhardware rfl (fun hlive => hlive) ?_ ?_ ?_ ?_
        · exact fun hrun => hrunning ▸ hrun
        · exact fun hsome => hreload.trans (h.single hsome)
        · exact fun reload plan hsome => h.current reload plan (hreload.symm.trans hsome)
        · exact fun hsome => by simp [hmedia] at hsome
      split
      · exact ends_fail.mpr (hframe rfl rfl rfl rfl)
      · refine ends_modify_bind.mpr ?_
        refine Ends.bind (R := fun _ s' => Owned s' ∧ s'.control.hardware = none) ?_
          (fun _ s₁ h₁ => ends_startOpened h₁.1 h₁.2 media _ _ answers) fun _ _ h₁ => h₁.1
        refine Ends.whenever (fun _ => ends_modify.mpr ⟨?_, hnone⟩) fun _ => ⟨?_, hnone⟩
        · exact hframe rfl rfl rfl rfl
        · exact hframe rfl rfl rfl rfl

end Product
end UsbRadioPlus
