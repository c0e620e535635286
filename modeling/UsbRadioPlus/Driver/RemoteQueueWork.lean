import UsbRadioPlus.Driver.RemoteQueueSteps

/-!
# The end of the work of a request

A worker that completes or drops its work comes to the end of it by steps of its own, whatever the other
parties do in between: every one of its steps brings `Ticket.remaining` down, no other step brings it up, and
up to the end it is never stuck (`run_remaining`, `isSome_workStep`).

What the ticket can get from then on is the result of the worker, or a failure of the port
(`Ticket.Answers`).
-/

namespace UsbRadioPlus.Driver

open Sys

variable {ρ : Type} {capacity : Nat} {s s' : RemoteQueue ρ} {t t' : Ticket ρ} {id : Nat}
  {accepting : Bool}

/-- The worker has called `complete`, or it drops the work. -/
def WorkPc.ending : WorkPc ρ → Bool
  | created | queued | held => false
  | _ => true

/-- The result that the worker has given and not offered yet. -/
def WorkPc.given : WorkPc ρ → Option (Except RemoteRequestError ρ)
  | loadGeneration result | loadSource result | loadGenerationAgain result _ => some result
  | _ => none

/-- The step is one of the worker at this work. -/
def QueueAct.works (id : Nat) : QueueAct ρ → Bool
  | workStep i => i == id
  | _ => false

namespace Ticket

/-- The steps of the worker up to the end of the work, at most. -/
def remaining (t : Ticket ρ) : Nat :=
  match t.work with
  | .loadGeneration _ => 11
  | .loadSource _ => 10
  | .loadGenerationAgain .. => 9
  | .completing => 5 + (t.cell.party .work).remaining
  | .dropping => 1 + (t.cell.party .work).remaining
  | _ => 0

theorem remaining_le (t : Ticket ρ) : t.remaining ≤ 11 := by
  have hclaim := (t.cell.party .work).remaining_le
  unfold remaining
  split <;> omega

theorem gone_of_remaining (h : t.work.ending = true) (hzero : t.remaining = 0) : t.work = .gone := by
  unfold remaining at hzero
  cases hw : t.work with
  | created | queued | held =>
    rw [hw] at h
    cases h
  | gone => rfl
  | _ =>
    simp only [hw] at hzero
    omega

/-- A change that leaves the work and its claim alone. -/
theorem remaining_congr (hwork : t'.work = t.work)
    (hparty : t'.cell.party .work = t.cell.party .work) : t'.remaining = t.remaining := by
  unfold remaining
  rw [hwork, hparty]

theorem remaining_advance (h : t.work.ends = true) : (t.advance .work).remaining ≤ t.remaining := by
  have hparty : ((t.cell.advance .work).party .work).remaining ≤
      (t.cell.party .work).remaining := by
    by_cases hidle : t.cell.party .work = .idle
    · simp [OneShot.advance, hidle]
    · exact Nat.le_of_lt (OneShot.remaining_advance hidle)
  unfold remaining advance
  cases hw : t.work with
  | completing | dropping => exact Nat.add_le_add_left hparty _
  | _ =>
    have hends := hw ▸ h
    cases hends

/-- No step of the port brings the work back from its end. -/
theorem Moves.remaining (hm : t.Moves accepting t') (h : t.work.ending = true) :
    t'.work.ending = true ∧ t'.remaining ≤ t.remaining := by
  have hoffered : ∀ r : Except RemoteRequestError ρ,
      ((t.complete .work r).cell.party .work).remaining = 3 := by
    intro r
    exact congrArg Claim.remaining (OneShot.party_setParty _)
  cases hm with
  | refuse hw | enqueue hw | hold hw | complete hw | abandon hw =>
    rw [hw] at h
    cases h
  | drop hw hidle =>
    refine ⟨rfl, ?_⟩
    have hthree := hoffered (.error .stopped)
    simp only [Ticket.remaining, Ticket.dropWork, hw]
    omega
  | loadSource hw => exact ⟨rfl, by simp [Ticket.remaining, hw]⟩
  | loadGenerationAgain hw => exact ⟨rfl, by simp [Ticket.remaining, hw]⟩
  | fail hw e =>
    refine ⟨rfl, ?_⟩
    have hthree := hoffered (.error e)
    rcases hw with hw | ⟨valid, hw⟩ <;> simp only [Ticket.remaining, hw] <;> omega
  | @finish result hw ha =>
    refine ⟨rfl, ?_⟩
    have hthree := hoffered result
    simp only [Ticket.remaining, hw]
    omega
  | advanceWork hends => exact ⟨h, remaining_advance hends⟩
  | leave hw hidle => exact ⟨rfl, Nat.zero_le _⟩
  | takeStopped =>
    exact ⟨h, Nat.le_of_eq (remaining_congr rfl (OneShot.party_setParty_of_ne _ (by simp)))⟩
  | takeAccepting => exact ⟨h, Nat.le_of_eq (remaining_congr rfl rfl)⟩
  | advanceTaker =>
    exact ⟨h, Nat.le_of_eq (remaining_congr rfl (OneShot.party_advance_of_ne (by simp)))⟩
  | reach => exact ⟨h, Nat.le_of_eq (remaining_congr rfl rfl)⟩
  | pop => exact ⟨h, Nat.le_of_eq (remaining_congr rfl rfl)⟩
  | sourceState => exact ⟨h, Nat.le_of_eq (remaining_congr rfl rfl)⟩
  | dropLease => exact ⟨h, Nat.le_of_eq (remaining_congr rfl rfl)⟩

/-! ## The results of the work -/

/-- All results that the ticket has, or is still to get from the work, satisfy `Q`. -/
structure Answers (Q : Except RemoteRequestError ρ → Prop) (t : Ticket ρ) : Prop where
  every : t.cell.Every Q
  given : ∀ r, t.work.given = some r → Q r
  stale : t.work.given = none ∨ Q (.error .staleSource)

theorem Answers.moves {Q : Except RemoteRequestError ρ → Prop} (h : t.Answers Q)
    (hstopped : Q (.error .stopped)) (hm : t.Moves accepting t') (hending : t.work.ending = true) :
    t'.Answers Q := by
  obtain ⟨hevery, hgiven, hstale⟩ := h
  cases hm with
  | refuse hw | enqueue hw | hold hw | complete hw | abandon hw =>
    rw [hw] at hending
    cases hending
  | drop => exact ⟨hevery.offer hstopped, nofun, .inl rfl⟩
  | loadSource hw =>
    rw [hw] at hgiven hstale
    exact ⟨hevery, hgiven, .inr (hstale.resolve_left nofun)⟩
  | loadGenerationAgain hw =>
    rw [hw] at hgiven hstale
    exact ⟨hevery, hgiven, .inr (hstale.resolve_left nofun)⟩
  | @fail result hw e he =>
    refine ⟨hevery.offer ?_, nofun, .inl rfl⟩
    have hresult : t.work.given = some result := by
      rcases hw with hw | ⟨valid, hw⟩ <;> rw [hw] <;> rfl
    rcases he with rfl | rfl | rfl
    · exact hstopped
    · exact hstale.resolve_left (by simp [hresult])
    · exact hgiven _ hresult
  | finish hw =>
    refine ⟨hevery.offer (hgiven _ ?_), nofun, .inl rfl⟩
    rw [hw]
    rfl
  | advanceWork => exact ⟨hevery.advance .work, hgiven, hstale⟩
  | leave => exact ⟨hevery, nofun, .inl rfl⟩
  | takeStopped => exact ⟨hevery.offer hstopped, hgiven, hstale⟩
  | takeAccepting => exact ⟨hevery, hgiven, hstale⟩
  | advanceTaker => exact ⟨hevery.advance _, hgiven, hstale⟩
  | reach => exact ⟨hevery, hgiven, hstale⟩
  | pop => exact ⟨hevery.take, hgiven, hstale⟩
  | sourceState => exact ⟨hevery, hgiven, hstale⟩
  | dropLease => exact ⟨hevery, hgiven, hstale⟩

end Ticket

namespace RemoteQueue

/-! ## The steps of the worker -/

theorem remaining_workStep (hs : s.workStep id t = some s') :
    ∃ t', s'.tickets id = some t' ∧ t'.remaining < t.remaining := by
  have hadvance : t.cell.party .work ≠ .idle → t.work.ends = true →
      (t.advance .work).remaining < t.remaining := by
    intro hidle hends
    have hparty := OneShot.remaining_advance hidle
    unfold Ticket.remaining Ticket.advance
    cases hw : t.work with
    | completing | dropping => exact Nat.add_lt_add_left hparty _
    | _ =>
      rw [hw] at hends
      cases hends
  have hoffered : ∀ r : Except RemoteRequestError ρ,
      ((t.complete .work r).cell.party .work).remaining = 3 := by
    intro r
    exact congrArg Claim.remaining (OneShot.party_setParty _)
  have hfinish : ∀ r : Except RemoteRequestError ρ, 8 < t.remaining →
      ∃ t', (s.setTicket id { t.complete .work r with work := .completing }).tickets id = some t' ∧
        t'.remaining < t.remaining := by
    intro r hlarge
    refine ⟨_, tickets_setTicket, ?_⟩
    have hthree := hoffered r
    simp only [Ticket.remaining] at hlarge ⊢
    omega
  unfold workStep at hs
  split at hs
  · next result hw =>
    have hlarge : 8 < t.remaining := by simp [Ticket.remaining, hw]
    split at hs
    · obtain rfl := Option.some.inj hs
      exact hfinish _ hlarge
    · split at hs
      · obtain rfl := Option.some.inj hs
        exact ⟨_, tickets_setTicket, by simp [Ticket.remaining, hw]⟩
      · obtain rfl := Option.some.inj hs
        exact hfinish _ hlarge
  · next result hw =>
    obtain rfl := Option.some.inj hs
    exact ⟨_, tickets_setTicket, by simp [Ticket.remaining, hw]⟩
  · next result valid hw =>
    have hlarge : 8 < t.remaining := by simp [Ticket.remaining, hw]
    split at hs
    · obtain rfl := Option.some.inj hs
      exact hfinish _ hlarge
    · obtain rfl := Option.some.inj hs
      exact hfinish _ hlarge
  · next hw =>
    split at hs
    · next hidle =>
      obtain rfl := Option.some.inj hs
      refine ⟨_, tickets_setTicket, ?_⟩
      have hthree := hoffered (.error .stopped)
      simp only [Ticket.remaining, Ticket.dropWork, hw]
      omega
    · next hidle =>
      obtain rfl := Option.some.inj hs
      exact ⟨_, tickets_setTicket, hadvance hidle (by rw [hw]; rfl)⟩
  · next hw =>
    split at hs
    · next hidle =>
      obtain rfl := Option.some.inj hs
      exact ⟨_, tickets_setTicket, by simp only [Ticket.remaining, hw]; omega⟩
    · next hidle =>
      obtain rfl := Option.some.inj hs
      exact ⟨_, tickets_setTicket, hadvance hidle (by rw [hw]; rfl)⟩
  · cases hs

/-- Up to the end of the work its next step is possible. -/
theorem isSome_workStep (h : t.work.ending = true) (hgone : t.work ≠ .gone) :
    (s.workStep id t).isSome = true := by
  unfold workStep
  cases hw : t.work with
  | created | queued | held =>
    rw [hw] at h
    cases h
  | gone => exact absurd hw hgone
  | loadGeneration result =>
    dsimp only
    split
    · rfl
    · cases result <;> rfl
  | loadSource => rfl
  | loadGenerationAgain =>
    dsimp only
    split <;> rfl
  | completing | dropping =>
    dsimp only
    split <;> rfl

/-- Whatever happens in between, every step of the worker counts. -/
theorem run_remaining {as : List (QueueAct ρ)} (h : Queues s) (ht : s.tickets id = some t)
    (hending : t.work.ending = true) (hrun : (remoteQueue capacity).run s as = some s') :
    ∃ t', s'.tickets id = some t' ∧ t'.work.ending = true ∧
      t'.remaining + as.countP (QueueAct.works id) ≤ t.remaining := by
  induction as generalizing s t with
  | nil =>
    obtain rfl := Option.some.inj hrun
    exact ⟨t, ht, hending, Nat.le_refl _⟩
  | cons a as ih =>
    obtain ⟨m, hstep, hrest⟩ := System.run_cons.mp hrun
    have hsteps := steps_of_step h hstep
    obtain ⟨u, hu, huending, hle⟩ : ∃ u, m.tickets id = some u ∧ u.work.ending = true ∧
        u.remaining ≤ t.remaining := by
      cases hsteps.tickets id with
      | same hsame => exact ⟨t, hsame.trans ht, hending, Nat.le_refl _⟩
      | new hnone =>
        rw [hnone] at ht
        cases ht
      | moves ht' hmove hm =>
        obtain rfl := Option.some.inj (ht.symm.trans ht')
        exact ⟨_, hmove, hm.remaining hending⟩
    obtain ⟨t', ht', hending', hcount⟩ := ih hsteps.queues hu huending hrest
    refine ⟨t', ht', hending', ?_⟩
    by_cases hworks : a.works id = true
    · have hlt : u.remaining < t.remaining := by
        cases a with
        | workStep i =>
          obtain rfl : i = id := by simpa [QueueAct.works] using hworks
          have hwork : s.workStep i t = some m := by
            have hbind : (s.tickets i).bind (s.workStep i) = some m := hstep
            rwa [ht] at hbind
          obtain ⟨v, hv, hlt⟩ := remaining_workStep hwork
          obtain rfl := Option.some.inj (hu.symm.trans hv)
          exact hlt
        | _ => cases hworks
      rw [List.countP_cons_of_pos hworks]
      omega
    · rw [List.countP_cons_of_neg hworks]
      omega

end RemoteQueue
end UsbRadioPlus.Driver
