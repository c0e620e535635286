import UsbRadioPlus.Driver.RemoteQueueWork

/-!
# Exactly-once completion of remote requests

`remoteQueue_contract` says what holds of every ticket in every reachable state of the port: at
most one result, a result wherever the work has ended, an end of the work behind every call that
ends it, calls that revoke a source, revocation that is final, no success for a request that was
revoked before its check, and a result for every lease that is held behind the end of its work or
of the generation.

`Ticket.Ok` is the invariant of a ticket: it ties the program counters of both sides to the cell.
-/

namespace UsbRadioPlus.Driver

open Sys

variable {ρ : Type} {capacity : Nat} {s s' : RemoteQueue ρ} {t t' : Ticket ρ} {id : Nat}
  {accepting : Bool}

/-- A result that is no success. -/
def Failure (r : Except RemoteRequestError ρ) : Prop := ∀ v, r ≠ .ok v

theorem failure_error (e : RemoteRequestError) : Failure (.error e : Except RemoteRequestError ρ) :=
  fun _ h => by cases h

/-- The result of an end that gives none. -/
def Stopped (r : Except RemoteRequestError ρ) : Prop := r = .error .stopped

theorem Stopped.failure {r : Except RemoteRequestError ρ} (h : Stopped r) : Failure r := by
  rw [h]
  exact failure_error .stopped

/-- The work has not yet offered a result. -/
def WorkPc.early : WorkPc ρ → Bool
  | created | queued | held | loadGeneration _ | loadSource _ | loadGenerationAgain .. => true
  | _ => false

theorem WorkPc.early_of_ends {pc : WorkPc ρ} (h : pc.ends = true) : pc.early = false := by
  cases pc <;> first | rfl | cases h

namespace Ticket

/-- The invariant of a ticket. -/
structure Ok (t : Ticket ρ) : Prop where
  once : t.cell.Once
  worker : t.work.ends = false → t.cell.party .work = .idle
  claims : t.work.ends = true → t.cell.completed = true ∨ ∃ r, t.cell.party .work = .claiming r
  gone : t.work = .gone → t.cell.completed = true
  taker : ∀ n, t.takers n ≠ .completing → t.cell.party (.taker n) = .idle
  takes : ∀ n, t.takers n = .completing →
    t.cell.completed = true ∨ ∃ r, t.cell.party (.taker n) = .claiming r
  stopped : ∀ n, t.takers n = .popping true → t.cell.completed = true
  early : t.work.early = true → t.cell.Every Stopped

theorem Ok.new (input : RemoteInput) (isLocal active : Bool) :
    (Ticket.new input isLocal active : Ticket ρ).Ok where
  once := .fresh
  worker := fun _ => rfl
  claims := fun h => by cases h
  gone := fun h => by cases h
  taker := fun _ _ => rfl
  takes := fun _ h => by cases h
  stopped := fun _ h => by cases h
  early := fun _ => ⟨fun _ _ h => (by cases h), fun _ h => (by cases h)⟩

/-- A change that leaves the cell and the takers alone. -/
theorem Ok.of_same (h : t.Ok) (hcell : t'.cell = t.cell) (htakers : t'.takers = t.takers)
    (hends : t'.work.ends = t.work.ends) (hgone : t'.work = .gone → t.work = .gone)
    (hearly : t'.work.early = true → t.work.early = true) : t'.Ok where
  once := hcell ▸ h.once
  worker := fun hw => hcell ▸ h.worker (hends ▸ hw)
  claims := fun hw => hcell ▸ h.claims (hends ▸ hw)
  gone := fun hw => hcell ▸ h.gone (hgone hw)
  taker := fun n hn => hcell ▸ h.taker n (htakers ▸ hn)
  takes := fun n hn => hcell ▸ h.takes n (htakers ▸ hn)
  stopped := fun n hn => hcell ▸ h.stopped n (htakers ▸ hn)
  early := fun hw => hcell ▸ h.early (hearly hw)

/-- The work offers a result. -/
theorem Ok.offerWork (h : t.Ok) (hidle : t.cell.party .work = .idle)
    (r : Except RemoteRequestError ρ) (pc : WorkPc ρ) (hpc : pc.ends = true) :
    Ok { t.complete .work r with work := pc } where
  once := h.once.offer hidle
  worker := fun hw => by rw [hpc] at hw; cases hw
  claims := fun _ => .inr ⟨r, OneShot.party_setParty _⟩
  gone := fun hw => by subst hw; cases hpc
  taker := fun n hn => (OneShot.party_setParty_of_ne _ (by simp)).trans (h.taker n hn)
  takes := fun n hn => by
    have hsame : (t.cell.offer .work r).party (.taker n) = t.cell.party (.taker n) :=
      OneShot.party_setParty_of_ne _ (by simp)
    rw [show (t.complete .work r).cell = t.cell.offer .work r from rfl, hsame]
    exact h.takes n hn
  stopped := fun n hn => h.stopped n hn
  early := fun hw => absurd (show pc.early = true from hw) (by simp [WorkPc.early_of_ends hpc])

theorem Ok.dropWork (h : t.Ok) (hidle : t.cell.party .work = .idle) : t.dropWork.Ok :=
  h.offerWork hidle _ _ rfl

/-- Another party of the cell steps. -/
theorem Ok.advance (h : t.Ok) (p : Party) (hp : match p with
    | .work => t.work.ends = true
    | .taker n => t.takers n = .completing) : (t.advance p).Ok := by
  refine ⟨h.once.advance p, fun hw => ?_, fun hw => ?_, fun hw => ?_, fun n hn => ?_, fun n hn => ?_,
    fun n hn => OneShot.completed_advance (h.stopped n hn), fun hw => (h.early hw).advance p⟩
  · have hne : Party.work ≠ p := by
      rintro rfl
      exact absurd (show t.work.ends = false from hw) (by simp [show t.work.ends = true from hp])
    exact (OneShot.party_advance_of_ne hne).trans (h.worker hw)
  · rcases h.claims hw with hc | ⟨r, hr⟩
    · exact .inl (OneShot.completed_advance hc)
    · by_cases hpw : Party.work = p
      · subst hpw
        exact .inl (OneShot.completed_advance_of_claiming hr)
      · exact .inr ⟨r, (OneShot.party_advance_of_ne hpw).trans hr⟩
  · exact OneShot.completed_advance (h.gone hw)
  · have hne : Party.taker n ≠ p := by
      rintro rfl
      exact hn hp
    exact (OneShot.party_advance_of_ne hne).trans (h.taker n hn)
  · rcases h.takes n hn with hc | ⟨r, hr⟩
    · exact .inl (OneShot.completed_advance hc)
    · by_cases hpt : Party.taker n = p
      · subst hpt
        exact .inl (OneShot.completed_advance_of_claiming hr)
      · exact .inr ⟨r, (OneShot.party_advance_of_ne hpt).trans hr⟩

/-- A taker moves to a program counter that fits the cell. -/
theorem Ok.setTaker (h : t.Ok) (thread : Nat) (pc : TakePc) (hpc : pc ≠ .completing)
    (hidle : t.cell.party (.taker thread) = .idle)
    (hstopped : pc = .popping true → t.cell.completed = true) : (t.setTaker thread pc).Ok := by
  have htakers : ∀ n, n ≠ thread → (t.setTaker thread pc).takers n = t.takers n :=
    fun n hn => Function.update_of_ne hn ..
  have hself : (t.setTaker thread pc).takers thread = pc := Function.update_self ..
  refine ⟨h.once, h.worker, h.claims, h.gone, fun n hn => ?_, fun n hn => ?_, fun n hn => ?_, h.early⟩
  · by_cases hnt : n = thread
    · exact hnt ▸ hidle
    · exact h.taker n (htakers n hnt ▸ hn)
  · by_cases hnt : n = thread
    · subst hnt
      exact absurd (hself ▸ hn) hpc
    · exact h.takes n (htakers n hnt ▸ hn)
  · by_cases hnt : n = thread
    · subst hnt
      exact hstopped (hself ▸ hn)
    · exact h.stopped n (htakers n hnt ▸ hn)

theorem Ok.takeStopped (h : t.Ok) {thread : Nat} (hidle : t.takers thread = .idle) :
    ((t.complete (.taker thread) (.error .stopped)).setTaker thread .completing).Ok := by
  have hparty : t.cell.party (.taker thread) = .idle := h.taker thread (by simp [hidle])
  have htakers : ∀ n, n ≠ thread →
      Function.update t.takers thread .completing n = t.takers n := fun n hn =>
    Function.update_of_ne hn ..
  have hother : ∀ p, p ≠ .taker thread →
      (t.cell.offer (.taker thread) (.error .stopped)).party p = t.cell.party p := fun p hp =>
    OneShot.party_setParty_of_ne _ hp
  refine ⟨h.once.offer hparty, fun hw => (hother _ (by simp)).trans (h.worker hw), fun hw => ?_,
    h.gone, fun n hn => ?_, fun n hn => ?_, fun n hn => ?_,
    fun hw => (h.early hw).offer rfl⟩
  · show _ ∨ ∃ r, (t.cell.offer (.taker thread) (.error .stopped)).party .work = _
    rw [hother _ (by simp)]
    exact h.claims hw
  · have hnt : n ≠ thread := by
      rintro rfl
      exact hn (Function.update_self ..)
    exact (hother _ (by simpa using hnt)).trans (h.taker n (htakers n hnt ▸ hn))
  · by_cases hnt : n = thread
    · subst hnt
      exact .inr ⟨_, OneShot.party_setParty _⟩
    · show _ ∨ ∃ r, (t.cell.offer (.taker thread) (.error .stopped)).party _ = _
      rw [hother _ (by simpa using hnt)]
      exact h.takes n (htakers n hnt ▸ hn)
  · have hnt : n ≠ thread := by
      rintro rfl
      have hself : Function.update t.takers n .completing n = TakePc.completing :=
        Function.update_self ..
      cases hself.symm.trans hn
    exact h.stopped n (htakers n hnt ▸ hn)

theorem Ok.take (h : t.Ok) : Ok { t with cell := t.cell.take } :=
  ⟨h.once.take, h.worker, h.claims, h.gone, h.taker, h.takes, h.stopped,
    fun hw => (h.early hw).take⟩

/-- **The step lemma of a ticket.** -/
theorem Ok.moves (h : t.Ok) (hm : t.Moves accepting t') : t'.Ok := by
  cases hm with
  | refuse hw => exact (h.dropWork (h.worker (by rw [hw]; rfl))).of_same rfl rfl rfl id id
  | enqueue hw lease =>
    exact h.of_same rfl rfl (by rw [hw]; rfl) (fun hg => by cases hg) fun _ => by rw [hw]; rfl
  | hold hw =>
    exact h.of_same rfl rfl (by rw [hw]; rfl) (fun hg => by cases hg) fun _ => by rw [hw]; rfl
  | complete hw =>
    exact h.of_same rfl rfl (by rw [hw]; rfl) (fun hg => by cases hg) fun _ => by rw [hw]; rfl
  | abandon hw => exact h.dropWork (h.worker (by rw [hw]; rfl))
  | drop _ hidle => exact h.dropWork hidle
  | loadSource hw =>
    exact h.of_same rfl rfl (by rw [hw]; rfl) (fun hg => by cases hg) fun _ => by rw [hw]; rfl
  | loadGenerationAgain hw =>
    exact h.of_same rfl rfl (by rw [hw]; rfl) (fun hg => by cases hg) fun _ => by rw [hw]; rfl
  | fail hw e _ =>
    refine h.offerWork (h.worker ?_) _ _ rfl
    rcases hw with hw | ⟨valid, hw⟩ <;> rw [hw] <;> rfl
  | finish hw _ => exact h.offerWork (h.worker (by rw [hw]; rfl)) _ _ rfl
  | advanceWork hw => exact h.advance .work hw
  | leave hw hidle =>
    have hc : t.cell.completed = true := by
      rcases h.claims (by rw [hw]; rfl) with hc | ⟨r, hr⟩
      · exact hc
      · rw [hidle] at hr
        cases hr
    exact ⟨h.once, fun _ => hidle, fun hb => (by cases hb), fun _ => hc, h.taker, h.takes, h.stopped,
      fun hb => (by cases hb)⟩
  | takeStopped hidle => exact h.takeStopped hidle
  | takeAccepting hidle =>
    exact h.setTaker _ _ (by simp) (h.taker _ (by simp [hidle])) (fun hb => by cases hb)
  | @advanceTaker thread hpc => exact h.advance (.taker thread) hpc
  | @reach thread hpc hidle =>
    refine h.setTaker _ _ (by simp) hidle fun _ => ?_
    rcases h.takes thread hpc with hc | ⟨r, hr⟩
    · exact hc
    · rw [hidle] at hr
      cases hr
  | @pop thread stopped hpc =>
    exact (h.setTaker thread .idle (by simp) (h.taker _ (by simp [hpc])) (fun hb => by cases hb)).take
  | sourceState => exact h.of_same rfl rfl rfl id id
  | dropLease => exact h.of_same rfl rfl rfl id id

/-! ## Revocation -/

/-- A revoked request has no success on the way, and none can be offered. -/
structure NoSuccess (accepting : Bool) (t : Ticket ρ) : Prop where
  revoked : t.valid = false ∨ accepting = false
  every : t.cell.Every Failure
  checked : ∀ result, t.work = .loadGenerationAgain result true → accepting = false

theorem NoSuccess.mono {accepting' : Bool} (h : t.NoSuccess accepting)
    (hacc : accepting' = true → accepting = true) : t.NoSuccess accepting' := by
  have hkeep : accepting = false → accepting' = false := by
    intro ha
    cases accepting'
    · rfl
    · rw [hacc rfl] at ha
      cases ha
  exact ⟨h.revoked.imp_right hkeep, h.every, fun r hw => hkeep (h.checked r hw)⟩

theorem NoSuccess.moves {accepting' : Bool} (h : t.NoSuccess accepting) (hm : t.Moves accepting t')
    (hacc : accepting' = true → accepting = true) : t'.NoSuccess accepting' := by
  obtain ⟨hrev, hevery, hchecked⟩ := h.mono hacc
  have hfail := h.every.offer (p := .work) (failure_error (ρ := ρ) .stopped)
  cases hm with
  | refuse => exact ⟨hrev, hfail, fun _ hw => (by cases hw)⟩
  | enqueue => exact ⟨hrev, h.every, fun _ hw => (by cases hw)⟩
  | hold => exact ⟨hrev, h.every, fun _ hw => (by cases hw)⟩
  | complete => exact ⟨hrev, h.every, fun _ hw => (by cases hw)⟩
  | abandon => exact ⟨hrev, hfail, fun _ hw => (by cases hw)⟩
  | drop => exact ⟨hrev, hfail, fun _ hw => (by cases hw)⟩
  | loadSource => exact ⟨hrev, h.every, fun _ hw => (by cases hw)⟩
  | loadGenerationAgain =>
    refine ⟨hrev, h.every, fun _ hw => ?_⟩
    obtain ⟨-, hv⟩ := WorkPc.loadGenerationAgain.inj hw
    exact hrev.resolve_left (by simp [hv])
  | fail _ e _ => exact ⟨hrev, h.every.offer (failure_error e), fun _ hw => (by cases hw)⟩
  | finish hw ha =>
    -- the check that was passed has seen a source that is not revoked
    rw [h.checked _ hw] at ha
    cases ha
  | advanceWork hends =>
    refine ⟨hrev, h.every.advance .work, fun _ hw => ?_⟩
    rw [show t.work = _ from hw] at hends
    cases hends
  | leave => exact ⟨hrev, h.every, fun _ hw => (by cases hw)⟩
  | takeStopped =>
    exact ⟨hrev, h.every.offer (failure_error .stopped), hchecked⟩
  | takeAccepting => exact ⟨hrev, h.every, hchecked⟩
  | advanceTaker => exact ⟨hrev, h.every.advance _, hchecked⟩
  | reach => exact ⟨hrev, h.every, hchecked⟩
  | pop => exact ⟨hrev, h.every.take, hchecked⟩
  | sourceState active valid =>
    refine ⟨hrev.imp_left fun hv => ?_, h.every, hchecked⟩
    show (valid && t.valid) = false
    rw [hv, Bool.and_false]
  | dropLease => exact ⟨.inl rfl, h.every, hchecked⟩

theorem Moves.valid (hm : t.Moves accepting t') (h : t'.valid = true) : t.valid = true := by
  cases hm with
  | sourceState active valid => exact (Bool.and_eq_true _ _ ▸ h : _ ∧ _).2
  | dropLease => cases h
  | _ => exact h

/-- What was taken stays taken. -/
theorem Moves.taken (hm : t.Moves accepting t') : t.cell.taken <+: t'.cell.taken := by
  have hadvance : ∀ p, t.cell.taken <+: (t.cell.advance p).taken := by
    intro p
    unfold OneShot.advance
    split <;> try split
    all_goals exact List.prefix_refl _
  cases hm with
  | advanceWork => exact hadvance .work
  | advanceTaker => exact hadvance _
  | pop => exact List.prefix_append ..
  | _ => exact List.prefix_refl _

end Ticket

/-! ## Reachable states -/

namespace RemoteQueue

/-- The invariant of the port. -/
structure Inv (s : RemoteQueue ρ) : Prop where
  queues : Queues s
  ok : ∀ id t, s.tickets id = some t → t.Ok

theorem Inv.step (h : Inv s) {a : QueueAct ρ} (hs : s.step a = some s') : Inv s' := by
  have hsteps := steps_of_step h.queues hs
  refine ⟨hsteps.queues, fun id t' ht' => ?_⟩
  cases hsteps.tickets id with
  | same hsame => exact h.ok id t' (hsame ▸ ht')
  | new _ input isLocal active hnew =>
    obtain rfl := Option.some.inj (ht'.symm.trans hnew)
    exact .new input isLocal active
  | moves ht hmove hm =>
    obtain rfl := Option.some.inj (ht'.symm.trans hmove)
    exact (h.ok id _ ht).moves hm

theorem inv_inductive (capacity : Nat) :
    (remoteQueue (ρ := ρ) capacity).Inductive (fun _ _ => True) Inv where
  init := by
    rintro s rfl
    exact ⟨.new capacity, fun _ _ ht => by cases ht⟩
  step := fun _ _ _ h _ hs => h.step hs

theorem inv_of_reach (h : (remoteQueue capacity).Reach s) : Inv s :=
  (inv_inductive capacity).reach h

/-- What every step keeps of a ticket, every run keeps. -/
theorem run_ticket {P : Bool → Ticket ρ → Prop}
    (hP : ∀ {accepting accepting' : Bool} {t t' : Ticket ρ}, P accepting t →
      (t' = t ∨ t.Moves accepting t') → (accepting' = true → accepting = true) → P accepting' t')
    {as : List (QueueAct ρ)} (h : Inv s) (ht : s.tickets id = some t) (hp : P s.accepting t)
    (hrun : (remoteQueue capacity).run s as = some s') :
    ∃ t', s'.tickets id = some t' ∧ P s'.accepting t' := by
  induction as generalizing s t with
  | nil =>
    obtain rfl := Option.some.inj hrun
    exact ⟨t, ht, hp⟩
  | cons a as ih =>
    obtain ⟨m, hstep, hrest⟩ := System.run_cons.mp hrun
    have hsteps := steps_of_step h.queues hstep
    cases hsteps.tickets id with
    | same hsame =>
      exact ih (h.step hstep) (hsame.trans ht) (hP hp (.inl rfl) hsteps.accepting) hrest
    | new hnone =>
      rw [hnone] at ht
      cases ht
    | moves ht' hmove hm =>
      obtain rfl := Option.some.inj (ht.symm.trans ht')
      exact ih (h.step hstep) hmove (hP hp (.inr hm) hsteps.accepting) hrest

/-! ## A lease gets its result -/

end RemoteQueue

/-- The steps of calls that are under way for the ticket, and calls of its owner. -/
def QueueAct.answers (id : Nat) : QueueAct ρ → Bool
  | workStep i | takeCompletion i _ | takeStep i _ => i == id
  | _ => false

/-- No result is on its way from a winner to the slot. -/
def Ticket.Quiet (t : Ticket ρ) : Prop := ∀ p, (t.cell.party p).inFlight = false

/-- The step of a party in `TicketState::complete`. -/
def QueueAct.ofParty (id : Nat) : Party → QueueAct ρ
  | .work => .workStep id
  | .taker n => .takeStep id n

namespace RemoteQueue

theorem step_ofParty (h : t.Ok) (ht : s.tickets id = some t) {p : Party}
    (hp : t.cell.party p ≠ .idle) : s.step (.ofParty id p) = some (s.advance id t p) := by
  cases p with
  | work =>
    show (s.tickets id).bind (s.workStep id) = _
    rw [ht, Option.bind_some]
    have hends : t.work.ends = true := by
      by_contra hb
      exact hp (h.worker (by simpa using hb))
    unfold workStep
    split
    · next hw => rw [hw] at hends; cases hends
    · next hw => rw [hw] at hends; cases hends
    · next hw => rw [hw] at hends; cases hends
    · split
      · next hidle => exact absurd hidle hp
      · rfl
    · split
      · next hidle => exact absurd hidle hp
      · rfl
    · next h1 h2 h3 h4 h5 =>
      cases hw : t.work with
      | completing => exact absurd hw h4
      | dropping => exact absurd hw h5
      | _ => rw [hw] at hends; cases hends
  | taker n =>
    show (s.tickets id).bind (s.takeStep id n) = _
    rw [ht, Option.bind_some]
    have hpc : t.takers n = .completing := by
      by_contra hb
      exact hp (h.taker n hb)
    unfold takeStep
    rw [hpc]
    simp only

theorem tickets_advance {p : Party} : (s.advance id t p).tickets id = some (t.advance p) :=
  tickets_setTicket

theorem answers_ofParty {p : Party} : (QueueAct.ofParty id p : QueueAct ρ).answers id = true := by
  cases p <;> simp [QueueAct.ofParty, QueueAct.answers]

/-- A run in which only the calls of a ticket move on. -/
structure Settles (capacity id : Nat) (s : RemoteQueue ρ) (t : Ticket ρ) (s' : RemoteQueue ρ)
    (t' : Ticket ρ) : Prop where
  run : ∃ as, (remoteQueue capacity).run s as = some s' ∧ ∀ a ∈ as, a.answers id = true
  ticket : s'.tickets id = some t'

theorem Settles.refl (ht : s.tickets id = some t) : Settles capacity id s t s t :=
  ⟨⟨[], rfl, fun _ h => (by cases h)⟩, ht⟩

theorem Settles.next {s'' : RemoteQueue ρ} {t'' : Ticket ρ} {a : QueueAct ρ}
    (h : Settles capacity id s t s' t') (hs : s'.step a = some s'') (ha : a.answers id = true)
    (ht : s''.tickets id = some t'') : Settles capacity id s t s'' t'' := by
  obtain ⟨as, hrun, hall⟩ := h.run
  refine ⟨⟨as ++ [a], System.run_append.mpr ⟨s', hrun, System.run_singleton.mpr hs⟩, ?_⟩, ht⟩
  intro b hb
  rcases List.mem_append.mp hb with hb | hb
  · exact hall b hb
  · obtain rfl := List.mem_singleton.mp hb
    exact ha

theorem Settles.trans {s'' : RemoteQueue ρ} {t'' : Ticket ρ} (h : Settles capacity id s t s' t')
    (h' : Settles capacity id s' t' s'' t'') : Settles capacity id s t s'' t'' := by
  obtain ⟨as, hrun, hall⟩ := h.run
  obtain ⟨bs, hrun', hall'⟩ := h'.run
  refine ⟨⟨as ++ bs, System.run_append.mpr ⟨s', hrun, hrun'⟩, ?_⟩, h'.ticket⟩
  exact List.forall_mem_append.mpr ⟨hall, hall'⟩

theorem ok_advance_of_party (h : t.Ok) {p : Party} (hp : t.cell.party p ≠ .idle) :
    (t.advance p).Ok := by
  refine h.advance p ?_
  cases p with
  | work =>
    show t.work.ends = true
    by_contra hb
    exact hp (h.worker (by simpa using hb))
  | taker n =>
    show t.takers n = .completing
    by_contra hb
    exact hp (h.taker n hb)

/-- The step of a party that has something to do. -/
theorem settles_advance (h : t.Ok) (ht : s.tickets id = some t) {p : Party}
    (hp : t.cell.party p ≠ .idle) :
    Settles capacity id s t (s.advance id t p) (t.advance p) :=
  (Settles.refl ht).next (step_ofParty h ht hp) answers_ofParty tickets_advance

/-- Behind the last step of the winner the ticket is quiet. -/
theorem quiet_publish (h : t.Ok) {p : Party} {v : Except RemoteRequestError ρ}
    (hv : t.cell.party p = .publishing v) :
    (t.advance p).cell.party p = .idle ∧ (t.advance p).Quiet := by
  have hidle : (t.advance p).cell.party p = .idle := by
    show (t.cell.advance p).party p = _
    simp [OneShot.advance, hv, OneShot.setParty]
  refine ⟨hidle, fun q => ?_⟩
  by_cases hqp : q = p
  · rw [hqp, hidle]
    rfl
  · show ((t.cell.advance p).party q).inFlight = false
    rw [OneShot.party_advance_of_ne hqp, Bool.eq_false_iff]
    intro hin
    exact hqp ((h.once.flight p (by rw [hv]; rfl)).2 q hin)

/-- What the steps of the winner leave alone. -/
structure SameSides (s s' : RemoteQueue ρ) (t t' : Ticket ρ) : Prop where
  accepting : s'.accepting = s.accepting
  lease : t'.lease = t.lease
  takers : t'.takers = t.takers
  completed : t.cell.completed = true → t'.cell.completed = true
  party : ∀ p, t'.cell.party p = t.cell.party p ∨ t'.cell.party p = .idle

theorem sameSides_publish {p : Party} (hidle : (t.advance p).cell.party p = .idle) :
    SameSides s (s.advance id t p) t (t.advance p) where
  accepting := rfl
  lease := rfl
  takers := rfl
  completed := OneShot.completed_advance
  party := fun q => by
    by_cases hqp : q = p
    · exact .inr (hqp ▸ hidle)
    · exact .inl (OneShot.party_advance_of_ne hqp)

/-- A winner can publish: the ticket becomes quiet, and apart from the cell nothing changes. -/
theorem exists_quiet (h : t.Ok) (ht : s.tickets id = some t) :
    ∃ s' t', Settles capacity id s t s' t' ∧ t'.Ok ∧ t'.Quiet ∧ SameSides s s' t t' := by
  by_cases hq : t.Quiet
  · exact ⟨s, t, .refl ht, h, hq, rfl, rfl, rfl, fun hc => hc, fun _ => .inl rfl⟩
  obtain ⟨p, hp⟩ := not_forall.mp hq
  cases hv : t.cell.party p with
  | idle => simp [hv, Claim.inFlight] at hp
  | claiming v => simp [hv, Claim.inFlight] at hp
  | publishing v =>
    have hne : t.cell.party p ≠ .idle := by simp [hv]
    obtain ⟨hidle, hquiet⟩ := quiet_publish h hv
    exact ⟨_, _, settles_advance h ht hne, ok_advance_of_party h hne, hquiet,
      sameSides_publish hidle⟩
  | won v =>
    have hne : t.cell.party p ≠ .idle := by simp [hv]
    have hpub : (t.advance p).cell.party p = .publishing v := by
      show (t.cell.advance p).party p = _
      simp [OneShot.advance, hv]
    have hne' : (t.advance p).cell.party p ≠ .idle := by simp [hpub]
    have hok := ok_advance_of_party h hne
    obtain ⟨hidle, hquiet⟩ := quiet_publish hok hpub
    refine ⟨_, _, (settles_advance h ht hne).trans (settles_advance hok tickets_advance hne'),
      ok_advance_of_party hok hne', hquiet, rfl, rfl, rfl,
      fun hc => OneShot.completed_advance (OneShot.completed_advance hc), fun q => ?_⟩
    by_cases hqp : q = p
    · exact .inr (hqp ▸ hidle)
    · exact .inl ((OneShot.party_advance_of_ne hqp).trans (OneShot.party_advance_of_ne hqp))

/-- The pop of a quiet completed ticket leaves its one result with the caller. -/
theorem settles_pop (h : t.Ok) (ht : s.tickets id = some t) (hq : t.Quiet)
    (hc : t.cell.completed = true) {thread : Nat} {stopped : Bool}
    (hpc : t.takers thread = .popping stopped) :
    ∃ s' t', Settles capacity id s t s' t' ∧ t'.cell.taken.length = 1 := by
  have hstep : s.step (.takeStep id thread) =
      some (s.setTicket id { t.setTaker thread .idle with cell := t.cell.take }) := by
    show (s.tickets id).bind (s.takeStep id thread) = _
    rw [ht, Option.bind_some]
    unfold takeStep
    rw [hpc]
  refine ⟨_, _, (Settles.refl ht).next hstep (by simp [QueueAct.answers]) tickets_setTicket, ?_⟩
  have hsingle := h.once.single hc hq
  show (t.cell.taken ++ t.cell.slot.toList).length = 1
  exact hsingle

/-- The calls of a thread up to its pop. -/
theorem settles_reach (h : t.Ok) (ht : s.tickets id = some t) (hq : t.Quiet)
    (hc : t.cell.completed = true) {thread : Nat} (hpc : t.takers thread = .completing)
    (hidle : t.cell.party (.taker thread) = .idle) :
    ∃ s' t', Settles capacity id s t s' t' ∧ t'.cell.taken.length = 1 := by
  have hstep : s.step (.takeStep id thread) =
      some (s.setTicket id (t.setTaker thread (.popping true))) := by
    show (s.tickets id).bind (s.takeStep id thread) = _
    rw [ht, Option.bind_some]
    unfold takeStep
    rw [hpc]
    simp only [hidle]
  have hok : (t.setTaker thread (.popping true)).Ok :=
    h.setTaker thread _ (by simp) hidle fun _ => hc
  obtain ⟨s', t', hsettles, htaken⟩ :=
    settles_pop (s := s.setTicket id (t.setTaker thread (.popping true))) hok tickets_setTicket hq hc
      (Function.update_self ..)
  exact ⟨s', t', ((Settles.refl ht).next hstep (by simp [QueueAct.answers]) tickets_setTicket).trans
    hsettles, htaken⟩

/-- A lease that is held gets its result from one more call, if the ticket is completed or its
generation has ended. -/
theorem settles_take (h : t.Ok) (ht : s.tickets id = some t) (hlease : t.lease = .held)
    (hend : s.accepting = false ∨ t.cell.completed = true) {thread : Nat}
    (hidle : t.takers thread = .idle) :
    ∃ s' t', Settles capacity id s t s' t' ∧ t'.cell.taken.length = 1 := by
  obtain ⟨s₁, t₁, hset₁, hok₁, hq₁, hsame⟩ := @exists_quiet ρ capacity s t id h ht
  have ht₁ := hset₁.ticket
  have hidle₁ : t₁.takers thread = .idle := hsame.takers ▸ hidle
  have hparty₁ := hok₁.taker thread (by simp [hidle₁])
  have hcall : s₁.step (.takeCompletion id thread) = s₁.takeCompletion id thread t₁ := by
    show (s₁.tickets id).bind (s₁.takeCompletion id thread) = _
    rw [ht₁, Option.bind_some]
  unfold takeCompletion at hcall
  rw [hsame.lease.trans hlease, hidle₁] at hcall
  by_cases hacc : s₁.accepting = true
  · -- the generation accepts: the ticket is completed, and the call goes on to the pop
    have hc : t₁.cell.completed = true := hsame.completed (hend.resolve_left (by
      rw [← hsame.accepting, hacc]
      simp))
    simp only [hacc, Bool.not_true, Bool.false_eq_true, if_false] at hcall
    have hok₂ : (t₁.setTaker thread (.popping false)).Ok :=
      hok₁.setTaker thread _ (by simp) hparty₁ (by simp)
    obtain ⟨s', t', hset, htaken⟩ :=
      settles_pop (s := s₁.setTicket id (t₁.setTaker thread (.popping false))) hok₂
        tickets_setTicket hq₁ hc (Function.update_self ..)
    exact ⟨s', t', (hset₁.next hcall (by simp [QueueAct.answers]) tickets_setTicket).trans hset,
      htaken⟩
  · -- the generation has ended: the call claims the ticket first
    simp only [hacc, Bool.not_false, if_true] at hcall
    have hok₂ := hok₁.takeStopped hidle₁
    have hclaim : ((t₁.complete (.taker thread) (.error .stopped)).setTaker thread
        .completing).cell.party (.taker thread) = .claiming (.error .stopped) :=
      OneShot.party_setParty _
    generalize ht₂ : (t₁.complete (.taker thread) (.error .stopped)).setTaker thread .completing = t₂
      at hcall hok₂ hclaim
    have hset₂ := hset₁.next hcall (by simp [QueueAct.answers]) tickets_setTicket
    have hne : t₂.cell.party (.taker thread) ≠ .idle := by simp [hclaim]
    have hset₃ := hset₂.trans (settles_advance hok₂ tickets_setTicket hne)
    have hok₃ := ok_advance_of_party hok₂ hne
    have hc₃ : (t₂.advance (.taker thread)).cell.completed = true :=
      OneShot.completed_advance_of_claiming hclaim
    obtain ⟨s₄, t₄, hset₄, hok₄, hq₄, hsame₄⟩ := exists_quiet hok₃ tickets_advance
    have hpc₄ : t₄.takers thread = .completing := by
      rw [hsame₄.takers, ← ht₂]
      exact Function.update_self ..
    have hparty₄ : t₄.cell.party (.taker thread) = .idle := by
      -- the claim was tried: the taker has lost, or it has won and published since
      have hthird : (t₂.advance (.taker thread)).cell.party (.taker thread) = .idle ∨
          (t₂.advance (.taker thread)).cell.party (.taker thread) = .won (.error .stopped) := by
        show (t₂.cell.advance (.taker thread)).party _ = _ ∨ (t₂.cell.advance _).party _ = _
        unfold OneShot.advance
        rw [hclaim]
        simp only
        split
        · exact .inl (OneShot.party_setParty _)
        · exact .inr (OneShot.party_setParty _)
      rcases hsame₄.party (.taker thread) with hkept | hpub
      · rcases hthird with hlost | hwon
        · rw [hkept, hlost]
        · have hflying := hq₄ (.taker thread)
          rw [hkept, hwon] at hflying
          cases hflying
      · exact hpub
    obtain ⟨s', t', hset, htaken⟩ :=
      settles_reach hok₄ hset₄.ticket hq₄ (hsame₄.completed hc₃) hpc₄ hparty₄
    exact ⟨s', t', (hset₃.trans hset₄).trans hset, htaken⟩

/-! ## The contract -/

end RemoteQueue

/-- The calls that revoke the source of a request. -/
def QueueAct.revokes (id : Nat) : QueueAct ρ → Bool
  | sourceState i _ valid => i == id && !valid
  | dropLease i => i == id
  | retire => true
  | _ => false

/-- The calls by which the worker ends its work. -/
def QueueAct.endsWork (id : Nat) : QueueAct ρ → Bool
  | complete i _ | dropWork i => i == id
  | _ => false

/-- A result that the end of the work can give: the one of the worker, or a failure of the port. -/
def QueueAct.Gives : QueueAct ρ → Except RemoteRequestError ρ → Prop
  | complete _ result => fun r => r = result ∨ r = .error .stopped ∨ r = .error .staleSource
  | _ => Stopped

namespace RemoteQueue

/-- What holds of a ticket of a reachable state. -/
structure Contract (capacity : Nat) (s : RemoteQueue ρ) (id : Nat) (t : Ticket ρ) : Prop where
  /-- There is at most one result, in the slot or with the caller. -/
  once : t.cell.results.length ≤ 1
  /-- What the caller has taken never changes. -/
  kept : ∀ as s', (remoteQueue capacity).run s as = some s' →
    ∃ t', s'.tickets id = some t' ∧ t.cell.taken <+: t'.cell.taken
  /-- Queued work is in the queues once, and nothing else is in them. -/
  placed : (s.ordinary ++ s.urgent).Nodup ∧ (id ∈ s.ordinary ++ s.urgent ↔ t.work = .queued)
  /-- Behind the end of the work there is a result, or a call of the owner publishes it. -/
  ended : t.work = .gone → t.cell.results.length = 1 ∨
    ∃ thread, (t.cell.party (.taker thread)).inFlight = true
  /-- The worker can end the work that it holds. From then on eleven steps of it are enough, whatever
  happens in between, and up to the last one it is never stuck. -/
  worked : t.work = .held → ∀ a : QueueAct ρ, a.endsWork id = true → ∃ s₁, s.step a = some s₁ ∧
    ∀ as s', (remoteQueue capacity).run s₁ as = some s' → ∃ t', s'.tickets id = some t' ∧
      (∀ r ∈ t'.cell.results, a.Gives r) ∧
      (t'.work ≠ .gone → (s'.step (.workStep id)).isSome = true) ∧
      (11 ≤ as.countP (QueueAct.works id) → t'.work = .gone)
  /-- The holder of the lease can revoke its source, the owner can retire all, and that does it. -/
  revokes : ∀ a : QueueAct ρ, a.revokes id = true →
    (t.lease = .held → (s.step a).isSome = true) ∧
    ∀ s', s.step a = some s' → ∃ t', s'.tickets id = some t' ∧ (t'.source s'.accepting).valid = false
  /-- A revoked source never becomes valid again. -/
  revoked : (t.source s.accepting).valid = false → ∀ as s',
    (remoteQueue capacity).run s as = some s' →
      ∃ t', s'.tickets id = some t' ∧ (t'.source s'.accepting).valid = false
  /-- A source that is revoked in front of the check: there is no success, now or later. -/
  stale : (t.source s.accepting).valid = false → t.work.unchecked = true → ∀ as s',
    (remoteQueue capacity).run s as = some s' →
      ∃ t', s'.tickets id = some t' ∧ ∀ v, .ok v ∉ t'.cell.results
  /-- Behind the end of the work or of the generation the owner gets the result: calls that are
  under way and one more call of any thread are enough. -/
  answered : t.lease = .held → (s.accepting = false ∨ t.work = .gone) → ∀ thread,
    t.takers thread = .idle → ∃ as s' t', (remoteQueue capacity).run s as = some s' ∧
      (∀ a ∈ as, a.answers id = true) ∧ s'.tickets id = some t' ∧ t'.cell.taken.length = 1

theorem source_valid_eq_false :
    (t.source s.accepting).valid = false ↔ t.valid = false ∨ s.accepting = false := by
  simp only [Ticket.source, Bool.and_eq_false_iff]

/-- The end of the work, by either call. -/
theorem worked_of_held (hinv : Inv s) (ht : s.tickets id = some t) (hw : t.work = .held)
    {a : QueueAct ρ} (ha : a.endsWork id = true) : ∃ s₁, s.step a = some s₁ ∧
      ∀ as s', (remoteQueue capacity).run s₁ as = some s' → ∃ t', s'.tickets id = some t' ∧
        (∀ r ∈ t'.cell.results, a.Gives r) ∧
        (t'.work ≠ .gone → (s'.step (.workStep id)).isSome = true) ∧
        (11 ≤ as.countP (QueueAct.works id) → t'.work = .gone) := by
  have hearly := (hinv.ok id t ht).early (by rw [hw]; rfl)
  -- the call, and what the ticket can get behind it
  obtain ⟨s₁, t₁, hstep, ht₁, hending, hanswers, hstopped⟩ : ∃ s₁ t₁, s.step a = some s₁ ∧
      s₁.tickets id = some t₁ ∧ t₁.work.ending = true ∧ t₁.Answers a.Gives ∧
      a.Gives (.error .stopped) := by
    cases a with
    | complete i result =>
      obtain rfl : i = id := by simpa [QueueAct.endsWork] using ha
      refine ⟨s.setTicket i { t with work := .loadGeneration result }, _, ?_, tickets_setTicket, rfl,
        ⟨hearly.imp fun _ h => .inr (.inl h), fun r hr => ?_, .inr (.inr (.inr rfl))⟩, .inr (.inl rfl)⟩
      · show (s.tickets i).bind _ = _
        simp only [ht, Option.bind_some, endWork, hw]
      · obtain rfl := Option.some.inj hr
        exact .inl rfl
    | dropWork i =>
      obtain rfl : i = id := by simpa [QueueAct.endsWork] using ha
      refine ⟨s.setTicket i t.dropWork, _, ?_, tickets_setTicket, rfl,
        ⟨hearly.offer rfl, nofun, .inl rfl⟩, rfl⟩
      show (s.tickets i).bind _ = _
      simp only [ht, Option.bind_some, endWork, hw]
    | _ => cases ha
  refine ⟨s₁, hstep, fun as s' hrun => ?_⟩
  have hinv₁ := hinv.step hstep
  obtain ⟨t', ht', hending', hcount⟩ := run_remaining hinv₁.queues ht₁ hending hrun
  obtain ⟨u, hu, -, hanswers'⟩ := run_ticket
    (P := fun _ t => t.work.ending = true ∧ t.Answers a.Gives)
    (by
      rintro _ _ u u' ⟨hu, hanswers⟩ hm _
      rcases hm with rfl | hm
      · exact ⟨hu, hanswers⟩
      · exact ⟨(hm.remaining hu).1, hanswers.moves hstopped hm hu⟩) hinv₁ ht₁ ⟨hending, hanswers⟩ hrun
  obtain rfl := Option.some.inj (ht'.symm.trans hu)
  refine ⟨t', ht', hanswers'.every.published, fun hgone => ?_, fun hsteps => ?_⟩
  · show ((s'.tickets id).bind (s'.workStep id)).isSome = true
    rw [ht', Option.bind_some]
    exact isSome_workStep hending' hgone
  · have hbound := t₁.remaining_le
    exact Ticket.gone_of_remaining hending' (by omega)

theorem revokes_of_call (ht : s.tickets id = some t) {a : QueueAct ρ} (ha : a.revokes id = true) :
    (t.lease = .held → (s.step a).isSome = true) ∧
    ∀ s', s.step a = some s' → ∃ t', s'.tickets id = some t' ∧
      (t'.source s'.accepting).valid = false := by
  cases a with
  | sourceState i active valid =>
    simp only [QueueAct.revokes, Bool.and_eq_true, beq_iff_eq, Bool.not_eq_true'] at ha
    obtain ⟨rfl, rfl⟩ := ha
    have hcall : s.step (.sourceState i active false) = s.sourceState i t active false := by
      show (s.tickets i).bind _ = _
      rw [ht, Option.bind_some]
    rw [hcall, sourceState]
    refine ⟨fun hlease => by rw [hlease]; rfl, fun s' hs => ?_⟩
    split at hs
    · obtain rfl := Option.some.inj hs
      exact ⟨_, tickets_setTicket, rfl⟩
    · cases hs
  | dropLease i =>
    obtain rfl : i = id := by simpa [QueueAct.revokes] using ha
    have hcall : s.step (.dropLease i) = s.dropLease i t := by
      show (s.tickets i).bind _ = _
      rw [ht, Option.bind_some]
    rw [hcall, dropLease]
    refine ⟨fun hlease => by rw [hlease]; rfl, fun s' hs => ?_⟩
    split at hs
    · obtain rfl := Option.some.inj hs
      exact ⟨_, tickets_setTicket, rfl⟩
    · cases hs
  | retire =>
    refine ⟨fun _ => rfl, fun s' hs => ?_⟩
    obtain rfl := Option.some.inj hs
    exact ⟨t, ht, Bool.and_false _⟩
  | _ => cases ha

/-- **Exactly-once completion**, in every reachable state and for every ticket. -/
theorem remoteQueue_contract (h : (remoteQueue capacity).Reach s) (ht : s.tickets id = some t) :
    Contract capacity s id t := by
  have hinv := inv_of_reach h
  have hok := hinv.ok id t ht
  refine ⟨hok.once.length_results, fun as s' hrun => ?_, ⟨hinv.queues.nodup, ?_⟩, fun hgone => ?_,
    fun hw _ ha => worked_of_held hinv ht hw ha, fun _ ha => revokes_of_call ht ha,
    fun hrev as s' hrun => ?_, fun hrev hun as s' hrun => ?_, fun hlease hend thread hidle => ?_⟩
  · refine run_ticket (P := fun _ t' => t.cell.taken <+: t'.cell.taken) ?_ hinv ht
      (List.prefix_refl _) hrun
    rintro _ _ u u' hu (rfl | hm) _
    · exact hu
    · exact hu.trans hm.taken
  · refine (hinv.queues.queued id).trans ⟨?_, fun hw => ⟨t, ht, hw⟩⟩
    rintro ⟨u, hu, hw⟩
    obtain rfl := Option.some.inj (ht.symm.trans hu)
    exact hw
  · by_cases hq : t.Quiet
    · exact .inl (hok.once.single (hok.gone hgone) hq)
    · obtain ⟨p, hp⟩ := not_forall.mp hq
      cases p with
      | work => simp [hok.worker (by rw [hgone]; rfl), Claim.inFlight] at hp
      | taker thread => exact .inr ⟨thread, by simpa using hp⟩
  · obtain ⟨t', ht', hrev'⟩ := run_ticket
      (P := fun accepting t => t.valid = false ∨ accepting = false)
      (by
        rintro a a' u u' hu hm hacc
        rcases hu with hv | ha
        · refine .inl (Bool.eq_false_iff.mpr fun hv' => ?_)
          rcases hm with rfl | hm
          · rw [hv] at hv'
            cases hv'
          · rw [hm.valid hv'] at hv
            cases hv
        · refine .inr (Bool.eq_false_iff.mpr fun ha' => ?_)
          rw [hacc ha'] at ha
          cases ha) hinv ht (source_valid_eq_false.mp hrev) hrun
    exact ⟨t', ht', source_valid_eq_false.mpr hrev'⟩
  · have hstart : t.NoSuccess s.accepting := by
      refine ⟨source_valid_eq_false.mp hrev, (hok.early ?_).imp fun _ => Stopped.failure,
        fun r hw => ?_⟩
      · cases hw : t.work <;> simp_all [WorkPc.unchecked, WorkPc.early]
      · rw [hw] at hun
        cases hun
    obtain ⟨t', ht', hno⟩ := run_ticket (P := fun accepting t => t.NoSuccess accepting)
      (by
        rintro a a' u u' hu hm hacc
        rcases hm with rfl | hm
        · exact hu.mono hacc
        · exact hu.moves hm hacc) hinv ht hstart hrun
    exact ⟨t', ht', fun v hv => hno.every.published _ hv v rfl⟩
  · obtain ⟨s', t', hset, htaken⟩ := @settles_take ρ capacity s t id hok ht hlease
      (hend.imp_right hok.gone) thread hidle
    obtain ⟨as, hrun, hall⟩ := hset.run
    exact ⟨as, s', t', hrun, hall, hset.ticket, htaken⟩

/-- A request whose source is revoked while the worker holds it. -/
def revokedRequest : List (QueueAct Unit) :=
  [.submit 0 (.command ⟨40, 1, 1, 3, 0, 0, 0, 0⟩) false true, .enqueue 0, .nextOrdinary,
    .sourceState 0 true false]

/-- The worker reports a success all the same, and the caller takes its result. -/
def revokedAnswer : List (QueueAct Unit) :=
  .complete 0 (.ok ()) :: List.replicate 9 (.workStep 0) ++ [.takeCompletion 0 0, .takeStep 0 0]

theorem remoteQueue_contract_revokedRequest : ∃ s t s' t',
    (remoteQueue 4).run (.new 4) revokedRequest = some s ∧ s.tickets 0 = some t ∧
      t.work = .held ∧ (t.source s.accepting).valid = false ∧ t.lease = .held ∧
      Contract 4 s 0 t ∧
    (remoteQueue 4).run s revokedAnswer = some s' ∧ s'.tickets 0 = some t' ∧ t'.work = .gone ∧
      t'.cell.taken = [.error .staleSource] ∧ Contract 4 s' 0 t' :=
  ⟨_, _, _, _, rfl, rfl, rfl, rfl, rfl, remoteQueue_contract ⟨_, revokedRequest, rfl, rfl⟩ rfl, rfl,
    rfl, rfl, rfl, remoteQueue_contract ⟨_, revokedRequest ++ revokedAnswer, rfl, rfl⟩ rfl⟩

end RemoteQueue
end UsbRadioPlus.Driver
