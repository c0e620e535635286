import UsbRadioPlus.Driver.RemoteQueue

/-!
# What a step does to one ticket

`Moves` lists the changes of a ticket, `Steps` says that every step of the port changes tickets
only so. The queues hold exactly the tickets whose work is queued (`Queues`), which tells where the
dequeued work was.
-/

namespace UsbRadioPlus.Driver

open Sys

variable {ρ : Type} {s s' : RemoteQueue ρ} {t t' : Ticket ρ} {id : Nat}

/-- Its `TicketState::complete` is under way. -/
def WorkPc.ends : WorkPc ρ → Bool
  | completing | dropping => true
  | _ => false

/-- `RemoteWork::complete` has not yet looked at the source. -/
def WorkPc.unchecked : WorkPc ρ → Bool
  | created | queued | held | loadGeneration _ | loadSource _ => true
  | _ => false

/-- The changes of one ticket in a generation that accepts or not. -/
inductive Ticket.Moves (accepting : Bool) (t : Ticket ρ) : Ticket ρ → Prop where
  | refuse (h : t.work = .created) : Moves accepting t { t.dropWork with lease := .refused .busy }
  | enqueue (h : t.work = .created) (lease : Lease) :
      Moves accepting t { t with work := .queued, lease }
  | hold (h : t.work = .queued) : Moves accepting t { t with work := .held }
  | complete (h : t.work = .held) (result : Except RemoteRequestError ρ) :
      Moves accepting t { t with work := .loadGeneration result }
  | abandon (h : t.work = .held) : Moves accepting t t.dropWork
  | drop (h : t.work = .completing) (hidle : t.cell.party .work = .idle) :
      Moves accepting t t.dropWork
  | loadSource {result : Except RemoteRequestError ρ} (h : t.work = .loadGeneration result) :
      Moves accepting t { t with work := .loadSource result }
  | loadGenerationAgain {result : Except RemoteRequestError ρ} (h : t.work = .loadSource result) :
      Moves accepting t { t with work := .loadGenerationAgain result t.valid }
  | fail {result : Except RemoteRequestError ρ} (h : t.work = .loadGeneration result ∨
        ∃ valid, t.work = .loadGenerationAgain result valid) (e : RemoteRequestError)
      (he : e = .stopped ∨ e = .staleSource ∨ result = .error e) :
      Moves accepting t { t.complete .work (.error e) with work := .completing }
  | finish {result : Except RemoteRequestError ρ} (h : t.work = .loadGenerationAgain result true)
      (ha : accepting = true) : Moves accepting t { t.complete .work result with work := .completing }
  | advanceWork (h : t.work.ends = true) : Moves accepting t (t.advance .work)
  | leave (h : t.work = .dropping) (hidle : t.cell.party .work = .idle) :
      Moves accepting t { t with work := .gone }
  | takeStopped {thread : Nat} (h : t.takers thread = .idle) :
      Moves accepting t
        ((t.complete (.taker thread) (.error .stopped)).setTaker thread .completing)
  | takeAccepting {thread : Nat} (h : t.takers thread = .idle) :
      Moves accepting t (t.setTaker thread (.popping false))
  | advanceTaker {thread : Nat} (h : t.takers thread = .completing) :
      Moves accepting t (t.advance (.taker thread))
  | reach {thread : Nat} (h : t.takers thread = .completing)
      (hidle : t.cell.party (.taker thread) = .idle) :
      Moves accepting t (t.setTaker thread (.popping true))
  | pop {thread : Nat} {stopped : Bool} (h : t.takers thread = .popping stopped) :
      Moves accepting t { t.setTaker thread .idle with cell := t.cell.take }
  | sourceState (active valid : Bool) :
      Moves accepting t { t with valid := valid && t.valid, active }
  | dropLease : Moves accepting t { t with valid := false, lease := .dropped }

/-- What happens to the ticket `id` in a step from `s` to `s'`. -/
inductive TicketStep (s s' : RemoteQueue ρ) (id : Nat) : Prop where
  | same (h : s'.tickets id = s.tickets id)
  | new (h : s.tickets id = none) (input : RemoteInput) (isLocal active : Bool)
      (h' : s'.tickets id = some (.new input isLocal active))
  | moves {t t' : Ticket ρ} (h : s.tickets id = some t) (h' : s'.tickets id = some t')
      (hmoves : t.Moves s.accepting t')

namespace RemoteQueue

@[simp] theorem tickets_setTicket : (s.setTicket id t).tickets id = some t :=
  Function.update_self ..

theorem tickets_setTicket_of_ne {i : Nat} (h : i ≠ id) :
    (s.setTicket id t).tickets i = s.tickets i :=
  Function.update_of_ne h ..

/-! ## The queues -/

/-- The queues hold exactly the queued work, each once. -/
structure Queues (s : RemoteQueue ρ) : Prop where
  nodup : (s.ordinary ++ s.urgent).Nodup
  queued : ∀ id, id ∈ s.ordinary ++ s.urgent ↔ ∃ t, s.tickets id = some t ∧ t.work = .queued

theorem Queues.new (capacity : Nat) : Queues (RemoteQueue.new capacity : RemoteQueue ρ) :=
  ⟨List.nodup_nil, fun id => ⟨fun h => (by cases h), fun ⟨_, h, _⟩ => (by cases h)⟩⟩

/-- A change of a ticket that neither was nor becomes queued. -/
theorem Queues.setTicket (h : Queues s) (ht : ∀ t, s.tickets id = some t → t.work ≠ .queued)
    (ht' : t'.work ≠ .queued) : Queues (s.setTicket id t') := by
  refine ⟨h.nodup, fun i => (h.queued i).trans ?_⟩
  by_cases hi : i = id
  · subst hi
    constructor
    · rintro ⟨t, hmem, hw⟩
      exact absurd hw (ht t hmem)
    · rintro ⟨t, hmem, hw⟩
      rw [tickets_setTicket] at hmem
      obtain rfl := Option.some.inj hmem
      exact absurd hw ht'
  · rw [tickets_setTicket_of_ne hi]

/-- Work is dequeued: it was the queued work of the front, and it is held now. -/
theorem Queues.hold {ordinary urgent : List Nat} (h : Queues s)
    (hperm : (s.ordinary ++ s.urgent).Perm (id :: (ordinary ++ urgent))) :
    ∃ t, s.tickets id = some t ∧ t.work = .queued ∧
      Queues ({ s with ordinary, urgent }.setTicket id { t with work := .held }) := by
  obtain ⟨t, ht, hw⟩ := (h.queued id).mp (hperm.mem_iff.mpr (by simp))
  have hnodup := hperm.nodup_iff.mp h.nodup
  obtain ⟨hnot, hrest⟩ := List.nodup_cons.mp hnodup
  refine ⟨t, ht, hw, hrest, fun i => ?_⟩
  by_cases hi : i = id
  · subst hi
    refine ⟨fun hmem => absurd hmem hnot, ?_⟩
    rintro ⟨t', ht', hw'⟩
    rw [tickets_setTicket] at ht'
    obtain rfl := Option.some.inj ht'
    cases hw'
  · rw [tickets_setTicket_of_ne hi]
    refine Iff.trans ?_ (h.queued i)
    rw [hperm.mem_iff, List.mem_cons]
    exact ⟨fun hmem => .inr hmem, fun hmem => hmem.resolve_left hi⟩

/-- Work is pushed behind one of the queues. -/
theorem Queues.push {ordinary urgent : List Nat} (h : Queues s) (ht : s.tickets id = some t)
    (hw : t.work = .created) (hw' : t'.work = .queued)
    (hperm : (ordinary ++ urgent).Perm (id :: (s.ordinary ++ s.urgent))) :
    Queues { s.setTicket id t' with ordinary, urgent } := by
  have hnot : id ∉ s.ordinary ++ s.urgent := by
    intro hmem
    obtain ⟨u, hu, hqueued⟩ := (h.queued id).mp hmem
    obtain rfl := Option.some.inj (ht.symm.trans hu)
    rw [hw] at hqueued
    cases hqueued
  refine ⟨hperm.nodup_iff.mpr (List.nodup_cons.mpr ⟨hnot, h.nodup⟩), fun i => ?_⟩
  refine hperm.mem_iff.trans ?_
  by_cases hi : i = id
  · subst hi
    exact ⟨fun _ => ⟨t', tickets_setTicket, hw'⟩, fun _ => by simp⟩
  · refine Iff.trans ?_ ((h.queued i).trans ?_)
    · rw [List.mem_cons]
      exact ⟨fun hmem => hmem.resolve_left hi, fun hmem => .inr hmem⟩
    · show _ ↔ ∃ t, (s.setTicket id t').tickets i = some t ∧ _
      rw [tickets_setTicket_of_ne hi]

/-! ## One step -/

/-- A step of the port: the queues stay right, tickets change by moves only, and a retired
generation stays retired. -/
structure Steps (s s' : RemoteQueue ρ) : Prop where
  queues : Queues s'
  tickets : ∀ id, TicketStep s s' id
  accepting : s'.accepting = true → s.accepting = true

theorem Steps.refl (h : Queues s) : Steps s s := ⟨h, fun _ => .same rfl, id⟩

theorem ticketStep_of_setTicket {f : RemoteQueue ρ} (hf : f.tickets = (s.setTicket id t').tickets)
    (hstep : TicketStep s f id) : ∀ i, TicketStep s f i := by
  intro i
  by_cases hi : i = id
  · subst hi
    exact hstep
  · exact .same (by rw [hf, tickets_setTicket_of_ne hi])

/-- A ticket moves and stays out of the queues. -/
theorem Steps.moves {f : RemoteQueue ρ} (h : Queues s) (ht : s.tickets id = some t)
    (hw : t.work ≠ .queued) (hw' : t'.work ≠ .queued) (hmoves : t.Moves s.accepting t')
    (hordinary : f.ordinary = s.ordinary) (hurgent : f.urgent = s.urgent)
    (hf : f.tickets = (s.setTicket id t').tickets) (haccepting : f.accepting = s.accepting) :
    Steps s f := by
  have hq : Queues (s.setTicket id t') := by
    refine h.setTicket (fun u hu => ?_) hw'
    obtain rfl := Option.some.inj (ht.symm.trans hu)
    exact hw
  refine ⟨⟨?_, fun i => ?_⟩, ticketStep_of_setTicket hf (.moves ht ?_ hmoves), fun ha => ?_⟩
  · rw [hordinary, hurgent]
    exact hq.nodup
  · rw [hordinary, hurgent, hf]
    exact hq.queued i
  · rw [hf, tickets_setTicket]
  · rwa [haccepting] at ha

/-- A ticket moves and its work stays where it is. -/
theorem Steps.aside {f : RemoteQueue ρ} (h : Queues s) (ht : s.tickets id = some t)
    (hmoves : t.Moves s.accepting t') (hw : t'.work = t.work)
    (hordinary : f.ordinary = s.ordinary) (hurgent : f.urgent = s.urgent)
    (hf : f.tickets = (s.setTicket id t').tickets) (haccepting : f.accepting = s.accepting) :
    Steps s f := by
  refine ⟨⟨?_, fun i => ?_⟩, ticketStep_of_setTicket hf (.moves ht ?_ hmoves), fun ha => ?_⟩
  · rw [hordinary, hurgent]
    exact h.nodup
  · rw [hordinary, hurgent, hf]
    refine (h.queued i).trans ?_
    by_cases hi : i = id
    · subst hi
      rw [ht, tickets_setTicket]
      simp [hw]
    · rw [tickets_setTicket_of_ne hi]
  · rw [hf, tickets_setTicket]
  · rwa [haccepting] at ha

theorem hold_eq_some (h : s.hold id = some s') :
    ∃ t, s.tickets id = some t ∧ s' = s.setTicket id { t with work := .held } := by
  obtain ⟨t, ht, rfl⟩ := Option.map_eq_some_iff.mp h
  exact ⟨t, ht, rfl⟩

theorem Steps.hold {ordinary urgent : List Nat} (h : Queues s)
    (hperm : (s.ordinary ++ s.urgent).Perm (id :: (ordinary ++ urgent)))
    (hs : ({ s with ordinary, urgent } : RemoteQueue ρ).hold id = some s') : Steps s s' := by
  obtain ⟨t, ht, rfl⟩ := hold_eq_some hs
  obtain ⟨u, hu, hw, hq⟩ := h.hold hperm
  obtain rfl := Option.some.inj (ht.symm.trans hu)
  exact ⟨hq, ticketStep_of_setTicket rfl (.moves ht tickets_setTicket (.hold hw)), fun ha => ha⟩

theorem steps_submit {input : RemoteInput} {isLocal active : Bool} (h : Queues s)
    (hs : s.submit id input isLocal active = some s') : Steps s s' := by
  unfold submit at hs
  split at hs
  · obtain rfl := Option.some.inj hs
    exact .refl h
  split at hs
  · obtain rfl := Option.some.inj hs
    exact .refl h
  split at hs
  · cases hs
  · next hnone =>
    have hnew : ∀ input isLocal active,
        Steps s (s.setTicket id (.new input isLocal active)) := by
      intro input isLocal active
      refine ⟨h.setTicket (fun t ht => ?_) (by simp [Ticket.new]),
        ticketStep_of_setTicket rfl (.new hnone input isLocal active tickets_setTicket), fun ha => ha⟩
      rw [hnone] at ht
      cases ht
    split at hs
    · obtain rfl := Option.some.inj hs
      exact hnew _ _ _
    · obtain rfl := Option.some.inj hs
      exact hnew _ _ _

theorem steps_enqueue (h : Queues s) (ht : s.tickets id = some t)
    (hs : s.enqueue id t = some s') : Steps s s' := by
  unfold enqueue at hs
  split at hs
  · next hw =>
    split at hs
    · obtain rfl := Option.some.inj hs
      exact .moves h ht (by simp [hw]) (by simp [Ticket.dropWork]) (.refuse hw) rfl rfl rfl rfl
    · obtain rfl := Option.some.inj hs
      unfold push
      split
      · refine ⟨h.push ht hw rfl ?_, ticketStep_of_setTicket rfl
          (.moves ht tickets_setTicket (.enqueue hw _)), fun ha => ha⟩
        show (s.ordinary ++ (s.urgent ++ [id])).Perm _
        rw [← List.append_assoc]
        exact List.perm_append_singleton ..
      · refine ⟨h.push ht hw rfl ?_, ticketStep_of_setTicket rfl
          (.moves ht tickets_setTicket (.enqueue hw _)), fun ha => ha⟩
        exact List.Perm.append_right _ (List.perm_append_singleton ..)
  · cases hs

theorem steps_next (h : Queues s) {a : QueueAct ρ} (ha : a = .nextUrgent ∨ a = .nextOrdinary)
    (hs : s.step a = some s') : Steps s s' := by
  rcases ha with rfl | rfl
  · simp only [step, nextUrgent] at hs
    split at hs
    · obtain rfl := Option.some.inj hs
      exact .refl h
    · next id rest hurgent =>
      refine .hold h ?_ hs
      rw [hurgent]
      exact List.perm_middle
  · simp only [step, nextOrdinary] at hs
    split at hs
    · obtain rfl := Option.some.inj hs
      exact .refl h
    · next id rest hordinary =>
      refine .hold h ?_ hs
      rw [hordinary]
      exact .refl _

theorem steps_endWork {result : Option (Except RemoteRequestError ρ)} (h : Queues s)
    (ht : s.tickets id = some t) (hs : s.endWork id t result = some s') : Steps s s' := by
  unfold endWork at hs
  split at hs
  · next result hw =>
    obtain rfl := Option.some.inj hs
    exact .moves h ht (by simp [hw]) (by simp) (.complete hw result) rfl rfl rfl rfl
  · next hw =>
    obtain rfl := Option.some.inj hs
    exact .moves h ht (by simp [hw]) (by simp [Ticket.dropWork]) (.abandon hw) rfl rfl rfl rfl
  · cases hs

theorem steps_workStep (h : Queues s) (ht : s.tickets id = some t)
    (hs : s.workStep id t = some s') : Steps s s' := by
  unfold workStep at hs
  split at hs
  · next result hw =>
    have hne : t.work ≠ .queued := by simp [hw]
    split at hs
    · obtain rfl := Option.some.inj hs
      exact .moves h ht hne (by simp) (.fail (.inl hw) .stopped (.inl rfl)) rfl rfl rfl rfl
    · split at hs
      · obtain rfl := Option.some.inj hs
        exact .moves h ht hne (by simp) (.loadSource hw) rfl rfl rfl rfl
      · next e =>
        obtain rfl := Option.some.inj hs
        exact .moves h ht hne (by simp) (.fail (.inl hw) e (.inr (.inr rfl))) rfl rfl rfl rfl
  · next result hw =>
    obtain rfl := Option.some.inj hs
    exact .moves h ht (by simp [hw]) (by simp) (.loadGenerationAgain hw) rfl rfl rfl rfl
  · next result valid hw =>
    have hne : t.work ≠ .queued := by simp [hw]
    split at hs
    · next hc =>
      obtain rfl := Option.some.inj hs
      rw [Bool.and_eq_true] at hc
      rw [hc.1] at hw
      exact .moves h ht hne (by simp) (.finish hw hc.2) rfl rfl rfl rfl
    · obtain rfl := Option.some.inj hs
      exact .moves h ht hne (by simp) (.fail (.inr ⟨valid, hw⟩) .staleSource (.inr (.inl rfl))) rfl rfl rfl rfl
  · next hw =>
    split at hs
    · next hidle =>
      obtain rfl := Option.some.inj hs
      exact .moves h ht (by simp [hw]) (by simp [Ticket.dropWork]) (.drop hw hidle) rfl rfl rfl rfl
    · obtain rfl := Option.some.inj hs
      exact .aside h ht (.advanceWork (by rw [hw]; rfl)) rfl rfl rfl rfl rfl
  · next hw =>
    split at hs
    · next hidle =>
      obtain rfl := Option.some.inj hs
      exact .moves h ht (by simp [hw]) (by simp) (.leave hw hidle) rfl rfl rfl rfl
    · obtain rfl := Option.some.inj hs
      exact .aside h ht (.advanceWork (by rw [hw]; rfl)) rfl rfl rfl rfl rfl
  · cases hs

theorem steps_takeCompletion {thread : Nat} (h : Queues s) (ht : s.tickets id = some t)
    (hs : s.takeCompletion id thread t = some s') : Steps s s' := by
  unfold takeCompletion at hs
  split at hs
  · next hidle =>
    split at hs
    · obtain rfl := Option.some.inj hs
      exact .aside h ht (.takeStopped hidle) rfl rfl rfl rfl rfl
    · obtain rfl := Option.some.inj hs
      exact .aside h ht (.takeAccepting hidle) rfl rfl rfl rfl rfl
  · cases hs

theorem steps_takeStep {thread : Nat} (h : Queues s) (ht : s.tickets id = some t)
    (hs : s.takeStep id thread t = some s') : Steps s s' := by
  unfold takeStep at hs
  split at hs
  · cases hs
  · next hpc =>
    split at hs
    · next hidle =>
      obtain rfl := Option.some.inj hs
      exact .aside h ht (.reach hpc hidle) rfl rfl rfl rfl rfl
    · obtain rfl := Option.some.inj hs
      exact .aside h ht (.advanceTaker hpc) rfl rfl rfl rfl rfl
  · next stopped hpc =>
    obtain rfl := Option.some.inj hs
    exact .aside h ht (.pop hpc) rfl rfl rfl rfl rfl

/-- Every step of the port moves tickets only. -/
theorem steps_of_step {a : QueueAct ρ} (h : Queues s) (hs : s.step a = some s') : Steps s s' := by
  cases a with
  | submit id input isLocal active => exact steps_submit h hs
  | enqueue id =>
    obtain ⟨t, ht, hs⟩ := Option.bind_eq_some_iff.mp hs
    exact steps_enqueue h ht hs
  | nextUrgent => exact steps_next h (.inl rfl) hs
  | nextOrdinary => exact steps_next h (.inr rfl) hs
  | complete id result =>
    obtain ⟨t, ht, hs⟩ := Option.bind_eq_some_iff.mp hs
    exact steps_endWork h ht hs
  | dropWork id =>
    obtain ⟨t, ht, hs⟩ := Option.bind_eq_some_iff.mp hs
    exact steps_endWork h ht hs
  | workStep id =>
    obtain ⟨t, ht, hs⟩ := Option.bind_eq_some_iff.mp hs
    exact steps_workStep h ht hs
  | takeCompletion id thread =>
    obtain ⟨t, ht, hs⟩ := Option.bind_eq_some_iff.mp hs
    exact steps_takeCompletion h ht hs
  | takeStep id thread =>
    obtain ⟨t, ht, hs⟩ := Option.bind_eq_some_iff.mp hs
    exact steps_takeStep h ht hs
  | sourceState id active valid =>
    obtain ⟨t, ht, hs⟩ := Option.bind_eq_some_iff.mp hs
    unfold sourceState at hs
    split at hs
    · obtain rfl := Option.some.inj hs
      exact .aside h ht (.sourceState active valid) rfl rfl rfl rfl rfl
    · cases hs
  | dropLease id =>
    obtain ⟨t, ht, hs⟩ := Option.bind_eq_some_iff.mp hs
    unfold dropLease at hs
    split at hs
    · obtain rfl := Option.some.inj hs
      exact .aside h ht .dropLease rfl rfl rfl rfl rfl
    · cases hs
  | markReady =>
    obtain rfl := Option.some.inj hs
    exact ⟨⟨h.nodup, h.queued⟩, fun _ => .same rfl, fun ha => ha⟩
  | retire =>
    obtain rfl := Option.some.inj hs
    exact ⟨⟨h.nodup, h.queued⟩, fun _ => .same rfl, fun ha => (by cases ha)⟩

end RemoteQueue
end UsbRadioPlus.Driver
