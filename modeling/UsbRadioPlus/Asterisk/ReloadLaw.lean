import UsbRadioPlus.Asterisk.Reload

/-!
# A reload is all or nothing

`AllOrNothing` is the law of one transaction: what its calls are, in which order, for each result.
`reload_allOrNothing` proves it for every host, so for every pattern of pending polls, failures and
time-outs.

The proof follows the program: `Staged`, `RolledBack` and `Committed` say which calls the parts
leave, `Gated` how they follow each other.
-/

namespace UsbRadioPlus.Asterisk

open Sys Sys.Traced

/-! ## Kinds of calls -/

namespace Call

/-- A call that stages nothing. -/
def isGate : Call → Bool
  | readConfiguration _ | setControlGate _ | channelCount _ => true
  | _ => false

/-- An operation on a channel or on the links. -/
def isChannelOrLink : Call → Bool
  | channelPrepare .. | linkPrepare _ | channelActivate .. | linkFinish _ | channelFinish ..
  | markJitterPending _ => true
  | _ => false

/-- Links or a channel are finished: with commit or with rollback. -/
def finishes (commit : Bool) : Call → Bool
  | linkFinish c | channelFinish _ c _ => c == commit
  | _ => false

/-- The driver commits, or goes back. -/
def finishesDriver (commit : Bool) : Call → Bool
  | driverFinish c _ => c == commit
  | _ => false

/-- The driver is prepared. -/
def isDriverPrepare : Call → Bool
  | driverPrepare _ => true
  | _ => false

/-- A call that stages something. -/
def isStaging : Call → Bool
  | channelPrepare .. | linkPrepare _ | channelActivate .. => true
  | _ => false

/-- A message in the log. -/
def isLog : Call → Bool
  | logError .. => true
  | _ => false

/-- What the coordinator does with a channel behind the decision. -/
def settles (commit : Bool) : Call → Bool
  | channelFinish _ c _ => c == commit
  | logError .. => true
  | markJitterPending _ => commit
  | _ => false

theorem settles_of_isLog {c : Call} {commit : Bool} (h : c.isLog = true) :
    c.settles commit = true := by
  cases c with
  | logError => rfl
  | _ => cases h

end Call

/-- What has to be OK in front of the commit of the driver. -/
inductive Required (channels : Nat) : Call → Prop where
  | channelPrepare {i : Nat} (h : i < channels) : Required channels (.channelPrepare i urpAstOk)
  | linkPrepare : Required channels (.linkPrepare urpAstOk)
  | channelActivate {i : Nat} (h : i < channels) : Required channels (.channelActivate i urpAstOk)

/-- The law of a transaction over `channels` channels with the calls `t`. -/
structure AllOrNothing (channels : Nat) (result : Except ReloadFailure Unit) (t : List Call) :
    Prop where
  /-- The gate is closed once and reopened once, around every operation. -/
  gate : t = [.readConfiguration false] ∨ ∃ operations,
    t = .readConfiguration true :: .setControlGate true :: .channelCount channels ::
      (operations ++ [.setControlGate false]) ∧ ∀ c ∈ operations, c.isGate = false
  /-- The driver is committed only behind complete preparation. -/
  commit_prepared : ∀ c, Required channels c → Precedes c (fun d => d.finishesDriver true = true) t
  /-- Success: one commit of the driver, and everything is then committed. -/
  committed : result = .ok () → ∃ before after,
    t = before ++ .driverFinish true urpAstOk :: after ∧
    (∀ c ∈ before ++ after, ∀ b, c.finishesDriver b = false) ∧
    .linkFinish true ∈ after ∧ (∀ i < channels, ∃ status, .channelFinish i true status ∈ after) ∧
    ∀ c ∈ t, c.finishes false = false
  /-- A failure behind the preparation of the driver: everything is rolled back, the driver last. -/
  rolled_back : ∀ failure, result = .error failure → .driverPrepare urpAstOk ∈ t →
    (∃ before channelCalls status after,
      t = before ++ .linkFinish false :: (channelCalls ++ .driverFinish false status :: after) ∧
      (∀ i < channels, ∃ status, .channelFinish i false status ∈ channelCalls) ∧
      (∀ c ∈ before ++ channelCalls ++ after, c.finishesDriver false = false) ∧
      ∀ c ∈ after, c.isChannelOrLink = false) ∧
    ∀ c ∈ t, c.finishes true = false
  /-- Nothing is touched if the driver cannot be prepared. -/
  untouched : ∀ status, .driverPrepare status ∈ t → status ≠ urpAstOk →
    ∀ c ∈ t, c.isChannelOrLink = false

/-! ## The calls of the parts -/

/-- The calls of the part that may fail. -/
def Staged (channels : Nat) (r : Except ReloadFailure Unit) (t : List Call) : Prop :=
  ∃ before, (∀ c ∈ before, c.isStaging = true) ∧
    ((t = before ∧ r ≠ .ok ()) ∨ ∃ status, t = before ++ [.driverFinish true status] ∧
      (∀ c, Required channels c → c ∈ before) ∧ (r = .ok () ↔ status = urpAstOk))

/-- The calls of a reload that goes back: the link, each channel, and the driver. -/
def RolledBack (channels : Nat) (t : List Call) : Prop :=
  ∃ channelCalls status after,
    t = .linkFinish false :: (channelCalls ++ .driverFinish false status :: after) ∧
    (∀ c ∈ channelCalls, c.settles false = true) ∧
    (∀ i < channels, ∃ status, .channelFinish i false status ∈ channelCalls) ∧
    ∀ c ∈ after, c.isLog = true

/-- The calls of a reload that is kept. -/
def Committed (channels : Nat) (t : List Call) : Prop :=
  ∃ after, t = .linkFinish true :: after ∧ (∀ c ∈ after, c.settles true = true) ∧
    ∀ i < channels, ∃ status, .channelFinish i true status ∈ after

/-- How the parts follow each other behind the closed gate. -/
inductive Gated (channels : Nat) : Except ReloadFailure Unit → List Call → Prop where
  | unprepared {status : Int} (h : status ≠ urpAstOk) (failure : ReloadFailure) :
      Gated channels (.error failure) [.driverPrepare status]
  | failed {failure : ReloadFailure} {staged rolled : List Call}
      (hs : Staged channels (.error failure) staged) (hr : RolledBack channels rolled) :
      Gated channels (.error failure) (.driverPrepare urpAstOk :: (staged ++ rolled))
  | done {staged committed : List Call} (hs : Staged channels (.ok ()) staged)
      (hc : Committed channels committed) :
      Gated channels (.ok ()) (.driverPrepare urpAstOk :: (staged ++ committed))

variable {σ : Type} {operations : ReloadOperations σ}

/-- A phase polls its own operation only, and it is OK only if the last poll was. -/
theorem completePhaseUntil_calls (oversleep : Operation σ Unit) (event : Int → Call)
    (operation : Operation σ Int) (deadline : Nat) (w : World σ) :
    let phase := completePhaseUntil oversleep event operation deadline w
    (∀ c ∈ phase.2.1, ∃ status, c = event status) ∧ event phase.1 ∈ phase.2.1 ∨
      (∀ c ∈ phase.2.1, ∃ status, c = event status) ∧ phase.2.1 ≠ [] ∧
        phase.1 = urpAstSetupFailed := by
  fun_induction completePhaseUntil oversleep event operation deadline w with
  | case1 w polled status h => exact .inl ⟨by simp, by simp⟩
  | case2 w polled status _ h => exact .inr ⟨by simp, by simp, rfl⟩
  | case3 w polled status _ _ slept rest ih =>
    rcases ih with ⟨hall, hlast⟩ | ⟨hall, hne, hlast⟩
    · exact .inl ⟨by simpa using hall, List.mem_cons_of_mem _ hlast⟩
    · exact .inr ⟨by simpa using hall, by simp, hlast⟩

namespace ReloadOperations

theorem once_leaves {α : Type} {event : α → Call} {operation : Operation σ α} :
    (once event operation).Leaves fun a t => t = [event a] :=
  Leaves.call fun _ => rfl

theorem completePhase_leaves (event : Int → Call) (operation : Operation σ Int) :
    (operations.completePhase event operation).Leaves fun status t =>
      (∀ c ∈ t, ∃ status, c = event status) ∧ (∃ c ∈ t, ∃ status, c = event status) ∧
        (status = urpAstOk → event urpAstOk ∈ t) := by
  intro w
  rcases completePhaseUntil_calls operations.oversleep event operation
    (w.clock + 30000000000) w with ⟨hall, hlast⟩ | ⟨hall, hne, hlast⟩
  · exact ⟨hall, ⟨_, hlast, _, rfl⟩, fun h => h ▸ hlast⟩
  · obtain ⟨c, hc⟩ := List.exists_mem_of_ne_nil _ hne
    refine ⟨hall, ⟨c, hc, hall c hc⟩, fun h => ?_⟩
    have hbad := hlast.symm.trans h
    exact absurd hbad (by decide)

theorem check_eq_ok {phase : String} {status : Int} {channel : Option Nat} :
    check phase status channel = .ok () ↔ status = urpAstOk := by
  unfold check
  split <;> simp_all

theorem checked_leaves {part : Coordinated σ Int} {Q : Int → List Call → Prop} (h : part.Leaves Q)
    (phase : String) (channel : Option Nat) :
    (checked phase channel part).run.Leaves fun r t =>
      ∃ status, Q status t ∧ (r = .ok () ↔ status = urpAstOk) := by
  refine Leaves.bind h fun status t hQ => Leaves.pure ⟨status, ?_, check_eq_ok⟩
  simpa using hQ

/-- The turns of a phase over the channels. -/
theorem channels_leaves (event : Nat → Int → Call) (hevent : ∀ i st, (event i st).isStaging = true)
    (phase : String) (operation : Nat → Operation σ Int) (channels : Nat) :
    ((List.range channels).forM fun index => checked phase (some index)
        (operations.completePhase (event index) (operation index))).run.Leaves fun r t =>
      (∀ c ∈ t, c.isStaging = true) ∧
        (r = .ok () → ∀ i ∈ List.range channels, ∃ c ∈ t, c = event i urpAstOk) := by
  refine Leaves.tryForM (K := fun c => c.isStaging = true)
    (C := fun i c => c = event i urpAstOk) _ fun i _ => ?_
  refine (checked_leaves (completePhase_leaves _ _) phase _).imp ?_
  rintro r t ⟨status, ⟨hall, -, hok⟩, hr⟩
  refine ⟨fun c hc => ?_, fun h => ⟨_, hok (hr.mp h), rfl⟩⟩
  obtain ⟨st, rfl⟩ := hall c hc
  exact hevent i st

theorem stage_leaves (channels : Nat) :
    (operations.stage channels).run.Leaves (Staged channels) := by
  have hprepare := @channels_leaves _ operations .channelPrepare (fun _ _ => rfl)
    "channel prepare" operations.channelPrepare channels
  have hactivate := @channels_leaves _ operations .channelActivate (fun _ _ => rfl)
    "channel activate" operations.channelActivate channels
  refine Leaves.tryBind hprepare (fun _ t ⟨ht, hprepared⟩ => ?_)
    fun _ t ⟨ht, _⟩ => ⟨t, ht, .inl ⟨rfl, by simp⟩⟩
  refine Leaves.tryBind (checked_leaves once_leaves _ _) ?_ ?_
  · rintro ⟨⟩ _ ⟨status, rfl, hlinked⟩
    obtain rfl := hlinked.mp rfl
    refine Leaves.tryBind hactivate (fun _ u ⟨hu, hactivated⟩ => ?_)
      fun _ u ⟨hu, _⟩ => ⟨_, ?_, .inl ⟨rfl, by simp⟩⟩
    · refine (checked_leaves once_leaves _ _).imp ?_
      rintro r _ ⟨status, rfl, hr⟩
      refine ⟨t ++ .linkPrepare urpAstOk :: u, ?_, .inr ⟨status, by simp, ?_, hr⟩⟩
      · simpa [or_imp, forall_and] using ⟨ht, rfl, hu⟩
      · rintro _ (hi | _ | hi)
        · obtain ⟨c, hc, rfl⟩ := hprepared rfl _ (List.mem_range.mpr hi)
          simp [hc]
        · simp
        · obtain ⟨c, hc, rfl⟩ := hactivated rfl _ (List.mem_range.mpr hi)
          simp [hc]
    · simpa [or_imp, forall_and] using ⟨ht, rfl, hu⟩
  · rintro failure _ ⟨status, rfl, -⟩
    exact ⟨_, by simpa [or_imp, forall_and] using ⟨ht, rfl⟩, .inl ⟨rfl, by simp⟩⟩

theorem logUnlessOk_leaves (phase : String) (status : Int) (channel : Option Nat) :
    (operations.logUnlessOk phase status channel).Leaves fun _ t => ∀ c ∈ t, c.isLog = true := by
  unfold logUnlessOk
  split
  · exact once_leaves.imp fun _ t ht => by simp [ht, Call.isLog]
  · exact Leaves.pure (by simp)

theorem finishChannels_leaves (phase : String) (commit : Bool) (channels : Nat) :
    (operations.finishChannels phase commit channels).Leaves fun _ t =>
      (∀ c ∈ t, c.settles commit = true) ∧
        ∀ i ∈ List.range channels, ∃ c ∈ t, ∃ status, c = .channelFinish i commit status := by
  refine Leaves.forM (K := fun c : Call => c.settles commit = true)
    (C := fun i c => ∃ status, c = Call.channelFinish i commit status) _ fun i _ => ?_
  refine Leaves.bind (completePhase_leaves _ _) fun status t ⟨hall, ⟨c, hc, hfinish⟩, _⟩ => ?_
  refine (logUnlessOk_leaves _ _ _).imp fun _ u hu => ⟨?_, c, by simp [hc], hfinish⟩
  refine List.forall_mem_append.mpr ⟨fun d hd => ?_, fun d hd => ?_⟩
  · obtain ⟨st, rfl⟩ := hall d hd
    simp [Call.settles]
  · exact Call.settles_of_isLog (hu d hd)

theorem rollback_leaves (channels : Nat) :
    (operations.rollback channels).Leaves fun _ t => RolledBack channels t := by
  refine Leaves.bind once_leaves ?_
  rintro ⟨⟩ _ rfl
  refine Leaves.bind (finishChannels_leaves _ _ _) fun _ t ⟨ht, hfinished⟩ => ?_
  refine Leaves.bind once_leaves ?_
  rintro status _ rfl
  refine (logUnlessOk_leaves _ _ _).imp fun _ u hu => ?_
  refine ⟨t, status, u, by simp, ht, fun i hi => ?_, hu⟩
  obtain ⟨c, hc, st, rfl⟩ := hfinished i (List.mem_range.mpr hi)
  exact ⟨st, hc⟩

theorem commit_leaves (channels : Nat) :
    (operations.commit channels).Leaves fun _ t => Committed channels t := by
  refine Leaves.bind once_leaves ?_
  rintro ⟨⟩ _ rfl
  refine Leaves.bind (finishChannels_leaves _ _ _) fun _ t ⟨ht, hfinished⟩ => ?_
  refine (Leaves.forM (K := fun c : Call => c.settles true = true)
    (C := fun i c => c = Call.markJitterPending i) _ fun i _ => ?_).imp fun _ u ⟨hu, _⟩ => ?_
  · exact once_leaves.imp fun _ v hv => by simp [hv, Call.settles]
  · refine ⟨t ++ u, by simp, List.forall_mem_append.mpr ⟨ht, hu⟩, fun i hi => ?_⟩
    obtain ⟨c, hc, st, rfl⟩ := hfinished i (List.mem_range.mpr hi)
    exact ⟨st, by simp [hc]⟩

theorem reloadGated_leaves (configuration : ReloadConfiguration) (channels : Nat) :
    (operations.reloadGated configuration channels).Leaves (Gated channels) := by
  refine Leaves.bind once_leaves ?_
  rintro status _ rfl
  by_cases hstatus : status = urpAstOk
  · subst hstatus
    simp only [ne_eq, not_true_eq_false, if_false]
    refine Leaves.bind (stage_leaves channels) fun r t ht => ?_
    cases r with
    | error failure =>
      refine Leaves.bind (rollback_leaves channels) fun _ u hu => Leaves.pure ?_
      simpa using Gated.failed ht hu
    | ok _ =>
      refine Leaves.bind (commit_leaves channels) fun _ u hu => Leaves.pure ?_
      simpa using Gated.done ht hu
  · rw [if_pos hstatus]
    exact Leaves.pure (.unprepared hstatus _)

/-- The calls of a transaction, the gate included. -/
theorem reload_leaves :
    operations.reload.Leaves fun result t =>
      (t = [.readConfiguration false] ∧ result ≠ .ok ()) ∨ ∃ channels gated,
        t = .readConfiguration true :: .setControlGate true :: .channelCount channels ::
          (gated ++ [.setControlGate false]) ∧ Gated channels result gated := by
  refine Leaves.bind once_leaves ?_
  rintro read _ rfl
  cases read with
  | error status => exact Leaves.pure (.inl ⟨by simp [Except.isOk, Except.toBool], by simp⟩)
  | ok configuration =>
    refine Leaves.bind once_leaves ?_
    rintro ⟨⟩ _ rfl
    refine Leaves.bind once_leaves ?_
    rintro channels _ rfl
    refine Leaves.bind (reloadGated_leaves _ _) fun result gated hgated => ?_
    refine Leaves.bind once_leaves ?_
    rintro ⟨⟩ _ rfl
    exact Leaves.pure (.inr ⟨channels, gated, by simp [Except.isOk, Except.toBool], hgated⟩)

end ReloadOperations

/-! ## The law -/

section Kinds

variable {c : Call} {commit : Bool}

theorem isStaging_kinds (h : c.isStaging = true) :
    c.isGate = false ∧ (∀ b, c.finishesDriver b = false) ∧ (∀ b, c.finishes b = false) ∧
      c.isDriverPrepare = false := by
  cases c <;> simp_all [Call.isStaging, Call.isGate, Call.finishesDriver, Call.finishes,
    Call.isDriverPrepare]

theorem settles_kinds (h : c.settles commit = true) :
    c.isGate = false ∧ (∀ b, c.finishesDriver b = false) ∧ c.finishes (!commit) = false ∧
      c.isDriverPrepare = false := by
  cases c <;> simp_all [Call.settles, Call.isGate, Call.finishesDriver, Call.finishes,
    Call.isDriverPrepare]

theorem isLog_kinds (h : c.isLog = true) :
    c.isChannelOrLink = false ∧ c.settles commit = true := by
  cases c <;> simp_all [Call.isLog, Call.isChannelOrLink, Call.settles]

end Kinds

variable {channels : Nat} {result : Except ReloadFailure Unit} {t : List Call}

/-- A part that fails may have tried to commit the driver; one that succeeds ends with it. -/
theorem Staged.of_error {failure : ReloadFailure} (h : Staged channels (.error failure) t) :
    ∃ before after, t = before ++ after ∧ (∀ c ∈ before, c.isStaging = true) ∧
      (after = [] ∨ (∀ c, Required channels c → c ∈ before) ∧
        ∃ status, after = [.driverFinish true status]) := by
  obtain ⟨before, hbefore, ⟨rfl, -⟩ | ⟨status, rfl, hreq, -⟩⟩ := h
  · exact ⟨t, [], by simp, hbefore, .inl rfl⟩
  · exact ⟨before, _, rfl, hbefore, .inr ⟨hreq, status, rfl⟩⟩

theorem Staged.of_ok (h : Staged channels (.ok ()) t) :
    ∃ before, t = before ++ [.driverFinish true urpAstOk] ∧ (∀ c ∈ before, c.isStaging = true) ∧
      ∀ c, Required channels c → c ∈ before := by
  obtain ⟨before, hbefore, ⟨rfl, hr⟩ | ⟨status, rfl, hreq, hr⟩⟩ := h
  · exact absurd rfl hr
  · obtain rfl := hr.mp rfl
    exact ⟨before, rfl, hbefore, hreq⟩

/-- The calls around a transaction. -/
def gatedBy (channels : Nat) (gated : List Call) : List Call :=
  .readConfiguration true :: .setControlGate true :: .channelCount channels ::
    (gated ++ [.setControlGate false])

theorem mem_gatedBy {gated : List Call} {c : Call} (h : c ∈ gatedBy channels gated) :
    c ∈ gated ∨ c.isGate = true := by
  simp only [gatedBy, List.mem_cons, List.mem_append, List.not_mem_nil, or_false] at h
  rcases h with rfl | rfl | rfl | h | rfl
  · exact .inr rfl
  · exact .inr rfl
  · exact .inr rfl
  · exact .inl h
  · exact .inr rfl

theorem isGate_kinds {c : Call} (h : c.isGate = true) :
    c.isChannelOrLink = false ∧ (∀ b, c.finishesDriver b = false) ∧ (∀ b, c.finishes b = false) ∧
      c.isDriverPrepare = false := by
  cases c <;> simp_all [Call.isGate, Call.isChannelOrLink, Call.finishesDriver, Call.finishes,
    Call.isDriverPrepare]

/-- What holds of every call behind the gate and of the calls of the gate holds of all calls. -/
theorem forall_mem_gatedBy {gated : List Call} {P : Call → Prop} (hgated : ∀ c ∈ gated, P c)
    (hgate : ∀ c, c.isGate = true → P c) : ∀ c ∈ gatedBy channels gated, P c := by
  intro c hc
  rcases mem_gatedBy hc with hc | hc
  · exact hgated c hc
  · exact hgate c hc

theorem precedes_gatedBy {c : Call} {gated : List Call}
    (h : Precedes c (fun d => d.finishesDriver true = true) gated) :
    Precedes c (fun d => d.finishesDriver true = true) (gatedBy channels gated) := by
  rw [show gatedBy channels gated = [.readConfiguration true, .setControlGate true,
    .channelCount channels] ++ (gated ++ [.setControlGate false]) from rfl]
  refine (h.append ?_).append_right ?_
  · simp [Call.finishesDriver]
  · simp [Call.finishesDriver]

/-- The driver is prepared once. -/
theorem eq_urpAstOk_of_mem {rest : List Call} {status : Int}
    (hrest : ∀ c ∈ rest, c.isDriverPrepare = false)
    (h : .driverPrepare status ∈ gatedBy channels (.driverPrepare urpAstOk :: rest)) :
    status = urpAstOk := by
  rcases mem_gatedBy h with h | h
  · rcases List.mem_cons.mp h with h | h
    · exact (Call.driverPrepare.inj h)
    · exact absurd (hrest _ h) (by simp [Call.isDriverPrepare])
  · cases h

theorem allOrNothing_unprepared {status : Int} (h : status ≠ urpAstOk) (failure : ReloadFailure) :
    AllOrNothing channels (.error failure) (gatedBy channels [.driverPrepare status]) where
  gate := .inr ⟨_, rfl, by simp [Call.isGate]⟩
  commit_prepared := fun c _ => precedes_gatedBy (.of_forall (by simp [Call.finishesDriver]))
  committed := fun hok => (by cases hok)
  rolled_back := fun f hf hmem => absurd (by simpa [gatedBy] using hmem) h.symm
  untouched := fun _ _ _ =>
    forall_mem_gatedBy (by simp [Call.isChannelOrLink]) fun c hc => (isGate_kinds hc).1

theorem allOrNothing_failed {failure : ReloadFailure} {staged rolled : List Call}
    (hs : Staged channels (.error failure) staged) (hr : RolledBack channels rolled) :
    AllOrNothing channels (.error failure)
      (gatedBy channels (.driverPrepare urpAstOk :: (staged ++ rolled))) := by
  obtain ⟨before, tried, rfl, hbefore, htried⟩ := hs.of_error
  obtain ⟨channelCalls, status, logs, rfl, hcalls, hfinished, hlogs⟩ := hr
  have htried' : ∀ c ∈ tried, c.isGate = false ∧ c.finishesDriver false = false ∧
      (∀ b, c.finishes b = false) ∧ c.isDriverPrepare = false := by
    rcases htried with rfl | ⟨-, status, rfl⟩
    · simp
    · simp [Call.isGate, Call.finishesDriver, Call.finishes, Call.isDriverPrepare]
  have hlogs' : ∀ c ∈ logs, c.isChannelOrLink = false ∧ c.settles false = true :=
    fun c hc => isLog_kinds (hlogs c hc)
  refine ⟨.inr ⟨_, rfl, ?_⟩, fun c hc => precedes_gatedBy ?_, fun hok => (by cases hok),
    fun _ _ _ => ⟨?_, ?_⟩, ?_⟩
  · simp only [List.forall_mem_cons, List.forall_mem_append]
    exact ⟨rfl, ⟨fun c hc => (isStaging_kinds (hbefore c hc)).1, fun c hc => (htried' c hc).1⟩,
      rfl, fun c hc => (settles_kinds (hcalls c hc)).1, rfl,
      fun c hc => (settles_kinds (hlogs' c hc).2).1⟩
  · -- only the part that failed can have tried to commit
    have hfront : ∀ d ∈ .driverPrepare urpAstOk :: before, ¬ d.finishesDriver true = true := by
      simp only [List.forall_mem_cons]
      exact ⟨by simp [Call.finishesDriver],
        fun d hd => by simp [(isStaging_kinds (hbefore d hd)).2.1 true]⟩
    have hback : ∀ d ∈ .linkFinish false :: (channelCalls ++ .driverFinish false status :: logs),
        ¬ d.finishesDriver true = true := by
      simp only [List.forall_mem_cons, List.forall_mem_append]
      exact ⟨by simp [Call.finishesDriver],
        fun d hd => by simp [(settles_kinds (hcalls d hd)).2.1 true],
        by simp [Call.finishesDriver], fun d hd => by simp [(settles_kinds (hlogs' d hd).2).2.1 true]⟩
    rw [show Call.driverPrepare urpAstOk :: (before ++ tried ++
        (.linkFinish false :: (channelCalls ++ .driverFinish false status :: logs))) =
      .driverPrepare urpAstOk :: before ++ tried ++
        (.linkFinish false :: (channelCalls ++ .driverFinish false status :: logs)) by simp]
    refine Precedes.append ?_ hback
    rcases htried with rfl | ⟨hreq, -⟩
    · exact .of_forall (by simpa using hfront)
    · exact .append_of_mem hfront (List.mem_cons_of_mem _ (hreq c hc))
  · refine ⟨.readConfiguration true :: .setControlGate true :: .channelCount channels ::
      .driverPrepare urpAstOk :: (before ++ tried), channelCalls, status,
      logs ++ [.setControlGate false], by simp [gatedBy], hfinished, ?_, ?_⟩
    · simp only [List.forall_mem_cons, List.forall_mem_append]
      exact ⟨⟨⟨rfl, rfl, rfl, rfl, fun c hc => (isStaging_kinds (hbefore c hc)).2.1 false,
        fun c hc => (htried' c hc).2.1⟩, fun c hc => (settles_kinds (hcalls c hc)).2.1 false⟩,
        fun c hc => (settles_kinds (hlogs' c hc).2).2.1 false, rfl, by simp⟩
    · simp only [List.forall_mem_append, List.forall_mem_cons]
      exact ⟨fun c hc => (hlogs' c hc).1, rfl, by simp⟩
  · refine forall_mem_gatedBy ?_ fun c hc => (isGate_kinds hc).2.2.1 true
    simp only [List.forall_mem_cons, List.forall_mem_append]
    exact ⟨rfl, ⟨fun c hc => (isStaging_kinds (hbefore c hc)).2.2.1 true,
      fun c hc => (htried' c hc).2.2.1 true⟩, rfl,
      fun c hc => (settles_kinds (hcalls c hc)).2.2.1, rfl,
      fun c hc => (settles_kinds (hlogs' c hc).2).2.2.1⟩
  · refine fun st hmem hst => absurd (eq_urpAstOk_of_mem ?_ hmem) hst
    simp only [List.forall_mem_append, List.forall_mem_cons]
    exact ⟨⟨fun c hc => (isStaging_kinds (hbefore c hc)).2.2.2, fun c hc => (htried' c hc).2.2.2⟩,
      rfl, fun c hc => (settles_kinds (hcalls c hc)).2.2.2, rfl,
      fun c hc => (settles_kinds (hlogs' c hc).2).2.2.2⟩

theorem allOrNothing_done {staged committed : List Call} (hs : Staged channels (.ok ()) staged)
    (hc : Committed channels committed) :
    AllOrNothing channels (.ok ())
      (gatedBy channels (.driverPrepare urpAstOk :: (staged ++ committed))) := by
  obtain ⟨before, rfl, hbefore, hreq⟩ := hs.of_ok
  obtain ⟨after, rfl, hafter, hfinished⟩ := hc
  refine ⟨.inr ⟨_, rfl, ?_⟩, fun c hc => precedes_gatedBy ?_, fun _ => ?_,
    fun _ hf => (by cases hf), ?_⟩
  · simp only [List.forall_mem_cons, List.forall_mem_append]
    exact ⟨rfl, ⟨fun c hc => (isStaging_kinds (hbefore c hc)).1, rfl, by simp⟩, rfl,
      fun c hc => (settles_kinds (hafter c hc)).1⟩
  · rw [show Call.driverPrepare urpAstOk ::
        (before ++ [.driverFinish true urpAstOk] ++ .linkFinish true :: after) =
      .driverPrepare urpAstOk :: before ++
        (.driverFinish true urpAstOk :: .linkFinish true :: after) by simp]
    refine .append_of_mem ?_ (List.mem_cons_of_mem _ (hreq c hc))
    simp only [List.forall_mem_cons]
    exact ⟨by simp [Call.finishesDriver],
      fun d hd => by simp [(isStaging_kinds (hbefore d hd)).2.1 true]⟩
  · refine ⟨.readConfiguration true :: .setControlGate true :: .channelCount channels ::
      .driverPrepare urpAstOk :: before, .linkFinish true :: (after ++ [.setControlGate false]),
      by simp [gatedBy], ?_, by simp, fun i hi => ?_, ?_⟩
    · simp only [List.forall_mem_append, List.forall_mem_cons]
      exact ⟨⟨fun _ => rfl, fun _ => rfl, fun _ => rfl, fun _ => rfl,
        fun c hc => (isStaging_kinds (hbefore c hc)).2.1⟩, fun _ => rfl,
        fun c hc => (settles_kinds (hafter c hc)).2.1, fun _ => rfl, by simp⟩
    · obtain ⟨status, hmem⟩ := hfinished i hi
      exact ⟨status, by simp [hmem]⟩
    · refine forall_mem_gatedBy ?_ fun c hc => (isGate_kinds hc).2.2.1 false
      simp only [List.forall_mem_cons, List.forall_mem_append]
      exact ⟨rfl, ⟨fun c hc => (isStaging_kinds (hbefore c hc)).2.2.1 false, rfl, by simp⟩, rfl,
        fun c hc => (settles_kinds (hafter c hc)).2.2.1⟩
  · refine fun st hmem hst => absurd (eq_urpAstOk_of_mem ?_ hmem) hst
    simp only [List.forall_mem_append, List.forall_mem_cons]
    exact ⟨⟨fun c hc => (isStaging_kinds (hbefore c hc)).2.2.2, rfl, by simp⟩, rfl,
      fun c hc => (settles_kinds (hafter c hc)).2.2.2⟩

/-- **A reload is all or nothing**, whatever the host answers and however long it takes. -/
theorem reload_allOrNothing (operations : ReloadOperations σ) (w : World σ) :
    ∃ channels, AllOrNothing channels (operations.reload w).1 (operations.reload w).2.1 := by
  rcases operations.reload_leaves w with ⟨ht, hr⟩ | ⟨channels, gated, ht, hgated⟩
  · rw [ht]
    exact ⟨0, .inl rfl, fun c hc => .of_forall (by simp [Call.finishesDriver]),
      fun h => absurd h hr, fun _ _ hmem => absurd hmem (by simp), fun _ hmem => absurd hmem (by simp)⟩
  · rw [ht]
    refine ⟨channels, ?_⟩
    generalize (operations.reload w).1 = result at hgated
    cases hgated with
    | unprepared h failure => exact allOrNothing_unprepared h failure
    | failed hs hr => exact allOrNothing_failed hs hr
    | done hs hc => exact allOrNothing_done hs hc

end UsbRadioPlus.Asterisk
