import UsbRadioPlus.Station.RemoteDsp
import UsbRadioPlus.Station.UpdateCalls

/-!
# The exchange that the pump works on

`Coherent` is what every step of the two owners keeps (`Coherent.step`): what an exchange holds is
prepared from the plan that the pump found (`Exchange.Sound`), and the phase of the pump says
whether its transaction is open (`PumpOk`). Two steps break it, and `InTime` excludes them: a worker
giving up on an exchange that is committed, and the pump committing an exchange that was given up.
-/

namespace UsbRadioPlus
namespace Station

open Sys StationRuntime

variable {P : StationParts}

/-! ## What an exchange holds -/

/-- A failure that promises the plan from before the exchange. -/
def RemoteDspError.reported : RemoteDspError P → Bool
  | .cancelled => true
  | .timeout => true
  | .update _ => true
  | _ => false

namespace Exchange

/-- The update leads from the plan that the pump found to the plan that is asked for. -/
def Wants (e : Exchange P) (u : StationUpdate P) : Prop :=
  e.before = some u.previous ∧ e.requested u.previous = .ok u.plan

/-- The pump has not taken the exchange. -/
structure Untaken (e : Exchange P) : Prop where
  before : e.before = none
  committed : e.committed = false
  outcome : e.outcome = none
  completed : e.completed = false

/-- The result is what has happened. -/
def Truthful (e : Exchange P) : Except (RemoteDspError P) Unit → Prop
  | .ok () => e.committed = true
  | .error f => f.reported = true → e.committed = false

/-- What holds of every exchange. -/
structure Sound (e : Exchange P) : Prop where
  preparation : ∀ p, e.preparation = some p → e.before = some p.previous
  candidate : ∀ u, e.pc = .ready (.ok u) → e.Wants u
  ready : ∀ u, e.ready = some (.ok u) → e.Wants u
  committed : e.committed = true → ∃ before plan, e.before = some before ∧
    e.requested before = .ok plan ∧ e.outcome = some plan
  kept : e.committed = false → ∀ plan, e.outcome = some plan → e.before = some plan
  truthful : ∀ r, e.result = some r ∨ e.pc = .returned r → e.Truthful r
  /-- A failure comes from the pump, which has completed, or from the worker, which has given up. -/
  failed : ∀ f, e.result = some (.error f) ∨ e.pc = .returned (.error f) → f.reported = true →
    e.completed = true ∨ e.cancelled = true

/-- A step of the worker changes nothing else. -/
structure SameHistory (e e' : Exchange P) : Prop where
  target : e'.target = e.target
  externalDecode : e'.externalDecode = e.externalDecode
  carrier : e'.carrier = e.carrier
  before : e'.before = e.before
  committed : e'.committed = e.committed
  outcome : e'.outcome = e.outcome
  completed : e'.completed = e.completed

theorem Wants.of_sameHistory {e e' : Exchange P} (hsame : SameHistory e e') {u : StationUpdate P}
    (h : e.Wants u) : e'.Wants u := by
  unfold Wants requested at h ⊢
  rw [hsame.before, hsame.carrier, hsame.target, hsame.externalDecode]
  exact h

theorem Untaken.of_sameHistory {e e' : Exchange P} (hsame : SameHistory e e') (h : e.Untaken) :
    e'.Untaken :=
  ⟨hsame.before.trans h.before, hsame.committed.trans h.committed, hsame.outcome.trans h.outcome,
    hsame.completed.trans h.completed⟩

theorem sound_new (target : P.RemoteOperatingState) (externalDecode : SubaudibleSource)
    (carrier : CarrierSource) : Sound (new target externalDecode carrier : Exchange P) := by
  constructor <;> simp [new]

theorem untaken_new (target : P.RemoteOperatingState) (externalDecode : SubaudibleSource)
    (carrier : CarrierSource) : Untaken (new target externalDecode carrier : Exchange P) :=
  ⟨rfl, rfl, rfl, rfl⟩

/-- The candidate of the worker is what is asked for: a remote tune is not overwritten. -/
theorem wants_candidate {e : Exchange P} {p : StationUpdatePreparation P} {answers : Prepared P}
    {u : StationUpdate P} (hb : e.before = some p.previous)
    (h : e.candidate p answers = .ok u) : e.Wants u := by
  unfold candidate at h
  split at h
  · cases h
  · rename_i plan hplan
    have hop := StationPlan.remoteOperating_withRemoteSignaling hplan
    unfold StationUpdatePreparation.prepare at h
    rw [StationPlan.retainRemoteOperating_of_some hop] at h
    simp only at h
    split at h
    · cases h
    · split at h
      · cases h
      · cases h
      · split at h
        · cases h
        · cases h
        · obtain rfl := Except.ok.inj h
          exact ⟨hb, hplan⟩

/-- A step of the worker that neither gives up nor takes a preparation. -/
theorem Sound.of_sameHistory {e e' : Exchange P} (h : Sound e) (hsame : SameHistory e e')
    (hp : ∀ p, e'.preparation = some p → e.preparation = some p)
    (hc : ∀ u, e'.pc = .ready (.ok u) → e.Wants u)
    (hr : ∀ u, e'.ready = some (.ok u) → e.Wants u)
    (ht : ∀ r, e'.result = some r ∨ e'.pc = .returned r → e.Truthful r)
    (hf : ∀ f, e'.result = some (.error f) ∨ e'.pc = .returned (.error f) → f.reported = true →
      e.completed = true ∨ e'.cancelled = true) : Sound e' where
  preparation p hmem := hsame.before.trans (h.preparation p (hp p hmem))
  candidate u hu := (hc u hu).of_sameHistory hsame
  ready u hu := (hr u hu).of_sameHistory hsame
  committed hcom := by
    obtain ⟨before, plan, h1, h2, h3⟩ := h.committed (hsame.committed.symm.trans hcom)
    refine ⟨before, plan, hsame.before.trans h1, ?_, hsame.outcome.trans h3⟩
    unfold requested at h2 ⊢
    rw [hsame.carrier, hsame.target, hsame.externalDecode]
    exact h2
  kept hcom plan hout :=
    hsame.before.trans (h.kept (hsame.committed.symm.trans hcom) plan (hsame.outcome.symm.trans hout))
  truthful r hr' := by
    have := ht r hr'
    unfold Truthful at this ⊢
    rw [hsame.committed]
    exact this
  failed f hf' hrep := (hf f hf' hrep).imp_left hsame.completed.trans

end Exchange

/-! ## The exchange of the pump -/

/-- The pump is at work and has not committed. -/
structure UnderWay (station : StationRuntime P) (a : Active) (e : Exchange P) : Prop where
  before : e.before = some station.plan
  committed : e.committed = false
  outcome : e.outcome = none
  completed : e.completed = true → a.reversing = true
  reversing : a.reversing = true → a.started = true
  prepared : a.started = true → a.prepared = true

/-- The transaction of the exchange is open. -/
def Open (station : StationRuntime P) (a : Active) (e : Exchange P) : Prop :=
  ∃ t, station.updates.storage.transaction = some t ∧ e.Wants t.candidate ∧
    (t.reversing = true → a.reversing = true)

/-- The transaction of the exchange has ended, or it never began. -/
structure Over (station : StationRuntime P) (e : Exchange P) : Prop where
  pc : station.pc = .idle
  transaction : station.updates.storage.transaction = none
  committed : e.committed = true → e.outcome = some station.plan
  kept : e.committed = false → e.before = some station.plan

/-- Where the pump is with its exchange. -/
def PumpOk (station : StationRuntime P) (a : Active) (e : Exchange P) : PumpPc P → Prop
  | .idle | .check | .advance => UnderWay station a e ∧ station.pc = .idle ∧
    (a.started = false → station.updates.storage.transaction = none) ∧
    (a.started = true → Open station a e)
  | .begin => UnderWay station a e ∧ a.started = false ∧ a.prepared = true ∧
    ∃ t, Beginning station t ∧ e.Wants t.candidate
  | .finish => UnderWay station a e ∧ a.started = true ∧
    ∃ t, Finishing (!a.reversing) station t ∧ e.Wants t.candidate ∧
      (t.reversing = true → a.reversing = true)
  | .complete result true => Over station e ∧ e.Truthful result
  | .answer result true => Over station e ∧ e.Truthful result ∧ e.completed = true
  | .complete result false => UnderWay station a e ∧ station.pc = .idle ∧ a.reversing = true ∧
    Open station a e ∧ e.Truthful result
  | .answer result false => UnderWay station a e ∧ station.pc = .idle ∧ a.reversing = true ∧
    Open station a e ∧ e.Truthful result ∧ e.completed = true

theorem UnderWay.of_plan {station station' : StationRuntime P} {a : Active} {e : Exchange P}
    (h : UnderWay station a e) (hplan : station'.plan = station.plan) : UnderWay station' a e :=
  ⟨h.before.trans (congrArg some hplan.symm), h.committed, h.outcome, h.completed, h.reversing,
    h.prepared⟩

theorem UnderWay.of_same {station station' : StationRuntime P} {a : Active} {e e' : Exchange P}
    (hstation : SameControl station station') (hsame : e.SameHistory e')
    (h : UnderWay station a e) : UnderWay station' a e' :=
  ⟨by rw [hsame.before, hstation.plan]; exact h.before, hsame.committed.trans h.committed,
    hsame.outcome.trans h.outcome, by rw [hsame.completed]; exact h.completed, h.reversing, h.prepared⟩

theorem Open.of_same {station station' : StationRuntime P} {a : Active} {e e' : Exchange P}
    (hstation : SameControl station station') (hsame : e.SameHistory e')
    (h : Open station a e) : Open station' a e' := by
  obtain ⟨t, h1, h2, h3⟩ := h
  exact ⟨t, by rw [hstation.storage]; exact h1, h2.of_sameHistory hsame, h3⟩

theorem Over.of_same {station station' : StationRuntime P} {e e' : Exchange P}
    (hstation : SameControl station station') (hsame : e.SameHistory e')
    (h : Over station e) : Over station' e' :=
  ⟨hstation.pc.trans h.pc, by rw [hstation.storage]; exact h.transaction,
    by rw [hsame.committed, hsame.outcome, hstation.plan]; exact h.committed,
    by rw [hsame.committed, hsame.before, hstation.plan]; exact h.kept⟩

theorem Exchange.Truthful.of_same {e e' : Exchange P} (hsame : e.SameHistory e')
    {result : Except (RemoteDspError P) Unit} (h : e.Truthful result) : e'.Truthful result := by
  unfold Exchange.Truthful at h ⊢
  rw [hsame.committed]
  exact h

/-- Neither a callback nor a worker disturbs the pump. -/
theorem PumpOk.of_same {station station' : StationRuntime P} {a : Active} {e e' : Exchange P}
    {pump : PumpPc P} (hstation : SameControl station station') (hsame : e.SameHistory e')
    (h : PumpOk station a e pump) : PumpOk station' a e' pump := by
  cases pump with
  | idle | check | advance =>
    obtain ⟨h1, h2, h3, h4⟩ := h
    exact ⟨h1.of_same hstation hsame, hstation.pc.trans h2,
      fun hs => by rw [hstation.storage]; exact h3 hs, fun hs => (h4 hs).of_same hstation hsame⟩
  | begin =>
    obtain ⟨h1, h2, h3, t, h4, h5⟩ := h
    exact ⟨h1.of_same hstation hsame, h2, h3, t, h4.of_sameControl hstation,
      h5.of_sameHistory hsame⟩
  | finish =>
    obtain ⟨h1, h2, t, h3, h4, h5⟩ := h
    exact ⟨h1.of_same hstation hsame, h2, t, h3.of_sameControl hstation, h4.of_sameHistory hsame,
      h5⟩
  | complete result last =>
    cases last with
    | true => exact ⟨h.1.of_same hstation hsame, h.2.of_same hsame⟩
    | false =>
      obtain ⟨h1, h2, h3, h4, h5⟩ := h
      exact ⟨h1.of_same hstation hsame, hstation.pc.trans h2, h3, h4.of_same hstation hsame,
        h5.of_same hsame⟩
  | answer result last =>
    cases last with
    | true =>
      exact ⟨h.1.of_same hstation hsame, h.2.1.of_same hsame, hsame.completed.trans h.2.2⟩
    | false =>
      obtain ⟨h1, h2, h3, h4, h5, h6⟩ := h
      exact ⟨h1.of_same hstation hsame, hstation.pc.trans h2, h3, h4.of_same hstation hsame,
        h5.of_same hsame, hsame.completed.trans h6⟩

theorem UnderWay.over {station : StationRuntime P} {a : Active} {e : Exchange P}
    (h : UnderWay station a e) (hpc : station.pc = .idle)
    (htx : station.updates.storage.transaction = none) : Over station e :=
  ⟨hpc, htx, fun hc => absurd (hc.symm.trans h.committed) (by simp), fun _ => h.before⟩

/-- The pump has taken its exchange. -/
theorem UnderWay.not_untaken {station : StationRuntime P} {a : Active} {e : Exchange P}
    (h : UnderWay station a e) : ¬ e.Untaken := fun hu => by
  have := hu.before.symm.trans h.before
  cases this

theorem Over.not_untaken {station : StationRuntime P} {e : Exchange P} (h : Over station e) :
    ¬ e.Untaken := fun hu => by
  have := hu.before.symm.trans (h.kept hu.committed)
  cases this

namespace RemoteDsp

/-! ## The table of exchanges -/

/-- What holds of the table of exchanges. -/
structure Table (exchanges : Nat → Option (Exchange P)) (next : Nat) (pending : Option Nat) :
    Prop where
  sound : ∀ i e, exchanges i = some e → e.Sound
  fresh : ∀ i, next ≤ i → exchanges i = none
  waiting : ∀ i, pending = some i → ∃ e, exchanges i = some e ∧ e.Untaken ∧ e.pc ≠ .submit
  submit : ∀ i e, exchanges i = some e → e.pc = .submit → e.Untaken

theorem Table.set {exchanges : Nat → Option (Exchange P)} {next : Nat} {pending : Option Nat}
    (h : Table exchanges next pending) {i : Nat} {e e' : Exchange P} (hi : exchanges i = some e)
    (hs : e'.Sound) (hu : pending = some i ∨ e.pc = .submit → e.Untaken → e'.Untaken)
    (hpc : e'.pc = .submit → e.pc = .submit) :
    Table (Function.update exchanges i (some e')) next pending where
  sound j e₁ hj := by
    by_cases hij : j = i
    · subst hij
      rw [Function.update_self] at hj
      exact Option.some.inj hj ▸ hs
    · rw [Function.update_of_ne hij] at hj
      exact h.sound j e₁ hj
  fresh j hj := by
    have hne : j ≠ i := by
      rintro rfl
      rw [h.fresh j hj] at hi
      cases hi
    rw [Function.update_of_ne hne]
    exact h.fresh j hj
  waiting j hj := by
    obtain ⟨e₁, h1, h2, h3⟩ := h.waiting j hj
    by_cases hij : j = i
    · subst hij
      obtain rfl := Option.some.inj (hi.symm.trans h1)
      exact ⟨e', Function.update_self _ _ _, hu (.inl hj) h2, fun hc => h3 (hpc hc)⟩
    · exact ⟨e₁, (Function.update_of_ne hij _ _).trans h1, h2, h3⟩
  submit j e₁ hj hsub := by
    by_cases hij : j = i
    · subst hij
      rw [Function.update_self] at hj
      obtain rfl := Option.some.inj hj
      exact hu (.inr (hpc hsub)) (h.submit j e hi (hpc hsub))
    · rw [Function.update_of_ne hij] at hj
      exact h.submit j e₁ hj hsub

/-! ## The invariant -/

/-- What every step keeps. -/
structure Coherent (s : RemoteDsp P) : Prop where
  table : Table s.exchanges s.next s.pending
  idle : s.active = none → s.pump = .idle ∧ s.station.pc = .idle ∧
    s.station.updates.storage.transaction = none ∧
    ∀ i, s.last = some i → ∃ e, s.exchanges i = some e ∧ e.outcome = some s.station.plan
  active : ∀ a, s.active = some a → s.last = some a.exchange ∧
    ∃ e, s.exchanges a.exchange = some e ∧ PumpOk s.station a e s.pump

/-- The steps after which an exchange can report what has not happened: a worker gives up on a
committed exchange, or the pump commits an exchange that was given up. -/
def InTime (s : RemoteDsp P) : RemoteDspAct P → Prop
  | .worker i _ => ∀ e f, s.exchanges i = some e → e.pc = .giveUp f →
    f.reported = true → e.committed = false
  | .pump _ => ∀ a e answer, s.active = some a → s.exchanges a.exchange = some e →
    s.pump = .finish → s.station.pc = .resultTransmit .commit answer →
    UpdateMailbox.result (P := P) answer s.station.updates.transmit.answer = .ok () →
    e.cancelled = false
  | _ => True

theorem coherent_new (address : Nat) (plan : StationPlan P) (tables : ReceiveTables P) :
    Coherent (new (.open address plan tables)) where
  table := by constructor <;> simp [new]
  idle _ := ⟨rfl, rfl, rfl, fun _ h => by cases h⟩
  active _ h := by cases h

/-! ## The worker -/

open Exchange

theorem sound_withPc {e : Exchange P} (h : e.Sound) {pc : ApplyPc P}
    (hc : ∀ c, pc ≠ .ready c) (hr : ∀ r, pc ≠ .returned r) : Sound { e with pc } :=
  h.of_sameHistory ⟨rfl, rfl, rfl, rfl, rfl, rfl, rfl⟩ (fun _ hp => hp)
    (fun _ hu => absurd hu (hc _)) h.ready
    (fun r hres => h.truthful r (.inl (hres.resolve_right (hr r))))
    (fun f hres hrep => h.failed f (.inl (hres.resolve_right (hr _))) hrep)

theorem sound_withReturned {e : Exchange P} (h : e.Sound) {r : Except (RemoteDspError P) Unit}
    (ht : e.Truthful r)
    (hf : ∀ f, r = .error f → f.reported = true → e.completed = true ∨ e.cancelled = true) :
    Sound { e with pc := .returned r } :=
  h.of_sameHistory ⟨rfl, rfl, rfl, rfl, rfl, rfl, rfl⟩ (fun _ hp => hp)
    (fun _ hu => by cases hu) h.ready
    (fun _ hres => hres.elim (fun hres => h.truthful _ (.inl hres))
      fun hres => ApplyPc.returned.inj hres ▸ ht)
    (fun f hres hrep => hres.elim (fun hres => h.failed f (.inl hres) hrep)
      fun hres => hf f (ApplyPc.returned.inj hres) hrep)

theorem eq_or_eq_of_pushOne {α : Type} {queue : Option α} {value v : α}
    (h : pushOne queue value = some v) : queue = some v ∨ value = v := by
  cases queue with
  | none => exact .inr (Option.some.inj h)
  | some w => exact .inl h

/-- What a step of the worker does. -/
theorem applyStep_spec {s s' : RemoteDsp P} {i : Nat} {answers : ApplyAnswers P}
    (h : Table s.exchanges s.next s.pending) (hin : InTime s (.worker i answers))
    (hstep : s.applyStep i answers = some s') :
    ∃ e e' pending, s.exchanges i = some e ∧ s' = { s.setExchange i e' with pending } ∧
      SameHistory e e' ∧ e'.Sound ∧ e'.pc ≠ .submit ∧
      (pending = s.pending ∨ pending = some i ∧ e.pc = .submit) := by
  unfold applyStep at hstep
  split at hstep
  · cases hstep
  · rename_i e hi
    have hs := h.sound i e hi
    have hsame : ∀ pc, SameHistory e { e with pc } := fun _ => ⟨rfl, rfl, rfl, rfl, rfl, rfl, rfl⟩
    split at hstep
    · rename_i hpc
      split at hstep
      · obtain rfl := Option.some.inj hstep
        exact ⟨e, _, _, hi, rfl, hsame _, sound_withPc hs (by simp) (by simp), by simp,
          .inr ⟨rfl, hpc⟩⟩
      · obtain rfl := Option.some.inj hstep
        refine ⟨e, _, _, hi, rfl, hsame _, sound_withReturned hs ?_ ?_, by simp, .inl rfl⟩
        · exact fun hrep => by cases hrep
        · intro f hf hrep
          obtain rfl := Except.error.inj hf
          cases hrep
    · split at hstep
      · rename_i result hres
        obtain rfl := Option.some.inj hstep
        refine ⟨e, _, _, hi, rfl, ⟨rfl, rfl, rfl, rfl, rfl, rfl, rfl⟩, ?_, by simp, .inl rfl⟩
        refine hs.of_sameHistory ⟨rfl, rfl, rfl, rfl, rfl, rfl, rfl⟩ (fun _ hp => hp)
          (fun _ hu => by cases hu) hs.ready (fun r hr => ?_) (fun f hf hrep => ?_)
        · rcases hr with hr | hr
          · cases hr
          · obtain rfl := ApplyPc.returned.inj hr
            exact hs.truthful _ (.inl hres)
        · rcases hf with hf | hf
          · cases hf
          · obtain rfl := ApplyPc.returned.inj hf
            exact hs.failed f (.inl hres) hrep
      · obtain rfl := Option.some.inj hstep
        exact ⟨e, _, _, hi, rfl, hsame _, sound_withPc hs (by simp) (by simp), by simp, .inl rfl⟩
    · split at hstep
      · obtain rfl := Option.some.inj hstep
        exact ⟨e, _, _, hi, rfl, hsame _, sound_withPc hs (by simp) (by simp), by simp, .inl rfl⟩
      · split at hstep
        · obtain rfl := Option.some.inj hstep
          exact ⟨e, _, _, hi, rfl, hsame _, sound_withPc hs (by simp) (by simp), by simp, .inl rfl⟩
        · split at hstep
          · obtain rfl := Option.some.inj hstep
            exact ⟨e, _, _, hi, rfl, hsame _, sound_withPc hs (by simp) (by simp), by simp,
              .inl rfl⟩
          · obtain rfl := Option.some.inj hstep
            exact ⟨e, _, _, hi, rfl, hsame _, sound_withPc hs (by simp) (by simp), by simp,
              .inl rfl⟩
    · rename_i failure hpc
      obtain rfl := Option.some.inj hstep
      refine ⟨e, _, _, hi, rfl, ⟨rfl, rfl, rfl, rfl, rfl, rfl, rfl⟩, ?_, by simp, .inl rfl⟩
      refine hs.of_sameHistory ⟨rfl, rfl, rfl, rfl, rfl, rfl, rfl⟩ (fun _ hp => hp)
        (fun _ hu => by cases hu) hs.ready (fun r hr => ?_) (fun _ _ _ => .inr rfl)
      rcases hr with hr | hr
      · exact hs.truthful r (.inl hr)
      · obtain rfl := ApplyPc.returned.inj hr
        exact hin e failure hi hpc
    · split at hstep
      · obtain rfl := Option.some.inj hstep
        exact ⟨e, _, _, hi, rfl, hsame _, sound_withPc hs (by simp) (by simp), by simp, .inl rfl⟩
      · rename_i preparation hp
        obtain rfl := Option.some.inj hstep
        refine ⟨e, _, _, hi, rfl, ⟨rfl, rfl, rfl, rfl, rfl, rfl, rfl⟩, ?_, by simp, .inl rfl⟩
        refine hs.of_sameHistory ⟨rfl, rfl, rfl, rfl, rfl, rfl, rfl⟩ (fun _ hp => by cases hp)
          (fun u hu => ?_) hs.ready (fun r hr => hs.truthful r (.inl (hr.resolve_right (by simp))))
          (fun f hf hrep => hs.failed f (.inl (hf.resolve_right (by simp))) hrep)
        exact wants_candidate (hs.preparation preparation hp) (ApplyPc.ready.inj hu)
    · rename_i candidate hpc
      obtain rfl := Option.some.inj hstep
      refine ⟨e, _, _, hi, rfl, ⟨rfl, rfl, rfl, rfl, rfl, rfl, rfl⟩, ?_, by simp, .inl rfl⟩
      refine hs.of_sameHistory ⟨rfl, rfl, rfl, rfl, rfl, rfl, rfl⟩ (fun _ hp => hp)
        (fun _ hu => by cases hu) (fun u hu => ?_)
        (fun r hr => hs.truthful r (.inl (hr.resolve_right (by simp))))
        (fun f hf hrep => hs.failed f (.inl (hf.resolve_right (by simp))) hrep)
      rcases eq_or_eq_of_pushOne hu with hold | hnew
      · exact hs.ready u hold
      · exact hs.candidate u (by rw [hpc, hnew])
    · cases hstep

theorem sameHistory_refl (e : Exchange P) : SameHistory e e := ⟨rfl, rfl, rfl, rfl, rfl, rfl, rfl⟩

theorem sameControl_refl (station : StationRuntime P) : SameControl station station :=
  ⟨rfl, rfl, rfl⟩

theorem Coherent.worker {s : RemoteDsp P} (h : Coherent s) {i : Nat} {e e' : Exchange P}
    {pending : Option Nat} (hi : s.exchanges i = some e) (hsame : SameHistory e e')
    (hs : e'.Sound) (hpc : e'.pc ≠ .submit)
    (hpending : pending = s.pending ∨ pending = some i ∧ e.pc = .submit) :
    Coherent { s.setExchange i e' with pending } := by
  have htable := h.table.set hi hs (fun _ hu => hu.of_sameHistory hsame) (fun hc => absurd hc hpc)
  refine ⟨⟨htable.sound, htable.fresh, fun j hj => ?_, htable.submit⟩, fun hidle => ?_,
    fun a ha => ?_⟩
  · rcases hpending with rfl | ⟨rfl, hsub⟩
    · exact htable.waiting j hj
    · obtain rfl := Option.some.inj hj
      exact ⟨e', Function.update_self _ _ _, (h.table.submit i e hi hsub).of_sameHistory hsame, hpc⟩
  · obtain ⟨h1, h2, h3, h4⟩ := h.idle hidle
    refine ⟨h1, h2, h3, fun j hj => ?_⟩
    obtain ⟨e₁, he₁, hout⟩ := h4 j hj
    by_cases hij : j = i
    · subst hij
      obtain rfl := Option.some.inj (hi.symm.trans he₁)
      exact ⟨e', Function.update_self _ _ _, hsame.outcome.trans hout⟩
    · exact ⟨e₁, (Function.update_of_ne hij _ _).trans he₁, hout⟩
  · obtain ⟨hlast, e₁, he₁, hok⟩ := h.active a ha
    refine ⟨hlast, ?_⟩
    by_cases hij : a.exchange = i
    · rw [hij] at he₁
      obtain rfl := Option.some.inj (hi.symm.trans he₁)
      exact ⟨e', by rw [hij]; exact Function.update_self _ _ _,
        hok.of_same (sameControl_refl _) hsame⟩
    · exact ⟨e₁, (Function.update_of_ne hij _ _).trans he₁, hok⟩

/-- A callback, or a start or stop of the stream. -/
theorem Coherent.station {s : RemoteDsp P} (h : Coherent s) {station : StationRuntime P}
    (hsame : SameControl s.station station) : Coherent { s with station } where
  table := h.table
  idle hidle := by
    obtain ⟨h1, h2, h3, h4⟩ := h.idle hidle
    refine ⟨h1, hsame.pc.trans h2, by rw [hsame.storage]; exact h3, fun i hi => ?_⟩
    obtain ⟨e, he, hout⟩ := h4 i hi
    exact ⟨e, he, by rw [hsame.plan]; exact hout⟩
  active a ha := by
    obtain ⟨hlast, e, he, hok⟩ := h.active a ha
    exact ⟨hlast, e, he, hok.of_same hsame (sameHistory_refl e)⟩

/-- A new exchange. -/
theorem Coherent.apply {s : RemoteDsp P} (h : Coherent s) {e : Exchange P} (hs : e.Sound)
    (hu : e.Untaken) : Coherent { s.setExchange s.next e with next := s.next + 1 } := by
  have hne : ∀ {i e₁}, s.exchanges i = some e₁ → i ≠ s.next := by
    rintro i e₁ hi rfl
    rw [h.table.fresh _ (Nat.le_refl _)] at hi
    cases hi
  have hkeep : ∀ {i e₁}, s.exchanges i = some e₁ →
      Function.update s.exchanges s.next (some e) i = some e₁ := fun hi =>
    (Function.update_of_ne (hne hi) _ _).trans hi
  have hnew : ∀ {e₁}, Function.update s.exchanges s.next (some e) s.next = some e₁ → e = e₁ := by
    intro e₁ hi
    rw [Function.update_self] at hi
    exact Option.some.inj hi
  refine ⟨⟨fun i e₁ hi => ?_, fun i hi => ?_, fun i hi => ?_, fun i e₁ hi hsub => ?_⟩,
    fun hidle => ?_, fun a ha => ?_⟩
  · by_cases hin : i = s.next
    · subst hin
      obtain rfl := hnew hi
      exact hs
    · exact h.table.sound i e₁ ((Function.update_of_ne hin _ _).symm.trans hi)
  · have hlt : s.next + 1 ≤ i := hi
    exact (Function.update_of_ne (by omega) _ _).trans (h.table.fresh i (by omega))
  · obtain ⟨e₁, h1, h2⟩ := h.table.waiting i hi
    exact ⟨e₁, hkeep h1, h2⟩
  · by_cases hin : i = s.next
    · subst hin
      obtain rfl := hnew hi
      exact hu
    · exact h.table.submit i e₁ ((Function.update_of_ne hin _ _).symm.trans hi) hsub
  · obtain ⟨h1, h2, h3, h4⟩ := h.idle hidle
    refine ⟨h1, h2, h3, fun i hi => ?_⟩
    obtain ⟨e₁, he₁, hout⟩ := h4 i hi
    exact ⟨e₁, hkeep he₁, hout⟩
  · obtain ⟨hlast, e₁, he₁, hok⟩ := h.active a ha
    exact ⟨hlast, e₁, hkeep he₁, hok⟩

/-! ## The pump -/

/-- The pump goes on with its exchange. -/
theorem Coherent.busy {s : RemoteDsp P} (htable : Table s.exchanges s.next s.pending) {a : Active}
    {e : Exchange P} (hactive : s.active = some a) (hlast : s.last = some a.exchange)
    (hi : s.exchanges a.exchange = some e) (hok : PumpOk s.station a e s.pump) : Coherent s where
  table := htable
  idle hidle := by
    rw [hactive] at hidle
    cases hidle
  active a' ha' := by
    obtain rfl := Option.some.inj (hactive.symm.trans ha')
    exact ⟨hlast, e, hi, hok⟩

/-- The pump drops an exchange that is over. -/
theorem coherent_leave {s : RemoteDsp P} (htable : Table s.exchanges s.next s.pending) {i : Nat}
    {e : Exchange P} (hlast : s.last = some i) (hi : s.exchanges i = some e)
    (hover : Over s.station e) : Coherent (s.leave i e) := by
  have hs := htable.sound i e hi
  have hsound : Sound { e with outcome := some s.station.plan } := by
    refine ⟨hs.preparation, hs.candidate, hs.ready, fun hc => ?_, fun hc plan hout => ?_,
      hs.truthful, hs.failed⟩
    · obtain ⟨before, plan, h1, h2, h3⟩ := hs.committed hc
      exact ⟨before, plan, h1, h2, (hover.committed hc).symm.trans h3⟩
    · exact (hover.kept hc).trans hout
  refine ⟨htable.set hi hsound (fun _ hu => absurd hu hover.not_untaken) id, fun _ => ?_,
    fun a ha => by cases ha⟩
  refine ⟨rfl, hover.pc, hover.transaction, fun j hj => ?_⟩
  obtain rfl := Option.some.inj (hlast.symm.trans hj)
  exact ⟨_, Function.update_self _ _ _, rfl⟩

/-- What the pump has between its steps. -/
structure Pumping (s : RemoteDsp P) (a : Active) (e : Exchange P) : Prop where
  table : Table s.exchanges s.next s.pending
  last : s.last = some a.exchange
  exchange : s.exchanges a.exchange = some e

theorem Pumping.set {s : RemoteDsp P} {a : Active} {e e' : Exchange P} (h : Pumping s a e)
    (hs : e'.Sound) (hu : ¬ e.Untaken) (hpc : e'.pc = e.pc) :
    Pumping (s.setExchange a.exchange e') a e' :=
  ⟨h.table.set h.exchange hs (fun _ h0 => absurd h0 hu) (fun h0 => hpc ▸ h0), h.last,
    Function.update_self _ _ _⟩

theorem Pumping.withStation {s : RemoteDsp P} {a : Active} {e : Exchange P} (h : Pumping s a e)
    (station : StationRuntime P) : Pumping { s with station } a e :=
  ⟨h.table, h.last, h.exchange⟩

/-- The pump after `finish_update`. -/
theorem coherent_handleFinish {s : RemoteDsp P} {a : Active} {e : Exchange P} (h : Pumping s a e)
    (hactive : s.active = some a) {result : Except (StationUpdateError P) Unit}
    (hok : result = .ok () → Over s.station e ∧
      e.Truthful (if a.reversing then .error .cancelled else .ok ()))
    (herr : result ≠ .ok () → UnderWay s.station a e ∧ s.station.pc = .idle ∧
      a.started = true ∧ Open s.station a e) : Coherent (s.handleFinish a result) := by
  unfold handleFinish
  split
  · obtain ⟨h1, h2⟩ := hok rfl
    exact .busy h.table hactive h.last h.exchange ⟨h1, h2⟩
  · obtain ⟨h1, h2, h3, h4⟩ := herr (by simp)
    exact .busy h.table hactive h.last h.exchange
      ⟨h1, h2, fun hs => absurd (h3.symm.trans hs) (by simp), fun _ => h4⟩
  · obtain ⟨h1, h2, h3, t, h4, h5, h6⟩ := herr (by simp)
    refine .busy (a := { a with reversing := true }) h.table rfl h.last h.exchange
      ⟨⟨h1.before, h1.committed, h1.outcome, fun _ => rfl, fun _ => h3, h1.prepared⟩, h2, rfl,
        ⟨t, h4, h5, fun _ => rfl⟩, fun _ => h1.committed⟩

/-- The pump calls `finish_update`. -/
theorem coherent_callFinish {s : RemoteDsp P} {a : Active} {e : Exchange P} (h : Pumping s a e)
    (hactive : s.active = some a) (hway : UnderWay s.station a e) (hstarted : a.started = true)
    (hopen : Open s.station a e) (answers : PumpAnswers P) :
    Coherent (s.callFinish a answers) := by
  obtain ⟨t, htx, hwants, hrev⟩ := hopen
  obtain ⟨station, heq, hplan, hfin⟩ :=
    finishing_finishUpdate htx (!a.reversing) answers.receive answers.transmit
  unfold callFinish
  rw [heq]
  refine .busy h.table hactive h.last h.exchange
    ⟨hway.of_plan hplan, hstarted, t, hfin, hwants, hrev⟩

/-- The pump after a refused `begin_update`, or a preparation that failed. -/
theorem coherent_handleBegin_error {s : RemoteDsp P} {a : Active} {e : Exchange P}
    (h : Pumping s a e) (hactive : s.active = some a) (hway : UnderWay s.station a e)
    (hpc : s.station.pc = .idle) (hstarted : a.started = false)
    (htx : s.station.updates.storage.transaction = none) (error : StationUpdateError P)
    (answers : PumpAnswers P) : Coherent (s.handleBegin a (.error error) answers) := by
  have hover := hway.over hpc htx
  have hfail : ∀ e' : StationUpdateError P,
      Coherent { s with pump := .complete (.error (.update e')) true } := fun e' =>
    .busy h.table hactive h.last h.exchange ⟨hover, fun _ => hway.committed⟩
  unfold handleBegin
  cases error with
  | busy =>
    refine .busy (a := { a with prepared := false }) h.table rfl h.last h.exchange
      ⟨⟨hway.before, hway.committed, hway.outcome, hway.completed, hway.reversing,
        fun hs => absurd (hstarted.symm.trans hs) (by simp)⟩, hpc, fun _ => htx,
        fun hs => absurd (hstarted.symm.trans hs) (by simp)⟩
  | incompatible | pending | preparation _ | radio _ => exact hfail _

/-- The pump behind its check. -/
theorem coherent_advance {s : RemoteDsp P} {a : Active} {e : Exchange P} (h : Pumping s a e)
    (hactive : s.active = some a) (hok : PumpOk s.station a e .advance)
    (answers : PumpAnswers P) : Coherent (s.advance a e answers) := by
  obtain ⟨hway, hpc, htx, hopen⟩ := hok
  have hs := h.table.sound _ e h.exchange
  unfold advance
  split
  · rename_i hprepared
    have hnot : a.started = false := by
      cases hstarted : a.started with
      | false => rfl
      | true => simp [hway.prepared hstarted] at hprepared
    split
    · rename_i preparation hsnap
      have hprevious : preparation.previous = s.station.plan := by
        unfold snapshotUpdate at hsnap
        split at hsnap
        · cases hsnap
        · split at hsnap
          · cases hsnap
          · obtain rfl := Except.ok.inj hsnap
            rfl
      have hsame : SameHistory e { e with preparation := pushOne e.preparation preparation } :=
        ⟨rfl, rfl, rfl, rfl, rfl, rfl, rfl⟩
      have hsound : Sound { e with preparation := pushOne e.preparation preparation } := by
        refine ⟨fun p hp => ?_, hs.candidate, hs.ready, hs.committed, hs.kept, hs.truthful,
          hs.failed⟩
        rcases eq_or_eq_of_pushOne hp with hold | rfl
        · exact hs.preparation p hold
        · rw [hway.before, hprevious]
      have hset := h.set hsound hway.not_untaken rfl
      have hway' := hway.of_same (sameControl_refl _) hsame
      exact .busy (a := { a with prepared := true }) hset.table rfl hset.last hset.exchange
        ⟨⟨hway'.before, hway'.committed, hway'.outcome, hway'.completed, hway'.reversing,
          fun _ => rfl⟩, hpc, htx, fun hstarted => absurd (hnot.symm.trans hstarted) (by simp)⟩
    · exact .busy h.table hactive h.last h.exchange ⟨hway, hpc, htx, hopen⟩
    · exact .busy h.table hactive h.last h.exchange
        ⟨hway.over hpc (htx hnot), fun _ => hway.committed⟩
  · rename_i hprepared
    split
    · rename_i hstarted
      have hnot : a.started = false := by simpa using hstarted
      split
      · exact .busy h.table hactive h.last h.exchange ⟨hway, hpc, htx, hopen⟩
      · rename_i candidate hready
        have hsame : SameHistory e { e with ready := none } := ⟨rfl, rfl, rfl, rfl, rfl, rfl, rfl⟩
        have hsound : Sound { e with ready := none } :=
          ⟨hs.preparation, hs.candidate, fun _ hu => (by cases hu), hs.committed, hs.kept,
            hs.truthful, hs.failed⟩
        have hset := h.set hsound hway.not_untaken rfl
        have hway' := hway.of_same (sameControl_refl _) hsame
        simp only
        split
        · exact coherent_handleBegin_error hset hactive hway' hpc hnot (htx hnot) _ answers
        · rename_i update
          have hwants : Wants { e with ready := none } update :=
            (hs.ready update hready).of_sameHistory hsame
          rcases s.station.beginUpdate_cases update answers.forward answers.reverse with
            ⟨error, heq⟩ | ⟨-, -, -, heq⟩
          · have heq' : (s.setExchange a.exchange { e with ready := none }).station.beginUpdate update
                answers.forward answers.reverse = (s.station, some (.error error)) := heq
            simp only [heq']
            exact coherent_handleBegin_error hset hactive hway' hpc hnot (htx hnot) _ answers
          · simp only [setExchange, heq]
            exact .busy hset.table hactive hset.last hset.exchange ⟨hway'.of_plan rfl, hnot,
              by simpa using hprepared, ⟨update, false⟩, ⟨rfl, rfl, trivial⟩, hwants⟩
    · rename_i hstarted
      have hyes : a.started = true := by simpa using hstarted
      exact coherent_callFinish h hactive hway hyes (hopen hyes) answers

/-- A step of `begin_update`. -/
theorem coherent_begin {s : RemoteDsp P} {a : Active} {e : Exchange P} (h : Pumping s a e)
    (hactive : s.active = some a) (hpump : s.pump = .begin) (hok : PumpOk s.station a e .begin)
    {answers : PumpAnswers P} {station : StationRuntime P} {returned : Returned P}
    (hstep : s.station.controlStep answers.receive answers.transmit = some (station, returned)) :
    Coherent (match returned with
      | none => { s with station }
      | some result => { s with station }.handleBegin a result answers) := by
  obtain ⟨hway, hnot, hprepared, t, hbegin, hwants⟩ := hok
  cases beginCase_of_controlStep hbegin hstep with
  | goesOn hplan hbegin' =>
    refine .busy h.table hactive h.last h.exchange ?_
    show PumpOk station a e s.pump
    rw [hpump]
    exact ⟨hway.of_plan hplan, hnot, hprepared, t, hbegin', hwants⟩
  | returns hplan htx hpc =>
    refine coherent_callFinish (a := { a with started := true }) (e := e)
      (s := { s with station, active := some { a with started := true } })
      ⟨h.table, h.last, h.exchange⟩ rfl ⟨(hway.of_plan hplan).before, hway.committed,
        hway.outcome, hway.completed, fun _ => rfl, fun _ => hprepared⟩ rfl
      ⟨t, htx, hwants, fun hrev => ?_⟩ answers
    exact absurd (hbegin.2.1.symm.trans hrev) (by simp)

/-- A step of `finish_update`. -/
theorem coherent_finish {s : RemoteDsp P} {a : Active} {e : Exchange P} (h : Pumping s a e)
    (hactive : s.active = some a) (hpump : s.pump = .finish) (hok : PumpOk s.station a e .finish)
    {answers : PumpAnswers P} (hin : InTime s (.pump answers)) {station : StationRuntime P}
    {returned : Returned P}
    (hstep : s.station.controlStep answers.receive answers.transmit = some (station, returned)) :
    Coherent (match returned with
      | none => { s with station }
      | some result =>
        { s.setExchange a.exchange (match result, a.reversing with
            | .ok (), false => { e with committed := true, outcome := some station.plan }
            | _, _ => e) with station }.handleFinish a result) := by
  obtain ⟨hway, hstarted, t, hfin, hwants, hrev⟩ := hok
  have hs := h.table.sound _ e h.exchange
  have hset : Pumping (s.setExchange a.exchange e) a e := h.set hs hway.not_untaken rfl
  cases finishCase_of_controlStep hfin hstep with
  | @goesOn _ t' hplan hcand hrev' hfin' =>
    refine .busy h.table hactive h.last h.exchange ?_
    show PumpOk station a e s.pump
    rw [hpump]
    refine ⟨hway.of_plan hplan, hstarted, t', hfin', by rwa [hcand], fun h0 => ?_⟩
    rcases hrev' h0 with h0 | h0
    · exact hrev h0
    · simpa using h0
  | fails error hplan htx hpc =>
    exact coherent_handleFinish (hset.withStation station) hactive
      (fun hc => by cases hc) fun _ => ⟨hway.of_plan hplan, hpc, hstarted, t, htx, hwants, hrev⟩
  | @commits _ answer hcommit hspc hres hplan htx hpc =>
    have hnot : a.reversing = false := by simpa using hcommit
    have hcancelled := hin a e answer hactive h.exchange hpump hspc hres
    have hsound : Sound { e with committed := true, outcome := some station.plan } := by
      refine ⟨hs.preparation, hs.candidate, hs.ready, fun _ => ?_, fun hc => (by cases hc),
        fun r hr => ?_, hs.failed⟩
      · exact ⟨_, _, hwants.1, hwants.2, congrArg some hplan⟩
      · -- No failure has been reported: nobody has completed or given up.
        cases r with
        | ok _ => exact rfl
        | error f =>
          intro hrep
          rcases hs.failed f hr hrep with hc | hc
          · exact absurd (hnot.symm.trans (hway.completed hc)) (by simp)
          · exact absurd (hcancelled.symm.trans hc) (by simp)
    have hset' := h.set hsound hway.not_untaken rfl
    simp only [hnot]
    refine coherent_handleFinish (hset'.withStation station) hactive
      (fun _ => ⟨⟨hpc, htx, fun _ => rfl, fun hc => (by cases hc)⟩, ?_⟩) (fun hc => absurd rfl hc)
    rw [hnot]
    exact rfl
  | restores hcommit hplan htx hpc =>
    have hyes : a.reversing = true := by simpa using hcommit
    simp only [hyes]
    refine coherent_handleFinish (hset.withStation station) hactive
      (fun _ => ⟨⟨hpc, htx, fun hc => ?_, fun _ => ?_⟩, ?_⟩) (fun hc => absurd rfl hc)
    · exact absurd (hway.committed.symm.trans hc) (by simp)
    · exact hwants.1.trans (congrArg some hplan.symm)
    · rw [hyes]
      exact fun _ => hway.committed

/-- The accesses of `complete`. -/
theorem coherent_complete {s : RemoteDsp P} {a : Active} {e : Exchange P} (h : Pumping s a e)
    (hactive : s.active = some a) {result : Except (RemoteDspError P) Unit} {last : Bool}
    (hok : PumpOk s.station a e (.complete result last)) :
    Coherent (if e.completed then (if last then s.leave a.exchange e else { s with pump := .idle })
      else { s.setExchange a.exchange { e with completed := true } with
        pump := .answer result last }) := by
  have hs := h.table.sound _ e h.exchange
  have hsound : Sound { e with completed := true } :=
    ⟨hs.preparation, hs.candidate, hs.ready, hs.committed, hs.kept, hs.truthful,
      fun _ _ _ => .inl rfl⟩
  cases last with
  | true =>
    obtain ⟨hover, htrue⟩ := hok
    split
    · exact coherent_leave h.table h.last h.exchange hover
    · have hset := h.set hsound hover.not_untaken rfl
      exact .busy hset.table hactive hset.last hset.exchange
        ⟨⟨hover.pc, hover.transaction, hover.committed, hover.kept⟩, htrue, rfl⟩
  | false =>
    obtain ⟨hway, hpc, hrev, hopen, htrue⟩ := hok
    have hstarted := hway.reversing hrev
    split
    · exact .busy h.table hactive h.last h.exchange
        ⟨hway, hpc, fun hc => absurd (hstarted.symm.trans hc) (by simp), fun _ => hopen⟩
    · have hset := h.set hsound hway.not_untaken rfl
      exact .busy hset.table hactive hset.last hset.exchange
        ⟨⟨hway.before, hway.committed, hway.outcome, fun _ => hrev, hway.reversing,
          hway.prepared⟩, hpc, hrev, hopen, htrue, rfl⟩

theorem coherent_answer {s : RemoteDsp P} {a : Active} {e : Exchange P} (h : Pumping s a e)
    (hactive : s.active = some a) {result : Except (RemoteDspError P) Unit} {last : Bool}
    (hok : PumpOk s.station a e (.answer result last)) :
    Coherent (if last then
        (s.setExchange a.exchange { e with result := pushOne e.result result }).leave a.exchange
          { e with result := pushOne e.result result }
      else { s.setExchange a.exchange { e with result := pushOne e.result result } with
        pump := .idle }) := by
  have hs := h.table.sound _ e h.exchange
  have hsame : SameHistory e { e with result := pushOne e.result result } :=
    ⟨rfl, rfl, rfl, rfl, rfl, rfl, rfl⟩
  have hsound : e.Truthful result → e.completed = true →
      Sound { e with result := pushOne e.result result } := by
    intro htrue hcomp
    refine hs.of_sameHistory hsame (fun _ hp => hp) hs.candidate hs.ready (fun r hr => ?_)
      (fun _ _ _ => .inl hcomp)
    rcases hr with hr | hr
    · rcases eq_or_eq_of_pushOne hr with hold | rfl
      · exact hs.truthful r (.inl hold)
      · exact htrue
    · exact hs.truthful r (.inr hr)
  cases last with
  | true =>
    obtain ⟨hover, htrue, hcomp⟩ := hok
    have hset := h.set (hsound htrue hcomp) hover.not_untaken rfl
    exact coherent_leave hset.table hset.last hset.exchange
      ⟨hover.pc, hover.transaction, hover.committed, hover.kept⟩
  | false =>
    obtain ⟨hway, hpc, hrev, hopen, htrue, hcomp⟩ := hok
    have hstarted := hway.reversing hrev
    have hset := h.set (hsound htrue hcomp) hway.not_untaken rfl
    exact .busy hset.table hactive hset.last hset.exchange
      ⟨hway.of_same (sameControl_refl _) hsame, hpc,
        fun hc => absurd (hstarted.symm.trans hc) (by simp),
        fun _ => hopen.of_same (sameControl_refl _) hsame⟩

/-- The pump takes an exchange. -/
theorem coherent_take {s : RemoteDsp P} (h : Coherent s) (hactive : s.active = none) {i : Nat}
    {e : Exchange P} (hpending : s.pending = some i) (hi : s.exchanges i = some e) :
    Coherent { s.setExchange i { e with before := some s.station.plan } with
      pending := none, active := some ⟨i, false, false, false⟩, pump := .check, last := some i } := by
  obtain ⟨-, hpc, htx, -⟩ := h.idle hactive
  obtain ⟨e', he', hu, hsub⟩ := h.table.waiting i hpending
  obtain rfl := Option.some.inj (hi.symm.trans he')
  have hs := h.table.sound i e hi
  have hnone : ∀ {plan}, e.before ≠ some plan := fun h0 => by
    rw [hu.before] at h0
    cases h0
  have hsound : Sound { e with before := some s.station.plan } :=
    ⟨fun p hp => absurd (hs.preparation p hp) hnone, fun u hc => absurd (hs.candidate u hc).1 hnone,
      fun u hr => absurd (hs.ready u hr).1 hnone,
      fun hc => absurd (hu.committed.symm.trans hc) (by simp),
      fun _ plan hout => absurd (hu.outcome.symm.trans hout) (by simp), hs.truthful, hs.failed⟩
  have htable : Table s.exchanges s.next none :=
    ⟨h.table.sound, h.table.fresh, fun _ h0 => (by cases h0), h.table.submit⟩
  have htable' := htable.set hi hsound
    (fun hc => absurd (hc.resolve_left (by simp)) hsub) (fun hc => absurd hc hsub)
  exact .busy (a := ⟨i, false, false, false⟩) htable' rfl rfl (Function.update_self _ _ _)
    ⟨⟨rfl, hu.committed, hu.outcome, fun hc => absurd (hu.completed.symm.trans hc) (by simp),
      fun hc => (by cases hc), fun hc => (by cases hc)⟩, hpc, fun _ => htx, fun hc => by cases hc⟩

theorem Coherent.pumpStep {s s' : RemoteDsp P} (h : Coherent s) {answers : PumpAnswers P}
    (hin : InTime s (.pump answers)) (hstep : s.pumpStep answers = some s') : Coherent s' := by
  obtain ⟨station, exchanges, next, pending, live, active, pump, last⟩ := s
  unfold RemoteDsp.pumpStep at hstep
  cases active with
  | none =>
    obtain ⟨rfl, -⟩ := h.idle rfl
    simp only at hstep
    split at hstep
    · obtain rfl := Option.some.inj hstep
      exact h
    · rename_i i
      split at hstep
      · cases hstep
      · rename_i e hi
        obtain rfl := Option.some.inj hstep
        exact coherent_take h rfl rfl hi
  | some a =>
    obtain ⟨hlast, e, hi, hok⟩ := h.active a rfl
    simp only at hlast hi
    have hp : Pumping (⟨station, exchanges, next, pending, live, some a, pump, last⟩ : RemoteDsp P)
      a e := ⟨h.table, hlast, hi⟩
    cases pump with
    | idle =>
      obtain rfl := Option.some.inj hstep
      exact .busy h.table rfl hlast hi hok
    | check =>
      simp only [hi] at hstep
      obtain ⟨hway, hpc, htx, hopen⟩ := hok
      split at hstep
      · obtain rfl := Option.some.inj hstep
        exact .busy h.table rfl hlast hi ⟨hway, hpc, htx, hopen⟩
      · split at hstep
        · rename_i hstarted
          have hnot : a.started = false := by simpa using hstarted
          obtain rfl := Option.some.inj hstep
          exact coherent_leave h.table hlast hi (hway.over hpc (htx hnot))
        · rename_i hstarted
          have hyes : a.started = true := by simpa using hstarted
          obtain rfl := Option.some.inj hstep
          obtain ⟨t, h1, h2, -⟩ := hopen hyes
          exact .busy (a := { a with reversing := true }) h.table rfl hlast hi
            ⟨⟨hway.before, hway.committed, hway.outcome, fun _ => rfl, fun _ => hyes,
              hway.prepared⟩, hpc, htx, fun _ => ⟨t, h1, h2, fun _ => rfl⟩⟩
    | advance =>
      simp only [hi] at hstep
      obtain rfl := Option.some.inj hstep
      exact coherent_advance hp rfl hok answers
    | begin =>
      simp only [hi] at hstep
      split at hstep
      · cases hstep
      · rename_i hcontrol
        obtain rfl := Option.some.inj hstep
        exact coherent_begin hp rfl rfl hok hcontrol
      · rename_i hcontrol
        obtain rfl := Option.some.inj hstep
        exact coherent_begin hp rfl rfl hok hcontrol
    | finish =>
      simp only [hi] at hstep
      split at hstep
      · cases hstep
      · rename_i hcontrol
        obtain rfl := Option.some.inj hstep
        exact coherent_finish hp rfl rfl hok hin hcontrol
      · rename_i hcontrol
        obtain rfl := Option.some.inj hstep
        exact coherent_finish hp rfl rfl hok hin hcontrol
    | complete result last =>
      simp only [hi] at hstep
      have hcomplete := coherent_complete hp rfl hok
      split at hstep
      · rename_i hc
        rw [if_pos hc] at hcomplete
        exact Option.some.inj hstep ▸ hcomplete
      · rename_i hc
        rw [if_neg hc] at hcomplete
        exact Option.some.inj hstep ▸ hcomplete
    | answer result last =>
      simp only [hi] at hstep
      exact Option.some.inj hstep ▸ coherent_answer hp rfl hok

theorem Coherent.step {s s' : RemoteDsp P} (h : Coherent s) {act : RemoteDspAct P}
    (hin : InTime s act) (hstep : s.step act = some s') : Coherent s' := by
  cases act with
  | apply target externalDecode carrier =>
    simp only [RemoteDsp.step] at hstep
    split at hstep
    · obtain rfl := Option.some.inj hstep
      exact h.apply (sound_new ..) (untaken_new ..)
    · obtain rfl := Option.some.inj hstep
      exact h
  | worker i answers =>
    obtain ⟨e, e', pending, hi, rfl, hsame, hs, hpc, hpending⟩ := applyStep_spec h.table hin hstep
    exact h.worker hi hsame hs hpc hpending
  | pump answers =>
    simp only [RemoteDsp.step] at hstep
    split at hstep
    · exact h.pumpStep hin hstep
    · cases hstep
  | receive accepts =>
    simp only [RemoteDsp.step] at hstep
    split at hstep
    · obtain rfl := Option.some.inj hstep
      exact h.station (sameControl_receiveStep _ accepts)
    · cases hstep
  | transmit accepts =>
    simp only [RemoteDsp.step] at hstep
    split at hstep
    · obtain rfl := Option.some.inj hstep
      exact h.station (sameControl_transmitStep _ accepts)
    · cases hstep
  | start =>
    simp only [RemoteDsp.step] at hstep
    split at hstep
    · obtain rfl := Option.some.inj hstep
      exact h.station ⟨rfl, rfl, rfl⟩
    · cases hstep
  | stop =>
    simp only [RemoteDsp.step] at hstep
    split at hstep
    · obtain rfl := Option.some.inj hstep
      exact h.station ⟨rfl, rfl, rfl⟩
    · cases hstep
  | retire =>
    simp only [RemoteDsp.step] at hstep
    split at hstep
    · obtain rfl := Option.some.inj hstep
      exact ⟨h.table, h.idle, h.active⟩
    · cases hstep

theorem coherent_inductive (P : StationParts) : (remoteDsp P).Inductive InTime Coherent where
  init := by
    rintro s ⟨address, plan, tables, rfl⟩
    exact coherent_new address plan tables
  step _ _ _ h hin hstep := h.step hin hstep

end RemoteDsp

end Station
end UsbRadioPlus
