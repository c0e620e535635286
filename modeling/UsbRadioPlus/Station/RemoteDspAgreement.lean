import UsbRadioPlus.Station.RemoteDspCoherence

/-!
# What an exchange reports and what the station has

`ExchangeContract`: a worker that returns `Ok` has its plan committed, and one that returns
`Cancelled`, `Timeout` or an update error leaves the plan from before the exchange. The worker sets
`cancelled` and returns without another look at `completed`, so it can report a failure while the
pump, past its check of `cancelled`, commits. The contract holds for the runs that are `InTime`
(`exchangeContract_of_reachBy`); `not_exchangeContract_late` is a run that is not.
-/

namespace UsbRadioPlus
namespace Station

open Sys StationRuntime

variable {P : StationParts}

/-- What the pump leaves behind is the plan of the station. -/
theorem PumpOk.outcome {station : StationRuntime P} {a : Active} {e : Exchange P} {pump : PumpPc P}
    (hs : e.Sound) (h : PumpOk station a e pump) {plan : StationPlan P}
    (hout : e.outcome = some plan) : station.plan = plan := by
  have hway : UnderWay station a e → station.plan = plan := fun hway => by
    have := hway.outcome.symm.trans hout
    cases this
  have hover : Over station e → station.plan = plan := fun hover => by
    cases hc : e.committed with
    | true => exact Option.some.inj ((hover.committed hc).symm.trans hout)
    | false => exact Option.some.inj ((hover.kept hc).symm.trans (hs.kept hc plan hout))
  cases pump with
  | idle | check | advance | begin | finish => exact hway h.1
  | complete result last | answer result last =>
    cases last with
    | true => exact hover h.1
    | false => exact hway h.1

namespace RemoteDsp

/-- What the worker's result says about the plans of the station. -/
structure ExchangeContract (s : RemoteDsp P) (i : Nat) (e : Exchange P) : Prop where
  ok : e.pc = .returned (.ok ()) → ∃ before plan, e.before = some before ∧
    e.requested before = .ok plan ∧ plan.remoteOperating = some e.target ∧ e.outcome = some plan
  failed : ∀ f, e.pc = .returned (.error f) → f.reported = true →
    ∀ plan, e.outcome = some plan → e.before = some plan
  /-- The outcome is the plan of the station until the pump takes another exchange, and an idle pump
  has an outcome. -/
  outcome : s.last = some i → (∀ plan, e.outcome = some plan → s.station.plan = plan) ∧
    (s.active = none → e.outcome = some s.station.plan)

/-- **Exchange agreement** in every state that the owners reach in time. -/
theorem exchangeContract_of_reachBy {s : RemoteDsp P} (h : (remoteDsp P).ReachBy InTime s)
    {i : Nat} {e : Exchange P} (hi : s.exchanges i = some e) : ExchangeContract s i e := by
  have hcoh := (coherent_inductive P).reachBy h
  have hs := hcoh.table.sound i e hi
  refine ⟨fun hpc => ?_, fun f hpc hrep => ?_, fun hlast => ⟨fun plan hout => ?_, fun hidle => ?_⟩⟩
  · obtain ⟨before, plan, hbefore, hplan, hout⟩ := hs.committed (hs.truthful _ (.inr hpc))
    exact ⟨before, plan, hbefore, hplan, StationPlan.remoteOperating_withRemoteSignaling hplan, hout⟩
  · exact hs.kept (hs.truthful _ (.inr hpc) hrep)
  · cases hactive : s.active with
    | none =>
      obtain ⟨e', he', hout'⟩ := (hcoh.idle hactive).2.2.2 i hlast
      obtain rfl := Option.some.inj (hi.symm.trans he')
      exact Option.some.inj (hout'.symm.trans hout)
    | some a =>
      obtain ⟨hl, e', he', hok⟩ := hcoh.active a hactive
      obtain rfl := Option.some.inj (hlast.symm.trans hl)
      obtain rfl := Option.some.inj (hi.symm.trans he')
      exact hok.outcome hs hout
  · obtain ⟨e', he', hout⟩ := (hcoh.idle hidle).2.2.2 i hlast
    obtain rfl := Option.some.inj (hi.symm.trans he')
    exact hout

/-! ## A tune that is given up in time, and one that is not -/

/-- A caller tunes, with the carrier of the signal processing. -/
def tune : RemoteDspAct plainParts := .apply () .disabled .dsp

/-- Steps of the pump that succeed. -/
def pumps (n : Nat) : List (RemoteDspAct plainParts) :=
  List.replicate n (.pump ⟨.ok (), .ok (), .ok (), true, true⟩)

/-- Steps of the worker that succeed. -/
def works (i n : Nat) : List (RemoteDspAct plainParts) :=
  List.replicate n (.worker i ⟨false, false, ⟨.ok (), .ok (), .ok (), .ok (), 0⟩⟩)

/-- The deadline of the worker has passed. -/
def late (i : Nat) : RemoteDspAct plainParts :=
  .worker i ⟨false, true, ⟨.ok (), .ok (), .ok (), .ok (), 0⟩⟩

/-- The reads of both callbacks. -/
def reads (transmitAccepts : Bool) : List (RemoteDspAct plainParts) :=
  List.replicate 4 (.receive true) ++ List.replicate 4 (.transmit transmitAccepts)

/-- A tune up to `begin_update`, with the worker at its check. -/
def prepareTune (i : Nat) : List (RemoteDspAct plainParts) :=
  [tune] ++ works i 1 ++ pumps 3 ++ works i 5 ++ pumps 3

/-- A tune that is given up while its adoption is pending, and one that is committed. -/
def tunes : List (RemoteDspAct plainParts) :=
  [.start] ++ prepareTune 0 ++ pumps 7 ++ [late 0] ++ works 0 1 ++ reads false ++ pumps 11 ++
    reads true ++ pumps 8 ++ prepareTune 1 ++ pumps 7 ++ reads true ++ pumps 7 ++ works 1 3

/-- `InTime`, as a check. -/
def inTime (s : RemoteDsp P) : RemoteDspAct P → Bool
  | .worker i _ => (s.exchanges i).all fun e => !(e.pc matches .giveUp _) || !e.committed
  | .pump _ => !(s.station.pc matches .resultTransmit .commit _) ||
    s.active.all fun a => (s.exchanges a.exchange).all fun e => !e.cancelled
  | _ => true

theorem inTime_of_check {s : RemoteDsp P} {act : RemoteDspAct P} (h : s.inTime act = true) :
    InTime s act := by
  cases act with
  | worker i answers =>
    intro e f hi hpc _
    simpa [inTime, hi, hpc] using h
  | pump answers =>
    intro a e answer hactive hi _ hpc _
    simpa [inTime, hactive, hi, hpc] using h
  | apply | receive | transmit | start | stop | retire => trivial

set_option maxRecDepth 4000 in
/-- The first worker reports its timeout and leaves the plan, the second one has its plan. -/
theorem exchangeContract_of_tunes : ∃ (s : RemoteDsp plainParts) (e₀ e₁ : Exchange plainParts),
    e₀.pc = .returned (.error .timeout) ∧ ExchangeContract s 0 e₀ ∧
    e₁.pc = .returned (.ok ()) ∧ ExchangeContract s 1 e₁ ∧
    s.station.plan = { plainPlan 0 with remoteOperating := some () } := by
  obtain ⟨s, e₀, e₁, hrun, h0, h1, hpc0, hpc1, hplan⟩ : ∃ s e₀ e₁,
      (remoteDsp plainParts).run (new plainStation.station) tunes = some s ∧
      s.exchanges 0 = some e₀ ∧ s.exchanges 1 = some e₁ ∧
      e₀.pc = .returned (.error .timeout) ∧ e₁.pc = .returned (.ok ()) ∧
      s.station.plan = { plainPlan 0 with remoteOperating := some () } :=
    ⟨_, _, _, rfl, rfl, rfl, rfl, rfl, rfl⟩
  have hreach : (remoteDsp plainParts).ReachBy InTime s :=
    ⟨_, _, ⟨0, plainPlan 0, ⟨(), false⟩, rfl⟩, .of_checked (c := inTime)
      (fun _ _ => inTime_of_check) rfl, hrun⟩
  exact ⟨s, e₀, e₁, hpc0, exchangeContract_of_reachBy hreach h0, hpc1,
    exchangeContract_of_reachBy hreach h1, hplan⟩

/-- The worker finds its deadline passed, the pump commits, and the worker gives up: it reports a
timeout, and the station has the new plan. -/
theorem not_exchangeContract_late : ∃ (s : RemoteDsp plainParts) (e : Exchange plainParts),
    (remoteDsp plainParts).Reach s ∧ s.exchanges 0 = some e ∧
    e.pc = .returned (.error .timeout) ∧ ¬ ExchangeContract s 0 e := by
  obtain ⟨s, e, hrun, hi, hpc, hbefore, hout⟩ : ∃ s e,
      (remoteDsp plainParts).run (new plainStation.station)
        (prepareTune 0 ++ [late 0] ++ pumps 9 ++ works 0 1) = some s ∧
      s.exchanges 0 = some e ∧ e.pc = .returned (.error .timeout) ∧
      e.before = some (plainPlan 0) ∧
      e.outcome = some { plainPlan 0 with remoteOperating := some () } :=
    ⟨_, _, rfl, rfl, rfl, rfl, rfl⟩
  refine ⟨s, e, ⟨_, _, ⟨0, plainPlan 0, ⟨(), false⟩, rfl⟩, hrun⟩, hi, hpc, fun h => ?_⟩
  have hsame := hbefore.symm.trans (h.failed _ hpc rfl _ hout)
  cases hsame

end RemoteDsp

end Station
end UsbRadioPlus
