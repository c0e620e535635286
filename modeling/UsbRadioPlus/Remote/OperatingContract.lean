import UsbRadioPlus.Remote.Operating

/-!
# What a rig holds behind an accepted state

`ApplyContract` is the purpose of `apply` for one requested state, over every pattern of answers: what
is admitted, what is written, and what an ideal rig holds behind a success. The rig may keep the two
incremental offsets in one register (`cell`).

The checks and the writes agree but for the tone codes and the active offsets; `Programmable` is what
the checks leave open, and `applyContract_iff` says that nothing else is.
-/

namespace UsbRadioPlus
namespace Remote

open Rust Sys Sys.Exchange
open Driver (CallError Setting)

/-! ## The ideal rig -/

/-- The settings that an exchange writes. -/
def RigExchange.stores : RigExchange → List (UInt32 × Int)
  | .set selector value => [(selector, value)]
  | .setModeWidth mode width => [(3, mode), (4, width.toNat)]
  | .setSplitVfos _ enabled _ => [(7, if enabled then 1 else 0)]
  | .setPowerMw power _ _ => [(11, power.toNat)]
  | .setSplitModeWidth mode width => [(22, mode), (23, width.toNat)]

/-- The settings that a call writes. -/
def RigExchange.selectors (x : RigExchange) : List UInt32 := x.stores.map (·.1)

/-- The register of a setting: RIT and XIT may share one. -/
def cell (shared : Bool) (selector : UInt32) : UInt32 := if shared && selector == 10 then 9 else selector

/-- What an event stores: the rig keeps what was written to settings that it declares writable. -/
def HamlibOperating.kept (self : HamlibOperating) : Event RigExchange → List (UInt32 × Int)
  | .exchanged x true => if x.selectors.all self.writable then x.stores else []
  | _ => []

/-- The settings of the rig behind the calls. -/
def HamlibOperating.registers (self : HamlibOperating) (shared : Bool) (regs : UInt32 → Int)
    (t : List (Event RigExchange)) : UInt32 → Int :=
  store regs ((t.flatMap self.kept).map fun q => (cell shared q.1, q.2))

/-! ## The contract -/

/-- RIT is on. -/
def rit (state : RptAdvRemoteState) : Bool := flagged state 16#32

/-- XIT is on. -/
def xit (state : RptAdvRemoteState) : Bool := flagged state 32#32

/-- The signal asks the rig for its tone code. -/
def coded (signal : RptAdvRemoteSignal) : Bool :=
  isRig signal && (signal.enabled ≠ 0 || signal.ctcssTenthsHz ≠ 0)

/-- The settings that a state needs. -/
def needs (state : RptAdvRemoteState) : List UInt32 :=
  [1, 3, 4] ++ (if state.receiveVfo ≠ 0 then [5] else []) ++
  (if split state then [7, 2, 22, 23] else []) ++ (if state.offsetHz ≠ 0 then [8] else []) ++
  (if rit state || state.ritHz ≠ 0 then [9] else []) ++
  (if xit state || state.xitHz ≠ 0 then [10] else []) ++
  (if rit state then [307] else []) ++ (if xit state then [308] else []) ++
  (if powered state then [11] else []) ++
  (signals state).flatMap fun s =>
    (if coded s.1 then [s.2.1] else []) ++ if armed s.1 then [s.2.2] else []

/-- The switches and the shift: they are asked for where they are not at rest, and where the rig has
them. -/
def switches (state : RptAdvRemoteState) : List (UInt32 × Int) :=
  [(7, if split state then 1 else 0), (8, state.offsetHz.toInt), (307, if rit state then 1 else 0),
    (308, if xit state then 1 else 0), (16, if armed state.encode then 1 else 0),
    (17, if armed state.decode then 1 else 0)]

/-- The values that a state asks for. -/
def HamlibOperating.requests (self : HamlibOperating) (state : RptAdvRemoteState) :
    List (UInt32 × Int) :=
  [(1, (state.receiveHz.toNat : Int)), (3, (state.mode.toNat : Int)),
    (4, (state.bandwidthHz.toNat : Int))] ++
  (if state.receiveVfo ≠ 0 then [(5, (state.receiveVfo.toNat : Int))] else []) ++
  (if split state then
    [(2, (state.transmitHz.toNat : Int)), (22, (state.mode.toNat : Int)),
      (23, (state.bandwidthHz.toNat : Int))] else []) ++
  (if rit state then [(9, state.ritHz.toInt)] else []) ++
  (if xit state then [(10, state.xitHz.toInt)] else []) ++
  ((signals state).flatMap fun s =>
    if coded s.1 then [(s.2.1, (s.1.ctcssTenthsHz.toNat : Int))] else []) ++
  (switches state).filter fun q => q.2 ≠ 0 || self.writable q.1

/-- Over every pattern of cancellations and failures. -/
structure ApplyContract (operating : HamlibOperating) (state : RptAdvRemoteState) : Prop where
  /-- Nothing is written unless every setting that the state needs is writable. -/
  admitted : ∀ answers r t, operating.apply answers state [] = some (r, t) →
    ∀ x ok, .exchanged x ok ∈ t → ∀ selector ∈ needs state, operating.writable selector
  /-- Only settings that are declared writable are written. -/
  declared : ∀ answers r t, operating.apply answers state [] = some (r, t) →
    ∀ x ok, .exchanged x ok ∈ t → ∀ selector ∈ x.selectors, operating.writable selector
  /-- A cancellation or a failure is the last event. -/
  ends : ∀ answers r t, operating.apply answers state [] = some (r, t) →
    ∀ pre e post, t = pre ++ e :: post → e.Ends → post = []
  /-- Behind a success an ideal rig holds what was asked for. -/
  holds : ∀ answers t, operating.apply answers state [] = some (.ok (), t) →
    ∀ shared regs, (shared = true → ¬(rit state ∧ xit state)) →
      ∀ q ∈ operating.requests state, operating.registers shared regs t (cell shared q.1) = q.2

/-- The frequencies fit the exchanges. -/
def Fits (state : RptAdvRemoteState) : Prop :=
  (toI64 state.receiveHz).isOk ∧ (split state → (toI64 state.transmitHz).isOk) ∧
    (powered state → (effectiveTransmit state).isOk)

/-- What the checks leave open: the offsets that are active and the tone codes that are written belong
to writable settings, and a signal that is armed has a tone. -/
structure Programmable (operating : HamlibOperating) (state : RptAdvRemoteState) : Prop where
  rit : rit state → operating.writable 9
  xit : xit state → operating.writable 10
  code : ∀ s ∈ signals state, isRig s.1 → s.1.ctcssTenthsHz ≠ 0 → operating.writable s.2.1
  tone : Fits state → ∀ s ∈ signals state, armed s.1 → s.1.ctcssTenthsHz ≠ 0

namespace HamlibOperating

variable {self : HamlibOperating} {state : RptAdvRemoteState}

/-! ## Validation -/

theorem refuse_eq_ok_iff {c : Bool} {u : Unit} : refuse c = .ok u ↔ c = false := by
  cases c with
  | false => exact iff_of_true rfl rfl
  | true => exact iff_of_false (fun h => (nomatch h)) (fun h => (nomatch h))

theorem require_eq_ok_iff {selector : UInt32} {needed : Bool} {u : Unit} :
    self.require selector needed = .ok u ↔ (needed → self.writable selector) := by
  rw [require, refuse_eq_ok_iff]
  cases needed <;> simp

/-- What the checks establish. -/
structure Accepted (operating : HamlibOperating) (state : RptAdvRemoteState) : Prop where
  tuned : operating.writable 1 ∧ operating.writable 3 ∧ operating.writable 4
  vfo : state.receiveVfo ≠ 0 → operating.writable 5
  split : split state → operating.writable 7 ∧ operating.writable 2 ∧ operating.writable 22 ∧ operating.writable 23
  offset : state.offsetHz ≠ 0 → operating.writable 8
  rit : state.ritHz ≠ 0 → operating.writable 9
  xit : state.xitHz ≠ 0 → operating.writable 10
  ritEnable : Remote.rit state → operating.writable 307
  xitEnable : Remote.xit state → operating.writable 308
  power : powered state → operating.writable 11
  armed : ∀ s ∈ signals state, armed s.1 → operating.writable s.2.1 ∧ operating.writable s.2.2

theorem accepted (h : self.validate state = .ok ()) : self.Accepted state := by
  simp only [validate, bind_eq_ok_iff, require_eq_ok_iff, refuse_eq_ok_iff, forM_eq_ok_iff,
    decide_eq_true_eq, forall_const, exists_const] at h
  obtain ⟨h1, h3, h4, h5, h7, h2, h22, h23, h8, h9, h10, h307, h308, -, h11, -, hsignals⟩ := h
  refine ⟨⟨h1, h3, h4⟩, h5, fun hs => ⟨h7 hs, h2 hs, h22 hs, h23 hs⟩, h8, h9, h10, h307, h308, h11,
    fun s hs harmed => ?_⟩
  have hsignal := hsignals s hs
  rw [validateSignal, if_pos harmed] at hsignal
  simp only [bind_eq_ok_iff, require_eq_ok_iff, forall_const, exists_const] at hsignal
  obtain ⟨_, -, hwritable⟩ := hsignal
  exact hwritable


/-! ## The exchanges of a program -/

/-- An exchange of the program of a state, with the condition that it stands under. -/
inductive Planned (self : HamlibOperating) (state : RptAdvRemoteState) : RigExchange → Prop
  | vfo (h : state.receiveVfo ≠ 0) : Planned self state (.set 5 state.receiveVfo.toNat)
  | splitVfos (h : self.writable 7) :
    Planned self state
      (.setSplitVfos state.receiveVfo.toNat (Remote.split state) state.transmitVfo.toNat)
  | modeWidth : Planned self state (.setModeWidth state.mode.toNat state.bandwidthHz)
  | receive {value : Int} (h : toI64 state.receiveHz = .ok value) : Planned self state (.set 1 value)
  | transmit {value : Int} (hs : Remote.split state) (h : toI64 state.transmitHz = .ok value) :
    Planned self state (.set 2 value)
  | splitModeWidth (hs : Remote.split state) :
    Planned self state (.setSplitModeWidth state.mode.toNat state.bandwidthHz)
  | offset (h : self.writable 8) : Planned self state (.set 8 state.offsetHz.toInt)
  | incremental {o : UInt32 × Int64 × BitVec 32 × Option Int64} (ho : o ∈ self.offsets state)
    (h : self.writesOffset state o) : Planned self state (.set o.1 o.2.1.toInt)
  | ritEnable (h : self.writable 307) :
    Planned self state (.set 307 (if Remote.rit state then 1 else 0))
  | xitEnable (h : self.writable 308) :
    Planned self state (.set 308 (if Remote.xit state then 1 else 0))
  | power {transmit : Nat} (hp : powered state) (h : effectiveTransmit state = .ok transmit) :
    Planned self state (.setPowerMw state.powerMw transmit state.mode.toNat)
  | code {s : RptAdvRemoteSignal × UInt32 × UInt32} (hs : s ∈ signals state) (h : isRig s.1)
    (hcode : s.1.ctcssTenthsHz ≠ 0) : Planned self state (.set s.2.1 s.1.ctcssTenthsHz.toNat)
  | enable {s : RptAdvRemoteSignal × UInt32 × UInt32} (hs : s ∈ signals state)
    (h : self.writable s.2.2) : Planned self state (.set s.2.2 (if Remote.armed s.1 then 1 else 0))

theorem mem_when_iff {c : Bool} {x : Except CallError RigExchange} {step : RigStep} :
    step ∈ when c x ↔ c ∧ step = .call x := by
  cases c <;> simp [when]

theorem mem_sortByKey_iff {α : Type} {key : α → Bool} {l : List α} {a : α} :
    a ∈ sortByKey key l ↔ a ∈ l := by
  cases h : key a <;> simp [sortByKey, h]

theorem ok_eq_map_iff {v : UInt64} {f : Int → RigExchange} {x : RigExchange} :
    .ok x = (toI64 v).map f ↔ ∃ value, toI64 v = .ok value ∧ x = f value := by
  cases toI64 v <;> simp [Except.map]

theorem mem_splitSteps_iff {x : RigExchange} :
    .call (.ok x) ∈ splitSteps state ↔ Remote.split state ∧
      ((∃ value, toI64 state.transmitHz = .ok value ∧ x = .set 2 value) ∨
        x = .setSplitModeWidth state.mode.toNat state.bandwidthHz) := by
  cases hs : Remote.split state with
  | false => simp [splitSteps, hs]
  | true =>
    simp only [splitSteps, hs, if_true, List.mem_cons, List.not_mem_nil, or_false, ok_eq_map_iff,
      Step.call.injEq, Except.ok.injEq, true_and]

theorem mem_powerSteps_iff {x : RigExchange} :
    .call (.ok x) ∈ powerSteps state ↔ powered state ∧ ∃ transmit,
      effectiveTransmit state = .ok transmit ∧
        x = .setPowerMw state.powerMw transmit state.mode.toNat := by
  cases hp : powered state with
  | false => simp [powerSteps, hp]
  | true => cases ht : effectiveTransmit state <;> simp [powerSteps, hp, ht]

theorem mem_program_iff {x : RigExchange} :
    .call (.ok x) ∈ self.program state ↔ Planned self state x := by
  simp only [program, tuningSteps, List.mem_append, mem_when_iff, List.mem_singleton, ok_eq_map_iff,
    mem_splitSteps_iff, mem_powerSteps_iff, offsetSteps, enableSteps, signalSteps, List.mem_flatMap,
    mem_sortByKey_iff, Step.call.injEq, Except.ok.injEq, decide_eq_true_eq, Bool.and_eq_true]
  constructor
  · rintro (((((((((⟨h, rfl⟩ | ⟨h, rfl⟩) | rfl) | ⟨value, h, rfl⟩) |
      ⟨hs, ⟨value, h, rfl⟩ | rfl⟩) | ⟨h, rfl⟩) | ⟨o, ho, h, rfl⟩) | ⟨e, he, h, rfl⟩) |
      ⟨hp, transmit, h, rfl⟩) | ⟨s, hs, ⟨⟨h, hcode⟩, rfl⟩ | ⟨h, rfl⟩⟩)
    · exact .vfo h
    · exact .splitVfos h
    · exact .modeWidth
    · exact .receive h
    · exact .transmit hs h
    · exact .splitModeWidth hs
    · exact .offset h
    · exact .incremental ho h
    · rcases List.mem_pair.mp he with rfl | rfl
      · exact .ritEnable h
      · exact .xitEnable h
    · exact .power hp h
    · exact .code hs h hcode
    · exact .enable hs h
  · intro h
    cases h with
    | vfo h => exact .inl (.inl (.inl (.inl (.inl (.inl (.inl (.inl (.inl ⟨h, rfl⟩))))))))
    | splitVfos h => exact .inl (.inl (.inl (.inl (.inl (.inl (.inl (.inl (.inr ⟨h, rfl⟩))))))))
    | modeWidth => exact .inl (.inl (.inl (.inl (.inl (.inl (.inl (.inr rfl)))))))
    | receive h => exact .inl (.inl (.inl (.inl (.inl (.inl (.inr ⟨_, h, rfl⟩))))))
    | transmit hs h => exact .inl (.inl (.inl (.inl (.inl (.inr ⟨hs, .inl ⟨_, h, rfl⟩⟩)))))
    | splitModeWidth hs => exact .inl (.inl (.inl (.inl (.inl (.inr ⟨hs, .inr rfl⟩)))))
    | offset h => exact .inl (.inl (.inl (.inl (.inr ⟨h, rfl⟩))))
    | incremental ho h => exact .inl (.inl (.inl (.inr ⟨_, ho, h, rfl⟩)))
    | ritEnable h => exact .inl (.inl (.inr ⟨(307, 16#32), by simp, h, rfl⟩))
    | xitEnable h => exact .inl (.inl (.inr ⟨(308, 32#32), by simp, h, rfl⟩))
    | power hp h => exact .inl (.inr ⟨hp, _, h, rfl⟩)
    | code hs h hcode => exact .inr ⟨_, hs, .inl ⟨⟨h, hcode⟩, rfl⟩⟩
    | enable hs h => exact .inr ⟨_, hs, .inr ⟨h, rfl⟩⟩

/-! ## What is written -/

theorem forall_mem_pair {α : Type} {p : α → Prop} {a b : α} : (∀ c ∈ [a, b], p c) ↔ p a ∧ p b := by
  rw [List.forall_mem_cons, List.forall_mem_singleton]

theorem forall_mem_if {α : Type} {p : α → Prop} {c : Prop} [Decidable c] {l : List α} :
    (∀ a ∈ if c then l else [], p a) ↔ (c → ∀ a ∈ l, p a) := by
  split <;> simp [*]

theorem toI64_eq_ok {v : UInt64} {value : Int} (h : toI64 v = .ok value) : value = v.toNat := by
  unfold toI64 at h
  split at h
  · exact (Except.ok.inj h).symm
  · nomatch h

theorem coded_iff (signal : RptAdvRemoteSignal) :
    coded signal ↔ isRig signal ∧ (signal.enabled ≠ 0 ∨ signal.ctcssTenthsHz ≠ 0) := by
  simp [coded]

theorem armed_iff (signal : RptAdvRemoteSignal) :
    armed signal ↔ isRig signal ∧ signal.enabled ≠ 0 := by
  simp [armed]

theorem needs_writable (h : self.Accepted state) (hp : Programmable self state) :
    ∀ selector ∈ needs state, self.writable selector := by
  simp only [needs, List.forall_mem_append, forall_mem_if, List.forall_mem_cons, List.not_mem_nil,
    false_implies, implies_true, and_true, List.forall_mem_flatMap, Bool.or_eq_true,
    decide_eq_true_eq]
  refine ⟨⟨⟨⟨⟨⟨⟨⟨⟨h.tuned, h.vfo⟩, h.split⟩, h.offset⟩, ?_⟩, ?_⟩, h.ritEnable⟩, h.xitEnable⟩, h.power⟩,
    ?_⟩
  · exact fun hr => hr.elim hp.rit h.rit
  · exact fun hx => hx.elim hp.xit h.xit
  · refine fun s hs => ⟨fun hcoded => ?_, fun harmed => (h.armed s hs harmed).2⟩
    obtain ⟨hrig, henabled | hcode⟩ := (coded_iff s.1).mp hcoded
    · exact (h.armed s hs ((armed_iff s.1).mpr ⟨hrig, henabled⟩)).1
    · exact hp.code s hs hrig hcode

/-- Only declared settings are written. -/
theorem Planned.declared {x : RigExchange} (hx : self.Planned state x) (h : self.Accepted state)
    (hp : Programmable self state) : ∀ selector ∈ x.selectors, self.writable selector := by
  cases hx with
  | vfo hvfo => exact List.forall_mem_singleton.mpr (h.vfo hvfo)
  | splitVfos h7 => exact List.forall_mem_singleton.mpr h7
  | modeWidth => exact forall_mem_pair.mpr ⟨h.tuned.2.1, h.tuned.2.2⟩
  | receive _ => exact List.forall_mem_singleton.mpr h.tuned.1
  | transmit hs _ => exact List.forall_mem_singleton.mpr (h.split hs).2.1
  | splitModeWidth hs => exact forall_mem_pair.mpr (h.split hs).2.2
  | offset h8 => exact List.forall_mem_singleton.mpr h8
  | incremental _ hw => exact List.forall_mem_singleton.mpr (Bool.and_eq_true_iff.mp hw).1
  | ritEnable hw => exact List.forall_mem_singleton.mpr hw
  | xitEnable hw => exact List.forall_mem_singleton.mpr hw
  | power hpower _ => exact List.forall_mem_singleton.mpr (h.power hpower)
  | code hs hrig hcode => exact List.forall_mem_singleton.mpr (hp.code _ hs hrig hcode)
  | enable _ hw => exact List.forall_mem_singleton.mpr hw

/-- The value of each setting behind a success. -/
def target (state : RptAdvRemoteState) : UInt32 → Int
  | 1 => state.receiveHz.toNat
  | 2 => state.transmitHz.toNat
  | 3 | 22 => state.mode.toNat
  | 4 | 23 => state.bandwidthHz.toNat
  | 5 => state.receiveVfo.toNat
  | 7 => if Remote.split state then 1 else 0
  | 8 => state.offsetHz.toInt
  | 9 => state.ritHz.toInt
  | 10 => state.xitHz.toInt
  | 11 => state.powerMw.toNat
  | 12 => state.encode.ctcssTenthsHz.toNat
  | 13 => state.decode.ctcssTenthsHz.toNat
  | 16 => if armed state.encode then 1 else 0
  | 17 => if armed state.decode then 1 else 0
  | 307 => if Remote.rit state then 1 else 0
  | 308 => if Remote.xit state then 1 else 0
  | _ => 0

theorem Planned.target_eq {x : RigExchange} (hx : self.Planned state x) :
    ∀ q ∈ x.stores, q.2 = target state q.1 := by
  cases hx with
  | vfo _ | splitVfos _ | offset _ | ritEnable _ | xitEnable _ | power _ _ =>
    exact List.forall_mem_singleton.mpr rfl
  | modeWidth | splitModeWidth _ => exact forall_mem_pair.mpr ⟨rfl, rfl⟩
  | receive h | transmit _ h => exact List.forall_mem_singleton.mpr (toI64_eq_ok h)
  | incremental ho _ =>
    rcases List.mem_pair.mp ho with rfl | rfl <;> exact List.forall_mem_singleton.mpr rfl
  | code hs _ _ | enable hs _ =>
    rcases List.mem_pair.mp hs with rfl | rfl <;> exact List.forall_mem_singleton.mpr rfl

theorem requests_target : ∀ q ∈ self.requests state, q.2 = target state q.1 := by
  simp only [requests, List.forall_mem_append, forall_mem_if, List.forall_mem_cons, List.not_mem_nil,
    false_implies, implies_true, and_true, List.forall_mem_filter, switches, signals,
    List.forall_mem_flatMap]
  exact ⟨⟨⟨⟨⟨⟨⟨rfl, rfl, rfl⟩, fun _ => rfl⟩, fun _ => ⟨rfl, rfl, rfl⟩⟩, fun _ => rfl⟩, fun _ => rfl⟩,
      fun _ => rfl, fun _ => rfl⟩,
    fun _ => rfl, fun _ => rfl, fun _ => rfl, fun _ => rfl, fun _ => rfl, fun _ => rfl⟩

/-- A switch that is asked for can be written. -/
theorem switch_writable {b : Bool} {selector : UInt32} (h : b → self.writable selector)
    (hasked : (decide ((if b then 1 else 0 : Int) ≠ 0) || self.writable selector) = true) :
    self.writable selector := by
  cases b with
  | true => exact h rfl
  | false => simpa using hasked

theorem toI64_of_isOk {v : UInt64} (h : (toI64 v).isOk) : toI64 v = .ok (v.toNat : Int) := by
  cases hv : toI64 v with
  | error e =>
    rw [hv] at h
    nomatch h
  | ok value => rw [toI64_eq_ok hv]

theorem writesOffset_of_active {o : UInt32 × Int64 × BitVec 32 × Option Int64}
    (hw : self.writable o.1) (hflag : flagged state o.2.2.1) : self.writesOffset state o := by
  rw [writesOffset, hw, hflag]
  rfl

theorem code_planned (hp : Programmable self state) (hf : Fits state)
    {s : RptAdvRemoteSignal × UInt32 × UInt32} (hs : s ∈ signals state) (hcoded : coded s.1) :
    self.Planned state (.set s.2.1 s.1.ctcssTenthsHz.toNat) := by
  obtain ⟨hrig, hasked⟩ := (coded_iff s.1).mp hcoded
  have hcode : s.1.ctcssTenthsHz ≠ 0 := hasked.elim
    (fun henabled => hp.tone hf s hs ((armed_iff s.1).mpr ⟨hrig, henabled⟩)) id
  exact .code hs hrig hcode

/-- What is asked for is written. -/
theorem requests_planned (h : self.Accepted state) (hp : Programmable self state) (hf : Fits state) :
    ∀ q ∈ self.requests state, ∃ x, self.Planned state x ∧ q ∈ x.stores := by
  have hencode : (state.encode, 12, 16) ∈ signals state := List.mem_cons_self
  have hdecode : (state.decode, 13, 17) ∈ signals state := List.mem_cons_of_mem _ List.mem_cons_self
  simp only [requests, List.forall_mem_append, forall_mem_if, List.forall_mem_cons, List.not_mem_nil,
    false_implies, implies_true, and_true, List.forall_mem_filter, switches, List.forall_mem_flatMap]
  refine ⟨⟨⟨⟨⟨⟨⟨?_, ?_, ?_⟩, fun hv => ?_⟩, fun hs => ⟨?_, ?_, ?_⟩⟩, fun hr => ?_⟩, fun hx => ?_⟩,
      fun s hs hc => ⟨_, code_planned hp hf hs hc, List.mem_cons_self⟩⟩,
    fun h7 => ?_, fun h8 => ?_, fun hr => ?_, fun hx => ?_, fun he => ?_, fun hd => ?_⟩
  · exact ⟨_, .receive (toI64_of_isOk hf.1), List.mem_cons_self⟩
  · exact ⟨_, .modeWidth, List.mem_cons_self⟩
  · exact ⟨_, .modeWidth, List.mem_cons_of_mem _ List.mem_cons_self⟩
  · exact ⟨_, .vfo hv, List.mem_cons_self⟩
  · exact ⟨_, .transmit hs (toI64_of_isOk (hf.2.1 hs)), List.mem_cons_self⟩
  · exact ⟨_, .splitModeWidth hs, List.mem_cons_self⟩
  · exact ⟨_, .splitModeWidth hs, List.mem_cons_of_mem _ List.mem_cons_self⟩
  · exact ⟨_, .incremental List.mem_cons_self (writesOffset_of_active (hp.rit hr) hr),
      List.mem_cons_self⟩
  · exact ⟨_, .incremental (List.mem_cons_of_mem _ List.mem_cons_self)
      (writesOffset_of_active (hp.xit hx) hx), List.mem_cons_self⟩
  · exact ⟨_, .splitVfos (switch_writable (fun hs => (h.split hs).1) h7), List.mem_cons_self⟩
  · refine ⟨_, .offset ?_, List.mem_cons_self⟩
    by_cases h0 : state.offsetHz = 0
    · simpa [h0] using h8
    · exact h.offset h0
  · exact ⟨_, .ritEnable (switch_writable h.ritEnable hr), List.mem_cons_self⟩
  · exact ⟨_, .xitEnable (switch_writable h.xitEnable hx), List.mem_cons_self⟩
  · exact ⟨_, .enable hencode (switch_writable (fun harmed => (h.armed _ hencode harmed).2) he),
      List.mem_cons_self⟩
  · exact ⟨_, .enable hdecode (switch_writable (fun harmed => (h.armed _ hdecode harmed).2) hd),
      List.mem_cons_self⟩

/-! ## What the rig holds -/

theorem isOk_map {v : UInt64} {f : Int → RigExchange} : ((toI64 v).map f).isOk = (toI64 v).isOk := by
  cases toI64 v <;> rfl

theorem good_call {x : Except CallError RigExchange} :
    Step.Good (.call x : RigStep) ↔ x.isOk := Iff.rfl

theorem good_when {c : Bool} {x : RigExchange} : (∀ step ∈ when c (.ok x), step.Good) ↔ True := by
  refine iff_true_intro fun step hstep => ?_
  obtain ⟨-, rfl⟩ := mem_when_iff.mp hstep
  rfl

/-- The program refuses nothing where the frequencies fit. -/
theorem good_iff_fits : (∀ step ∈ self.program state, step.Good) ↔ Fits state := by
  have hsplit : (∀ step ∈ splitSteps state, step.Good) ↔
      (Remote.split state → (toI64 state.transmitHz).isOk) := by
    cases hs : Remote.split state <;> simp [splitSteps, hs, Step.Good, isOk_map]
    exact fun _ => rfl
  have hpower : (∀ step ∈ powerSteps state, step.Good) ↔
      (powered state → (effectiveTransmit state).isOk) := by
    cases hp : powered state <;> cases ht : effectiveTransmit state <;>
      simp [powerSteps, hp, ht, Step.Good, Except.isOk, Except.toBool]
  simp only [program, tuningSteps, List.forall_mem_append, offsetSteps, enableSteps, signalSteps,
    List.forall_mem_flatMap, good_when, List.forall_mem_singleton, hsplit, hpower, implies_true,
    true_and, and_true, good_call, isOk_map, Fits]
  constructor
  · rintro ⟨⟨⟨-, h1⟩, h2⟩, h3⟩
    exact ⟨h1, h2, h3⟩
  · rintro ⟨h1, h2, h3⟩
    exact ⟨⟨⟨rfl, h1⟩, h2⟩, h3⟩

theorem kept_eq {xs : List RigExchange} (h : ∀ x ∈ xs, ∀ s ∈ x.selectors, self.writable s) :
    (xs.map (.exchanged · true)).flatMap self.kept = xs.flatMap RigExchange.stores := by
  rw [List.flatMap_map]
  refine List.flatMap_congr fun x hx => ?_
  simp only [kept, List.all_eq_true.mpr (h x hx), if_true]

/-- The setting is not an offset. -/
def Apart (selector : UInt32) : Prop := selector ≠ 9 ∧ selector ≠ 10

instance (selector : UInt32) : Decidable (Apart selector) := inferInstanceAs (Decidable (_ ∧ _))

theorem set_apart (selector : UInt32) {value : Int} (h : Apart selector) :
    ∀ q ∈ (RigExchange.set selector value).stores, Apart q.1 := List.forall_mem_singleton.mpr h

/-- Behind the offsets no exchange writes one. -/
theorem apart_of_mem {x : RigExchange}
    (hx : .call (.ok x) ∈ self.enableSteps state ++ powerSteps state ++
      (signals state).flatMap self.signalSteps) : ∀ q ∈ x.stores, Apart q.1 := by
  simp only [List.mem_append, enableSteps, signalSteps, List.mem_flatMap, mem_when_iff,
    mem_powerSteps_iff, Step.call.injEq, Except.ok.injEq] at hx
  rcases hx with (⟨e, he, -, rfl⟩ | ⟨-, transmit, -, rfl⟩) | ⟨s, hs, ⟨-, rfl⟩ | ⟨-, rfl⟩⟩
  · rcases List.mem_pair.mp he with rfl | rfl
    · exact set_apart 307 (by decide)
    · exact set_apart 308 (by decide)
  · exact List.forall_mem_singleton.mpr (show Apart 11 by decide)
  · rcases List.mem_pair.mp hs with rfl | rfl
    · exact set_apart 12 (by decide)
    · exact set_apart 13 (by decide)
  · rcases List.mem_pair.mp hs with rfl | rfl
    · exact set_apart 16 (by decide)
    · exact set_apart 17 (by decide)

/-- Where one offset alone is active, it is written last. -/
theorem offsetSteps_rit (h9 : self.writable 9) (hr : Remote.rit state) (hx : ¬Remote.xit state) :
    ∃ front, self.offsetSteps state = front ++ [.call (.ok (.set 9 state.ritHz.toInt))] := by
  have hsort : sortByKey (flagged state ·.2.2.1) (self.offsets state) =
      [(10, state.xitHz, 32#32, self.lastObserved.map (·.xitHz)),
        (9, state.ritHz, 16#32, self.lastObserved.map (·.ritHz))] := by
    rw [rit] at hr
    rw [xit, Bool.not_eq_true] at hx
    simp [sortByKey, offsets, hr, hx]
  have hw : self.writesOffset state (9, state.ritHz, 16#32, self.lastObserved.map (·.ritHz)) :=
    writesOffset_of_active h9 hr
  rw [offsetSteps, hsort, List.flatMap_cons, List.flatMap_cons, List.flatMap_nil, List.append_nil, hw]
  exact ⟨_, rfl⟩

theorem offsetSteps_xit (h10 : self.writable 10) (hr : ¬Remote.rit state) (hx : Remote.xit state) :
    ∃ front, self.offsetSteps state = front ++ [.call (.ok (.set 10 state.xitHz.toInt))] := by
  have hsort : sortByKey (flagged state ·.2.2.1) (self.offsets state) =
      [(9, state.ritHz, 16#32, self.lastObserved.map (·.ritHz)),
        (10, state.xitHz, 32#32, self.lastObserved.map (·.xitHz))] := by
    rw [rit, Bool.not_eq_true] at hr
    rw [xit] at hx
    simp [sortByKey, offsets, hr, hx]
  have hw : self.writesOffset state (10, state.xitHz, 32#32, self.lastObserved.map (·.xitHz)) :=
    writesOffset_of_active h10 hx
  rw [offsetSteps, hsort, List.flatMap_cons, List.flatMap_cons, List.flatMap_nil, List.append_nil, hw]
  exact ⟨_, rfl⟩

theorem requests_offset : ∀ q ∈ self.requests state,
    (q.1 = 9 → Remote.rit state) ∧ (q.1 = 10 → Remote.xit state) := by
  have hother {selector : UInt32} (h : Apart selector) :
      (selector = 9 → Remote.rit state) ∧ (selector = 10 → Remote.xit state) :=
    ⟨fun heq => absurd heq h.1, fun heq => absurd heq h.2⟩
  simp only [requests, List.forall_mem_append, forall_mem_if, List.forall_mem_cons, List.not_mem_nil,
    false_implies, implies_true, and_true, List.forall_mem_filter, switches, signals,
    List.forall_mem_flatMap]
  exact ⟨⟨⟨⟨⟨⟨⟨hother (by decide), hother (by decide), hother (by decide)⟩,
      fun _ => hother (by decide)⟩,
      fun _ => ⟨hother (by decide), hother (by decide), hother (by decide)⟩⟩,
      fun hr => ⟨fun _ => hr, fun h => absurd h (by decide)⟩⟩,
      fun hx => ⟨fun h => absurd h (by decide), fun _ => hx⟩⟩,
      fun _ => hother (by decide), fun _ => hother (by decide)⟩,
    fun _ => hother (by decide), fun _ => hother (by decide), fun _ => hother (by decide),
    fun _ => hother (by decide), fun _ => hother (by decide), fun _ => hother (by decide)⟩

/-- All writes of a program. -/
def writes (self : HamlibOperating) (state : RptAdvRemoteState) : List (UInt32 × Int) :=
  (exchanges (self.program state)).flatMap RigExchange.stores

theorem mem_writes_iff {q : UInt32 × Int} :
    q ∈ self.writes state ↔ ∃ x, self.Planned state x ∧ q ∈ x.stores := by
  simp only [writes, List.mem_flatMap, mem_exchanges_iff, mem_program_iff]

theorem writes_target : ∀ q ∈ self.writes state, q.2 = target state q.1 := by
  intro q hq
  obtain ⟨x, hx, hmem⟩ := mem_writes_iff.mp hq
  exact hx.target_eq q hmem

/-- An active offset behind which no offset is written. -/
theorem writes_split {selector : UInt32} {value : Int}
    (h : ∃ front, self.offsetSteps state = front ++ [.call (.ok (.set selector value))]) :
    ∃ front rest, self.writes state = front ++ (selector, value) :: rest ∧ ∀ q ∈ rest, Apart q.1 := by
  obtain ⟨front, hsteps⟩ := h
  refine ⟨(exchanges (self.tuningSteps state ++ front)).flatMap RigExchange.stores,
    (exchanges (self.enableSteps state ++ powerSteps state ++
      (signals state).flatMap self.signalSteps)).flatMap RigExchange.stores, ?_, ?_⟩
  · simp only [writes, program, hsteps, exchanges, List.filterMap_append, List.flatMap_append,
      List.append_assoc]
    rfl
  · intro q hq
    obtain ⟨x, hx, hmem⟩ := List.mem_flatMap.mp hq
    exact apart_of_mem (mem_exchanges_iff.mp hx) q hmem

theorem cell_of_apart {shared : Bool} {selector : UInt32} (h : Apart selector) :
    cell shared selector = selector := by
  unfold cell
  rw [if_neg]
  simp [h.2]

/-- Settings of different registers. -/
theorem eq_of_cell_eq {shared : Bool} {a b : UInt32} (h : shared = false ∨ Apart b)
    (hcell : cell shared a = cell shared b) : a = b := by
  rcases h with rfl | hb
  · exact hcell
  · rw [cell_of_apart hb] at hcell
    unfold cell at hcell
    split at hcell
    · exact absurd hcell.symm hb.1
    · exact hcell

theorem registers_eq (h : self.Accepted state) (hp : Programmable self state) (shared : Bool)
    (regs : UInt32 → Int) :
    self.registers shared regs ((exchanges (self.program state)).map (.exchanged · true)) =
      store regs ((self.writes state).map fun q => (cell shared q.1, q.2)) := by
  rw [registers, kept_eq fun x hx => (mem_program_iff.mp (mem_exchanges_iff.mp hx)).declared h hp, writes]

/-- An ideal rig holds what was asked for. -/
theorem registers_request (h : self.Accepted state) (hp : Programmable self state) (hf : Fits state)
    {shared : Bool} (hshared : shared = true → ¬(Remote.rit state ∧ Remote.xit state))
    (regs : UInt32 → Int) {q : UInt32 × Int} (hq : q ∈ self.requests state) :
    self.registers shared regs ((exchanges (self.program state)).map (.exchanged · true))
      (cell shared q.1) = q.2 := by
  have htarget := requests_target q hq
  rw [registers_eq h hp]
  by_cases hcell : shared = false ∨ Apart q.1
  · refine store_of_mem ?_ ?_
    · exact List.mem_map.mpr ⟨q, mem_writes_iff.mpr (requests_planned h hp hf q hq), rfl⟩
    · intro p' hp' hk
      obtain ⟨p, hmem, rfl⟩ := List.mem_map.mp hp'
      rw [writes_target p hmem, eq_of_cell_eq hcell hk, htarget]
  · -- The register is shared, and only the offset that was asked for is active.
    obtain ⟨htrue, hoffset⟩ := not_or.mp hcell
    have hboth := hshared (by simpa using htrue)
    have hlast : ∃ front, self.offsetSteps state = front ++ [.call (.ok (.set q.1 q.2))] := by
      by_cases h9 : q.1 = 9
      · have hr := (requests_offset q hq).1 h9
        rw [htarget, h9]
        exact offsetSteps_rit (hp.rit hr) hr fun hx => hboth ⟨hr, hx⟩
      · have h10 : q.1 = 10 := by_contra fun h10 => hoffset ⟨h9, h10⟩
        have hx := (requests_offset q hq).2 h10
        rw [htarget, h10]
        exact offsetSteps_xit (hp.xit hx) (fun hr => hboth ⟨hr, hx⟩) hx
    obtain ⟨front, rest, heq, hrest⟩ := writes_split hlast
    rw [heq, List.map_append, List.map_cons]
    refine store_of_suffix List.mem_cons_self ?_
    intro p' hp' hk
    rcases List.mem_cons.mp hp' with rfl | hp'
    · rfl
    · obtain ⟨p, hmem, rfl⟩ := List.mem_map.mp hp'
      exact absurd (eq_of_cell_eq (.inr (hrest p hmem)) hk.symm ▸ hrest p hmem) hoffset

/-! ## Runs -/

theorem apply_accepted (answers : Answers CallError) (h : self.validate state = .ok ()) :
    self.apply answers state [] = perform (-10) answers (self.program state) [] := by
  rw [apply_eq, Fallible.bind_apply, Fallible.of, h]

theorem apply_refused (answers : Answers CallError) {e : CallError} (h : self.validate state = .error e) :
    self.apply answers state [] = some (.error e, []) := by
  rw [apply_eq, Fallible.bind_apply, Fallible.of, h]

/-- What a run leaves. -/
theorem apply_follows {answers : Answers CallError} {r : Except CallError Unit}
    {t : List (Event RigExchange)} (h : self.validate state = .ok ())
    (hrun : self.apply answers state [] = some (r, t)) : Follows (self.program state) r t := by
  obtain ⟨r', u, hperform, hfollows⟩ := perform_follows (-10) answers (self.program state) []
  rw [apply_accepted answers h, hperform] at hrun
  obtain ⟨rfl, rfl⟩ := Prod.mk.inj (Option.some.inj hrun)
  exact hfollows

/-- An undisturbed run sets the mode, whatever follows. -/
theorem apply_calm_writes (h : self.validate state = .ok ()) :
    ∃ r t, self.apply calm state [] = some (r, t) ∧
      .exchanged (.setModeWidth state.mode.toNat state.bandwidthHz) true ∈ t := by
  rw [apply_accepted calm h, program, tuningSteps]
  simp only [List.append_assoc, List.singleton_append]
  rw [← List.append_assoc]
  refine perform_calm_mem (List.forall_mem_append.mpr ⟨?_, ?_⟩) []
  · exact good_when.mpr trivial
  · exact good_when.mpr trivial

/-- An undisturbed run makes every exchange where the frequencies fit. -/
theorem apply_calm (h : self.validate state = .ok ()) (hf : Fits state) :
    self.apply calm state [] =
      some (.ok (), (exchanges (self.program state)).map (.exchanged · true)) := by
  rw [apply_accepted calm h, perform_calm (good_iff_fits.mpr hf), List.nil_append]

/-- A tone code is written where there is one. -/
theorem Planned.tone {s : RptAdvRemoteSignal × UInt32 × UInt32} (hs : s ∈ signals state)
    {x : RigExchange} (hx : self.Planned state x) :
    ∀ q ∈ x.stores, q.1 = s.2.1 → s.1.ctcssTenthsHz ≠ 0 := by
  have hselector : s.2.1 = 12 ∨ s.2.1 = 13 := by
    rcases List.mem_pair.mp hs with rfl | rfl
    · exact .inl rfl
    · exact .inr rfl
  have hother (selector : UInt32) (h : selector ≠ 12 ∧ selector ≠ 13) :
      selector = s.2.1 → s.1.ctcssTenthsHz ≠ 0 := fun heq =>
    absurd (hselector.imp heq.trans heq.trans) (not_or.mpr h)
  cases hx with
  | vfo _ => exact List.forall_mem_singleton.mpr (hother 5 (by decide))
  | splitVfos _ => exact List.forall_mem_singleton.mpr (hother 7 (by decide))
  | receive _ => exact List.forall_mem_singleton.mpr (hother 1 (by decide))
  | transmit _ _ => exact List.forall_mem_singleton.mpr (hother 2 (by decide))
  | offset _ => exact List.forall_mem_singleton.mpr (hother 8 (by decide))
  | ritEnable _ => exact List.forall_mem_singleton.mpr (hother 307 (by decide))
  | xitEnable _ => exact List.forall_mem_singleton.mpr (hother 308 (by decide))
  | power _ _ => exact List.forall_mem_singleton.mpr (hother 11 (by decide))
  | modeWidth => exact forall_mem_pair.mpr ⟨hother 3 (by decide), hother 4 (by decide)⟩
  | splitModeWidth _ => exact forall_mem_pair.mpr ⟨hother 22 (by decide), hother 23 (by decide)⟩
  | incremental ho _ =>
    rcases List.mem_pair.mp ho with rfl | rfl
    · exact List.forall_mem_singleton.mpr (hother 9 (by decide))
    · exact List.forall_mem_singleton.mpr (hother 10 (by decide))
  | enable hs' _ =>
    rcases List.mem_pair.mp hs' with rfl | rfl
    · exact List.forall_mem_singleton.mpr (hother 16 (by decide))
    · exact List.forall_mem_singleton.mpr (hother 17 (by decide))
  | code hs' _ hcode =>
    refine List.forall_mem_singleton.mpr fun heq => ?_
    rcases List.mem_pair.mp hs with rfl | rfl <;> rcases List.mem_pair.mp hs' with rfl | rfl
    · exact hcode
    · exact absurd heq (show (13 : UInt32) ≠ 12 by decide)
    · exact absurd heq (show (12 : UInt32) ≠ 13 by decide)
    · exact hcode

end HamlibOperating

/-! ## The law -/

open HamlibOperating in
/-- Where the contract holds of an accepted state, nothing is left open. -/
theorem ApplyContract.programmable {operating : HamlibOperating} {state : RptAdvRemoteState}
    (h : ApplyContract operating state) (hvalid : operating.validate state = .ok ()) :
    Programmable operating state := by
  obtain ⟨r, t, hrun, hwrite⟩ := apply_calm_writes hvalid
  have hneeds := h.admitted calm r t hrun _ true hwrite
  refine ⟨fun hr => hneeds 9 ?_, fun hx => hneeds 10 ?_, fun s hs hrig hcode => hneeds s.2.1 ?_,
    fun hf s hs harmed hzero => ?_⟩
  · simp [needs, hr]
  · simp [needs, hx]
  · have hcoded : coded s.1 := (coded_iff s.1).mpr ⟨hrig, .inr hcode⟩
    exact List.mem_append_right _ (List.mem_flatMap.mpr ⟨s, hs, by simp [hcoded]⟩)
  · -- A rig that held a tone holds it still.
    have hcalm := apply_calm hvalid hf
    obtain ⟨hrig, henabled⟩ := (armed_iff s.1).mp harmed
    have hcoded : coded s.1 := (coded_iff s.1).mpr ⟨hrig, .inl henabled⟩
    have hrequest : (s.2.1, (s.1.ctcssTenthsHz.toNat : Int)) ∈ operating.requests state := by
      refine List.mem_append_left _ (List.mem_append_right _ (List.mem_flatMap.mpr ⟨s, hs, ?_⟩))
      simp [hcoded]
    have hheld := h.holds calm _ hcalm false (fun _ => 1) (fun hfalse => (nomatch hfalse)) _ hrequest
    have hdeclared : ∀ x ∈ exchanges (operating.program state), ∀ s ∈ x.selectors,
        operating.writable s := fun x hx =>
      h.declared calm _ _ hcalm x true (List.mem_map.mpr ⟨x, hx, rfl⟩)
    rw [registers, kept_eq hdeclared, store_of_forall_ne, hzero] at hheld
    · exact absurd hheld (show (1 : Int) ≠ 0 by decide)
    · intro p hp heq
      obtain ⟨q, hq, rfl⟩ := List.mem_map.mp hp
      obtain ⟨x, hx, hmem⟩ := mem_writes_iff.mp hq
      exact hx.tone hs q hmem heq hzero

open HamlibOperating in
/-- The contract holds exactly where the state is refused or nothing is left open. -/
theorem applyContract_iff (operating : HamlibOperating) (state : RptAdvRemoteState) :
    ApplyContract operating state ↔
      (operating.validate state = .ok () → Programmable operating state) := by
  refine ⟨fun h hvalid => h.programmable hvalid, fun h => ?_⟩
  cases hvalid : operating.validate state with
  | error e =>
    have hnone {answers : Answers CallError} {r : Except CallError Unit} {t : List (Event RigExchange)}
        (hrun : operating.apply answers state [] = some (r, t)) : r = .error e ∧ t = [] := by
      rw [apply_refused answers hvalid] at hrun
      obtain ⟨rfl, rfl⟩ := Prod.mk.inj (Option.some.inj hrun)
      exact ⟨rfl, rfl⟩
    refine ⟨fun _ _ _ hrun _ _ hx => ?_, fun _ _ _ hrun _ _ hx => ?_, fun _ _ _ hrun pre _ _ ht => ?_,
      fun _ _ hrun => ?_⟩
    · rw [(hnone hrun).2] at hx
      nomatch hx
    · rw [(hnone hrun).2] at hx
      nomatch hx
    · rw [(hnone hrun).2] at ht
      exact absurd ht.symm (by simp)
    · nomatch (hnone hrun).1
  | ok _ =>
    have hp := h hvalid
    have hacc := accepted hvalid
    refine ⟨fun _ _ _ _ _ _ _ => needs_writable hacc hp, fun answers r t hrun x ok hx => ?_,
      fun answers r t hrun => (apply_follows hvalid hrun).ends, fun answers t hrun shared regs hs q hq => ?_⟩
    · exact (mem_program_iff.mp ((apply_follows hvalid hrun).planned x ok hx)).declared hacc hp
    · obtain ⟨rfl, hgood⟩ := (apply_follows hvalid hrun).done rfl
      exact registers_request hacc hp (good_iff_fits.mp hgood) hs regs hq

/-- A rig of which only frequency, mode and width can be written. -/
def plainRig : HamlibOperating :=
  ⟨[1, 3, 4].map fun selector => ⟨selector, true, 0, 0, 0, 0, 0, []⟩, none⟩

/-- The rig's encoder is selected with a tone, and is off. -/
def idleEncoder : RptAdvRemoteState :=
  ⟨146520000, 146520000, 0, 0, 0, 1#32, 1, 0, 0, 0, 0, 0, ⟨3, 0, 0, 1000, 0, 0⟩, ⟨1, 0, 0, 0, 0, 0⟩⟩

/-- The tone code of an encoder that is off is written to a rig that declares no such setting. -/
theorem apply_undeclared_code :
    (∃ t, plainRig.apply calm idleEncoder [] = some (.ok (), t) ∧
      .exchanged (.set 12 1000) true ∈ t) ∧
    plainRig.writable 12 = false ∧ ¬ApplyContract plainRig idleEncoder := by
  have hrun : plainRig.apply calm idleEncoder [] =
      some (.ok (), [.exchanged (.setModeWidth 1 0) true, .exchanged (.set 1 146520000) true,
        .exchanged (.set 12 1000) true]) := by rfl
  have hwrite : (.exchanged (.set 12 1000) true : Event RigExchange) ∈
      [.exchanged (.setModeWidth 1 0) true, .exchanged (.set 1 146520000) true,
        .exchanged (.set 12 1000) true] := by decide
  refine ⟨⟨_, hrun, hwrite⟩, by decide, fun h => ?_⟩
  exact absurd (h.declared calm _ _ hrun _ _ hwrite 12 List.mem_cons_self) (by decide)

end Remote
end UsbRadioPlus
