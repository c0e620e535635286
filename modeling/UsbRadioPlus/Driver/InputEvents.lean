import UsbRadioPlus.Station.Hardware
import UsbRadioPlus.Sys.EdgeLog

/-!
# Input events (`rust/driver/src/hardware_host.rs`, `InputTracker`)

The service reports every ordinary input that changed between two observations of the banks through a
bounded queue, and the control boundary takes the events without waiting. An event that finds the queue
full is dropped and counted. A run lasts as long as the receiver does, from the start of the service to
its stop.

`inputService` interleaves observations, sends and reads. It refines the log of edges of the lines
(`inputService_simulates`), so that the events reconstruct the inputs (`inputEvents_reconstruct`).
-/

namespace UsbRadioPlus
namespace Driver

open Sys Sys.Mask

/-! ## Events -/

/-- A pin in the supported one-through-eight range. -/
structure GpioPin where
  number : Nat
  bounded : 1 ≤ number ∧ number ≤ 8
  deriving DecidableEq

/-- Physical digital input which changed state. -/
inductive HardwareInput where
  | cm119 (pin : GpioPin)
  /-- Physical parallel-port status input. -/
  | parallel (pin : Nat)
  deriving DecidableEq

/-- One ordinary hardware-input edge. -/
structure HardwareInputEvent where
  input : HardwareInput
  active : Bool
  deriving DecidableEq

/-- Pin `index + 1` of the audio adapter. -/
def cm119Input (index : Fin 8) : HardwareInput := .cm119 ⟨index.val + 1, by omega⟩

/-- The pin of the port that a bit of its status reports. -/
def parallelInput (index : Fin 8) : HardwareInput :=
  .parallel (#v[0, 0, 0, 15, 13, 12, 10, 0].get index)

/-- `trailing_zeros` of a mask that is not empty. -/
def trailingZeros (mask : U8) (h : mask ≠ 0) : Fin 8 :=
  ⟨mask.ctz.toNat, BitVec.lt_def.mp (BitVec.ctz_lt_iff_ne_zero.mpr h)⟩

theorem getLsbD_trailingZeros {mask : U8} (h : mask ≠ 0) :
    mask.getLsbD (trailingZeros mask h) = true :=
  BitVec.getLsbD_true_ctz_of_ne_zero h

theorem trailingZeros_le {mask : U8} (h : mask ≠ 0) {i : Fin 8} (hi : mask.getLsbD i = true) :
    trailingZeros mask h ≤ i := by
  by_contra hlt
  have := BitVec.getLsbD_false_of_lt_ctz (x := mask) (i := i) (by
    simpa only [trailingZeros, Fin.le_def, not_le] using hlt)
  rw [hi] at this
  nomatch this

theorem getLsbD_clear_bit (mask : U8) (index i : Fin 8) :
    (mask &&& ~~~(1#8 <<< index.val)).getLsbD i = (mask.getLsbD i && !decide (index = i)) := by
  rw [BitVec.getLsbD_and, BitVec.getLsbD_not, Station.getLsbD_pin, decide_eq_true i.isLt,
    Bool.true_and]

theorem clear_lt {mask : U8} (h : mask ≠ 0) :
    (mask &&& ~~~(1#8 <<< (trailingZeros mask h).val)).toNat < mask.toNat := by
  refine Nat.lt_of_le_of_ne ?_ fun heq => ?_
  · rw [BitVec.toNat_and]
    exact Nat.and_le_left
  · have hbit := congrArg (·.getLsbD (trailingZeros mask h)) (BitVec.eq_of_toNat_eq heq)
    simp only [getLsbD_clear_bit, getLsbD_trailingZeros] at hbit
    simp at hbit

/-- The loop over the changed bits, lowest first. -/
def changedEvents (input : Fin 8 → HardwareInput) (active changed : U8) : List HardwareInputEvent :=
  if h : changed = 0 then []
  else
    let index := trailingZeros changed h
    let bit : U8 := 1#8 <<< index.val
    ⟨input index, active &&& bit != 0⟩ :: changedEvents input active (changed &&& ~~~bit)
termination_by changed.toNat
decreasing_by exact clear_lt h

/-- `publish_changed_inputs`: the first observation of a bank is its baseline. -/
def publishChangedInputs (previous : Option U8) (active configured : U8)
    (input : Fin 8 → HardwareInput) : Option U8 × List HardwareInputEvent :=
  match previous with
  | none => (some active, [])
  | some old => (some active, changedEvents input active ((old ^^^ active) &&& configured))

/-- `InputTracker`: the levels that were published last. -/
structure InputTracker where
  cm119 : Option U8
  parallel : Option U8

/-- The active inputs of the audio adapter; none while it is offline. -/
def cm119Active (cm119 : Cm119Inputs) (cm119InputMask : U8) : U8 :=
  if cm119.online then cm119.gpioInputMask &&& cm119InputMask else 0

/-- The active inputs of the port; none while it is offline. -/
def parallelActive (parallel : Option ParallelInputs) (plan : ParallelPlan) : U8 :=
  (parallel.filter (·.online)).elim 0 (·.statusMask &&& plan.inputMask)

/-- The tracker after an observation, and the events in the order of their sends. -/
def InputTracker.publish (tracker : InputTracker) (cm119 : Cm119Inputs) (cm119InputMask : U8)
    (parallel : Option ParallelInputs) (parallelPlan : Option ParallelPlan) :
    InputTracker × List HardwareInputEvent :=
  let (cm119, events) := publishChangedInputs tracker.cm119 (cm119Active cm119 cm119InputMask)
    cm119InputMask cm119Input
  match parallelPlan with
  | none => (⟨cm119, tracker.parallel⟩, events)
  | some plan =>
    let (parallel, parallelEvents) := publishChangedInputs tracker.parallel
      (parallelActive parallel plan) plan.inputMask parallelInput
    (⟨cm119, parallel⟩, events ++ parallelEvents)

/-! ## The service and the reader -/

/-- `INPUT_EVENT_QUEUE_CAPACITY` -/
def INPUT_EVENT_QUEUE_CAPACITY : Nat := 64

/-- What one pass of the service reads from the banks. -/
structure Observation where
  cm119 : Cm119Inputs
  parallel : Option ParallelInputs

/-- `outbox` holds what the pass has still to send. The last three fields are the history: the
observations, newest first, the events that were taken, and the number of those that were dropped. -/
structure InputService where
  tracker : InputTracker
  outbox : List HardwareInputEvent
  queue : List HardwareInputEvent
  droppedInputEvents : BitVec 64
  observed : List Observation
  delivered : List HardwareInputEvent
  dropped : Nat

/-- What the service and the owner of the queue do. -/
inductive InputAct where
  /-- The next pass, once the events of the last one are sent. -/
  | observe (observation : Observation)
  | trySend
  | takeInputEvent

section
variable (cm119InputMask : U8) (plan : Option ParallelPlan) (statistics : BitVec 64)

/-- A service that was just started, over the counter of its earlier runs. -/
def InputService.started : InputService :=
  ⟨⟨none, none⟩, [], [], statistics, [], [], 0⟩

/-- A pass of the service: its events wait to be sent. -/
def InputService.observe (s : InputService) (observation : Observation) : InputService :=
  let published := s.tracker.publish observation.cm119 cm119InputMask observation.parallel plan
  { s with
    tracker := published.1
    outbox := published.2
    observed := observation :: s.observed }

/-- `try_send`: an event that finds no room is dropped and counted. -/
def InputService.trySend (s : InputService) (event : HardwareInputEvent)
    (rest : List HardwareInputEvent) : InputService :=
  if s.queue.length < INPUT_EVENT_QUEUE_CAPACITY then
    { s with outbox := rest, queue := s.queue ++ [event] }
  else
    { s with
      outbox := rest
      droppedInputEvents := s.droppedInputEvents + 1
      dropped := s.dropped + 1 }

/-- All passes, sends and reads. -/
def inputService : System InputService InputAct where
  init s := s = .started statistics
  step s
    | .observe observation =>
      if s.outbox.isEmpty then some (s.observe cm119InputMask plan observation) else none
    | .trySend =>
      match s.outbox with
      | [] => none
      | event :: rest => some (s.trySend event rest)
    | .takeInputEvent =>
      match s.queue with
      | [] => some s
      | event :: queue => some { s with queue, delivered := s.delivered ++ [event] }

end

/-! ## Lines -/

/-- The input lines of the two banks. -/
inductive InputLine where
  | cm119 (index : Fin 8)
  | parallel (index : Fin 8)
  deriving DecidableEq

/-- The lines of both banks. -/
def inputLines : List InputLine :=
  (List.finRange 8).map .cm119 ++ (List.finRange 8).map .parallel

theorem mem_inputLines (line : InputLine) : line ∈ inputLines := by
  cases line <;> simp [inputLines]

/-- The level of every configured line. A bank that is offline is inactive. -/
def inputLevels (cm119InputMask : U8) (plan : Option ParallelPlan) (observation : Observation) :
    InputLine → Bool
  | .cm119 i =>
    observation.cm119.online && cm119InputMask.getLsbD i &&
      observation.cm119.gpioInputMask.getLsbD i
  | .parallel i =>
    match plan, observation.parallel with
    | some plan, some value => value.online && plan.inputMask.getLsbD i && value.statusMask.getLsbD i
    | _, _ => false

/-- A bank has eight lines. -/
local instance lineCount_ne_zero : NeZero 8 := ⟨nofun⟩

theorem GpioPin.index_lt (pin : GpioPin) : pin.number - 1 < 8 := by
  have := pin.bounded
  omega

/-- The line that an event names. -/
def HardwareInput.line : HardwareInput → Option InputLine
  | .cm119 pin => some (.cm119 ⟨pin.number - 1, pin.index_lt⟩)
  | .parallel 15 => some (.parallel 3)
  | .parallel 13 => some (.parallel 4)
  | .parallel 12 => some (.parallel 5)
  | .parallel 10 => some (.parallel 6)
  | .parallel _ => none

/-- The line of an event and its new level. -/
def HardwareInputEvent.edge (event : HardwareInputEvent) : Option (InputLine × Bool) :=
  event.input.line.map (·, event.active)

/-! ## The events of one observation -/

/-- In an ascending list the least member with `p` comes first. -/
theorem filter_least {l : List (Fin 8)} (hl : l.Pairwise (· < ·)) {p : Fin 8 → Bool} {least : Fin 8}
    (hmem : least ∈ l) (hp : p least = true) (hle : ∀ i, p i = true → least ≤ i) :
    l.filter p = least :: l.filter fun i => p i && !decide (least = i) := by
  obtain ⟨below, above, rfl⟩ := List.append_of_mem hmem
  have hsorted := List.pairwise_append.mp hl
  have hbelow : ∀ i ∈ below, p i = false := fun i hi => by
    by_contra h
    exact absurd (hle i (by simpa using h))
      (not_le.mpr (hsorted.2.2 i hi least List.mem_cons_self))
  have habove : ∀ i ∈ above, least ≠ i := fun i hi =>
    ne_of_lt ((List.pairwise_cons.mp hsorted.2.1).1 i hi)
  have hnone : ∀ q : Fin 8 → Bool, (∀ i, q i = true → p i = true) → below.filter q = [] :=
    fun q hq => List.filter_eq_nil_iff.mpr fun i hi h =>
      absurd ((hbelow i hi).symm.trans (hq i h)) (by simp)
  rw [List.filter_append, List.filter_append, List.filter_cons_of_pos hp,
    List.filter_cons_of_neg (by simp), hnone p fun _ h => h,
    hnone _ fun i h => (Bool.and_eq_true _ _ ▸ h).1, List.nil_append, List.nil_append]
  refine congrArg (least :: ·) (List.filter_congr fun i hi => ?_)
  rw [decide_eq_false (habove i hi), Bool.not_false, Bool.and_true]

theorem and_bit_bne_zero (mask : U8) (index : Fin 8) :
    (mask &&& 1#8 <<< index.val != 0) = mask.getLsbD index := by
  have hbit (i : Nat) : (mask &&& 1#8 <<< index.val).getLsbD i =
      (mask.getLsbD i && (1#8 <<< index.val).getLsbD i) := BitVec.getLsbD_and
  rw [Bool.eq_iff_iff, bne_iff_ne]
  constructor
  · intro h
    by_contra hclear
    refine h (BitVec.eq_of_getLsbD_eq fun i hi => ?_)
    rw [hbit, Station.getLsbD_pin index ⟨i, hi⟩]
    by_cases heq : index = ⟨i, hi⟩
    · rw [heq] at hclear
      simpa using fun h => absurd h hclear
    · rw [decide_eq_false heq, Bool.and_false]
      exact (BitVec.getLsbD_zero).symm
  · intro h hzero
    have := hbit index
    rw [hzero, h, Station.getLsbD_pin, decide_eq_true rfl] at this
    exact absurd this (by simp)

/-- One event for each changed bit, ascending, with the new level. -/
def eventsOf (input : Fin 8 → HardwareInput) (active : U8) (changed : Fin 8 → Bool) :
    List HardwareInputEvent :=
  ((List.finRange 8).filter changed).map fun i => ⟨input i, active.getLsbD i⟩

theorem changedEvents_eq (input : Fin 8 → HardwareInput) (active changed : U8) :
    changedEvents input active changed = eventsOf input active fun i => changed.getLsbD i := by
  induction changed using changedEvents.induct with
  | case1 =>
    rw [changedEvents, dif_pos rfl]
    rfl
  | case2 changed h index bit ih =>
    rw [changedEvents, dif_neg h]
    simp only
    rw [ih, eventsOf, eventsOf, filter_least (List.pairwise_lt_finRange 8) (List.mem_finRange index)
      (getLsbD_trailingZeros h) fun i => trailingZeros_le h]
    simp only [List.map_cons, and_bit_bne_zero, index, bit, getLsbD_clear_bit]

/-- One bank: nothing before its baseline, then its edges. -/
theorem publishChangedInputs_eq {previous : Option U8} {active configured : U8}
    {input : Fin 8 → HardwareInput} (hprevious : ∀ old ∈ previous, Within old configured)
    (hactive : Within active configured) :
    publishChangedInputs previous active configured input =
      (some active, previous.elim [] fun old =>
        eventsOf input active fun i => old.getLsbD i != active.getLsbD i) := by
  cases previous with
  | none => rfl
  | some old =>
    rw [publishChangedInputs, changedEvents_eq, Option.elim_some, eventsOf, eventsOf]
    refine congrArg (fun l => (some active, List.map _ l)) (List.filter_congr fun i _ => ?_)
    rw [BitVec.getLsbD_and, BitVec.getLsbD_xor]
    cases hi : configured.getLsbD i with
    | true => cases old.getLsbD i <;> cases active.getLsbD i <;> rfl
    | false =>
      rw [(hprevious old rfl).getLsbD_eq_false hi, hactive.getLsbD_eq_false hi]
      rfl

/-- The events of a bank name the edges of its lines. -/
theorem map_edge_bank {input : Fin 8 → HardwareInput} {line : Fin 8 → InputLine} {old active : U8}
    {before after : InputLine → Bool} (hbefore : ∀ i : Fin 8, old.getLsbD i = before (line i))
    (hafter : ∀ i : Fin 8, active.getLsbD i = after (line i))
    (hinput : ∀ i : Fin 8, before (line i) ≠ after (line i) → (input i).line = some (line i)) :
    (eventsOf input active fun i => old.getLsbD i != active.getLsbD i).map HardwareInputEvent.edge =
      (edges ((List.finRange 8).map line) before after).map some := by
  rw [eventsOf, edges, List.filter_map, List.map_map, List.map_map, List.map_map]
  simp only [hbefore, hafter]
  refine List.map_congr_left fun i hi => ?_
  have hchanged := hinput i (by simpa using (List.mem_filter.mp hi).2)
  simp only [Function.comp_apply, HardwareInputEvent.edge, hchanged, Option.map_some]

section
variable {cm119InputMask : U8} {plan : Option ParallelPlan} {statistics : BitVec 64}

theorem cm119Active_within (cm119 : Cm119Inputs) (cm119InputMask : U8) :
    Within (cm119Active cm119 cm119InputMask) cm119InputMask := by
  rw [cm119Active]
  split
  · exact within_and_right
  · exact within_zero

theorem parallelActive_within (parallel : Option ParallelInputs) (p : ParallelPlan) :
    Within (parallelActive parallel p) p.inputMask := by
  rw [parallelActive]
  cases parallel.filter (·.online) with
  | none => exact within_zero
  | some value => exact within_and_right

theorem getLsbD_cm119Active (plan : Option ParallelPlan) (observation : Observation) (i : Fin 8) :
    (cm119Active observation.cm119 cm119InputMask).getLsbD i =
      inputLevels cm119InputMask plan observation (.cm119 i) := by
  rw [cm119Active, inputLevels]
  cases observation.cm119.online with
  | false => exact BitVec.getLsbD_zero
  | true =>
    rw [if_pos rfl, BitVec.getLsbD_and, Bool.true_and]
    exact Bool.and_comm _ _

theorem getLsbD_parallelActive (cm119InputMask : U8) (observation : Observation) (p : ParallelPlan)
    (i : Fin 8) :
    (parallelActive observation.parallel p).getLsbD i =
      inputLevels cm119InputMask (some p) observation (.parallel i) := by
  obtain ⟨cm119, _ | value⟩ := observation
  · exact BitVec.getLsbD_zero
  · change _ = (value.online && p.inputMask.getLsbD i && value.statusMask.getLsbD i)
    rw [parallelActive, Option.filter]
    cases value.online with
    | false => exact BitVec.getLsbD_zero
    | true =>
      rw [if_pos rfl, Option.elim_some, BitVec.getLsbD_and, Bool.true_and]
      exact Bool.and_comm _ _

/-- The tracker holds the masks of the last observation. -/
def trackerOf (cm119InputMask : U8) (plan : Option ParallelPlan) (last : Option Observation) :
    InputTracker where
  cm119 := last.map fun o => cm119Active o.cm119 cm119InputMask
  parallel := plan.bind fun p => last.map fun o => parallelActive o.parallel p

theorem line_cm119Input : ∀ i, (cm119Input i).line = some (.cm119 i) := by decide

theorem line_parallelInput : ∀ i : Fin 8, (0x78#8).getLsbD i = true →
    (parallelInput i).line = some (.parallel i) := by decide

/-- A changed line of the parallel port is one of its status lines. -/
theorem line_of_changed {p : ParallelPlan} (hp : Within p.inputMask 0x78#8) {o o' : Observation}
    {i : Fin 8} (h : inputLevels cm119InputMask (some p) o (.parallel i) ≠
      inputLevels cm119InputMask (some p) o' (.parallel i)) :
    (parallelInput i).line = some (.parallel i) := by
  refine line_parallelInput i ?_
  by_contra hi
  have hoff := hp.getLsbD_eq_false (Bool.not_eq_true _ ▸ hi)
  rw [← getLsbD_parallelActive, ← getLsbD_parallelActive,
    (parallelActive_within o.parallel p).getLsbD_eq_false hoff,
    (parallelActive_within o'.parallel p).getLsbD_eq_false hoff] at h
  exact h rfl

/-- One bank: its events name the edges of its lines since the last observation. -/
theorem publish_bank (input : Fin 8 → HardwareInput) {line : Fin 8 → InputLine} {configured : U8}
    {active : Observation → U8} {levels : Observation → InputLine → Bool}
    (hwithin : ∀ o, Within (active o) configured)
    (hlevel : ∀ o (i : Fin 8), (active o).getLsbD i = levels o (line i))
    (hinput : ∀ o o' i, levels o (line i) ≠ levels o' (line i) → (input i).line = some (line i))
    (last : Option Observation) (new : Observation) :
    ∃ events, publishChangedInputs (last.map active) (active new) configured input =
        (some (active new), events) ∧
      events.map HardwareInputEvent.edge = (last.elim [] fun old =>
        edges ((List.finRange 8).map line) (levels old) (levels new)).map some := by
  refine ⟨_, publishChangedInputs_eq (fun old hold => ?_) (hwithin new), ?_⟩
  · obtain ⟨o, -, rfl⟩ := Option.map_eq_some_iff.mp hold
    exact hwithin o
  · cases last with
    | none => rfl
    | some old => exact map_edge_bank (hlevel old) (hlevel new) (hinput old new)

/-- The events of an observation name the edges since the last one. -/
theorem publish_eq (hplan : ∀ p ∈ plan, Within p.inputMask 0x78#8) (last : Option Observation)
    (new : Observation) :
    ∃ events, (trackerOf cm119InputMask plan last).publish new.cm119 cm119InputMask new.parallel
        plan = (trackerOf cm119InputMask plan (some new), events) ∧
      events.map HardwareInputEvent.edge = (last.elim [] fun old => edges inputLines
        (inputLevels cm119InputMask plan old) (inputLevels cm119InputMask plan new)).map some := by
  obtain ⟨events, hpublish, hevents⟩ := publish_bank cm119Input
    (fun o => cm119Active_within o.cm119 cm119InputMask) (getLsbD_cm119Active plan)
    (fun _ _ i _ => line_cm119Input i) last new
  cases plan with
  | none =>
    refine ⟨events, ?_, ?_⟩
    · simp only [InputTracker.publish, trackerOf, hpublish]
      rfl
    · rw [hevents]
      cases last with
      | none => rfl
      | some old =>
        have hrest : edges ((List.finRange 8).map InputLine.parallel)
            (inputLevels cm119InputMask none old) (inputLevels cm119InputMask none new) = [] := by
          rw [edges, List.filter_map]
          rfl
        rw [Option.elim_some, Option.elim_some, inputLines, edges_append, hrest, List.append_nil]
  | some p =>
    obtain ⟨events', hpublish', hevents'⟩ := publish_bank parallelInput
      (fun o => parallelActive_within o.parallel p)
      (fun o => getLsbD_parallelActive cm119InputMask o p)
      (fun _ _ _ => line_of_changed (hplan p rfl)) last new
    refine ⟨events ++ events', ?_, ?_⟩
    · simp only [InputTracker.publish, trackerOf, Option.bind_some, hpublish, hpublish']
      rfl
    · rw [List.map_append, hevents, hevents']
      cases last with
      | none => rfl
      | some old =>
        rw [Option.elim_some, Option.elim_some, Option.elim_some, inputLines, edges_append,
          List.map_append]

/-! ## The log of edges -/

/-- The service and the log of its edges: what was taken, what waits and what is still to be sent are
the edges that are not lost. -/
structure Logged (cm119InputMask : U8) (plan : Option ParallelPlan) (statistics : BitVec 64)
    (s : InputService) (log : EdgeLog inputLines) : Prop where
  tracker : s.tracker = trackerOf cm119InputMask plan s.observed.head?
  seen : log.seen = s.observed.map (inputLevels cm119InputMask plan)
  events : (s.delivered ++ (s.queue ++ s.outbox)).map HardwareInputEvent.edge = log.events.map some
  dropped : log.dropped = s.dropped
  counter : s.droppedInputEvents = statistics + BitVec.ofNat 64 s.dropped

/-- Every step is a step of the log, or none. -/
theorem inputService_simulates (hplan : ∀ p ∈ plan, Within p.inputMask 0x78#8) :
    Simulation (inputService cm119InputMask plan statistics) (edgeLog mem_inputLines)
      (Logged cm119InputMask plan statistics) where
  init := by
    rintro s rfl
    refine ⟨.empty, rfl, ?_, rfl, rfl, rfl, ?_⟩
    · cases plan <;> rfl
    · exact (BitVec.add_zero _).symm
  step := by
    intro s a s' log h hstep
    cases a with
    | observe observation =>
      obtain ⟨hsent, hstep⟩ := Option.ite_none_right_eq_some.mp hstep
      obtain rfl := Option.some.inj hstep
      obtain ⟨events, hpublish, hevents⟩ := publish_eq hplan s.observed.head? observation
      rw [← h.tracker] at hpublish
      simp only [InputService.observe, hpublish]
      refine ⟨[.observe (inputLevels cm119InputMask plan observation)], _, rfl, rfl, ?_, ?_,
        h.dropped, h.counter⟩
      · exact congrArg (_ :: ·) h.seen
      · have hold := h.events
        rw [List.isEmpty_iff.mp hsent, List.append_nil] at hold
        rw [← List.append_assoc, List.map_append, hold, hevents]
        simp only [EdgeLog.observe, List.map_append, EdgeLog.report, h.seen]
        cases s.observed <;> rfl
    | trySend =>
      rw [inputService] at hstep
      simp only at hstep
      split at hstep
      · cases hstep
      · rename_i event rest hout
        obtain rfl := Option.some.inj hstep
        have hold := h.events
        rw [hout] at hold
        rw [InputService.trySend]
        split
        · refine ⟨[], log, rfl, h.tracker, h.seen, ?_, h.dropped, h.counter⟩
          simpa using hold
        · have hk : (s.delivered ++ s.queue).length < log.events.length := by
            have hlen := congrArg List.length hold
            simp only [List.length_map, List.length_append, List.length_cons] at hlen ⊢
            omega
          refine ⟨[.drop (s.delivered ++ s.queue).length], log.drop ⟨_, hk⟩, ?_, h.tracker, h.seen,
            ?_, congrArg (· + 1) h.dropped, ?_⟩
          · simp only [System.run, edgeLog, dif_pos hk, Option.bind_some]
          · rw [EdgeLog.drop, ← List.eraseIdx_map, ← hold, List.eraseIdx_map, ← List.append_assoc,
              ← List.append_assoc, List.eraseIdx_append_of_length_le (Nat.le_refl _), Nat.sub_self]
            rfl
          · rw [h.counter, BitVec.add_assoc, ← BitVec.ofNat_add_ofNat]
            rfl
    | takeInputEvent =>
      rw [inputService] at hstep
      simp only at hstep
      split at hstep
      · obtain rfl := Option.some.inj hstep
        exact ⟨[], log, rfl, h⟩
      · rename_i event queue hqueue
        obtain rfl := Option.some.inj hstep
        refine ⟨[], log, rfl, h.tracker, h.seen, ?_, h.dropped, h.counter⟩
        have hold := h.events
        rw [hqueue] at hold
        simpa using hold

/-- What names its edges replays as they do. -/
theorem filterMap_edge {events : List HardwareInputEvent} {es : List (InputLine × Bool)}
    (h : events.map HardwareInputEvent.edge = es.map some) :
    events.filterMap HardwareInputEvent.edge = es := by
  calc events.filterMap HardwareInputEvent.edge
      = (events.map HardwareInputEvent.edge).filterMap id := by rw [List.filterMap_map, Function.id_comp]
    _ = (es.map some).filterMap id := by rw [h]
    _ = es.filterMap some := List.filterMap_map ..
    _ = es := List.filterMap_some

end

/-! ## The events reconstruct the inputs -/

/-- The plan of the parallel port that the service of a station gets. -/
def stationParallel (hardware : Station.ConfigValues) : Option ParallelPlan :=
  (Station.parallelPlan hardware).map (·.plan)

theorem stationParallel_within (hardware : Station.ConfigValues) :
    ∀ p ∈ stationParallel hardware, Within p.inputMask 0x78#8 := by
  intro p hp
  obtain ⟨request, hrequest, rfl⟩ := Option.map_eq_some_iff.mp hp
  obtain ⟨-, hrequest⟩ := Option.ite_none_right_eq_some.mp hrequest
  obtain rfl := Option.some.inj hrequest
  exact Station.parallelMasks_input_within (fun i => hardware (.parallelOutput i)) fun i =>
    hardware (.parallelInput i)

/-- Between two observations, the events that were delivered (taken, or waiting to be) and those that
were dropped are the edges since the baseline, and the counter has grown by the dropped ones. Where
none was dropped, replaying the delivered events from the baseline gives the last levels. -/
theorem inputEvents_reconstruct (hardware : Station.ConfigValues) (cm119InputMask : U8)
    (statistics : BitVec 64) {s : InputService}
    (h : (inputService cm119InputMask (stationParallel hardware) statistics).Reach s)
    (hsent : s.outbox = []) :
    let levels := inputLevels cm119InputMask (stationParallel hardware)
    (s.delivered ++ s.queue).length + s.dropped = edgeTotal inputLines (s.observed.map levels) ∧
      s.droppedInputEvents = statistics + BitVec.ofNat 64 s.dropped ∧
      (s.dropped = 0 → ∀ baseline ∈ s.observed.getLast?, ∀ last ∈ s.observed.head?,
        replay (levels baseline) ((s.delivered ++ s.queue).filterMap HardwareInputEvent.edge) =
          levels last) := by
  obtain ⟨log, -, hlog⟩ := (inputService_simulates (stationParallel_within hardware)).reach h
  have hevents := hlog.events
  rw [hsent, List.append_nil] at hevents
  refine ⟨?_, hlog.counter, fun hdropped baseline hbaseline last hlast => ?_⟩
  · have hlen := congrArg List.length hevents
    rw [List.length_map, List.length_map] at hlen
    rw [← hlog.seen, ← hlog.dropped, ← log.counted, hlen]
  · rw [filterMap_edge hevents]
    refine log.replayed (hlog.dropped.trans hdropped) _ ?_ _ ?_
    · rw [hlog.seen, List.getLast?_map, hbaseline]
      rfl
    · rw [hlog.seen, List.head?_map, hlast]
      rfl

/-- Pins 1 and 3 rise, one event is taken, and the bank goes offline. -/
def offlineBank : List InputAct :=
  [.observe ⟨⟨true, false, false, 0#8⟩, none⟩, .observe ⟨⟨true, false, false, 5#8⟩, none⟩, .trySend,
    .takeInputEvent, .trySend, .observe ⟨⟨false, false, false, 5#8⟩, none⟩, .trySend, .trySend]

theorem inputEvents_reconstruct_offline : ∃ s,
    (inputService 0xff#8 (stationParallel Station.ConfigValues.default) 0).run (.started 0)
        offlineBank = some s ∧
      (s.delivered.length, s.queue.length, s.dropped) = (1, 3, 0) ∧
      (s.delivered ++ s.queue).length + s.dropped = edgeTotal inputLines
        (s.observed.map (inputLevels 0xff#8 (stationParallel Station.ConfigValues.default))) := by
  obtain ⟨s, hrun, hsent, hcounts⟩ : ∃ s,
      (inputService 0xff#8 (stationParallel Station.ConfigValues.default) 0).run (.started 0)
        offlineBank = some s ∧ s.outbox = [] ∧
      (s.delivered.length, s.queue.length, s.dropped) = (1, 3, 0) := by
    simp only [System.run, inputService, offlineBank, InputService.started, InputService.observe,
      InputTracker.publish, publishChangedInputs, changedEvents_eq]
    exact ⟨_, rfl, rfl, rfl⟩
  exact ⟨s, hrun, hcounts, (inputEvents_reconstruct .default 0xff#8 0 ⟨_, _, rfl, hrun⟩ hsent).1⟩

end Driver
end UsbRadioPlus
