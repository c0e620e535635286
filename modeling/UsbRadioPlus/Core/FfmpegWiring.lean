import UsbRadioPlus.Core.FfmpegStages

/-!
# The wiring of the graphs

`ordered_chain` names its links by a serial number. The labels of the model (`Label`) have different names, and
what is written up to a serial number uses the labels in front of it (`Before`), so the stages can be put behind
one another (`Written.emit`).

`orderedChain_describes` is the result: the text reads as a graph that is connected from `in` to `out`, with
the filters of the enabled stages in the order of the chain.
-/

namespace UsbRadioPlus
namespace Core

open Rust F64 Sys Sys.FilterGraph

/-- A link of `ordered_chain`. -/
inductive Label where
  | source | sink
  | step (n : Nat)
  /-- Within the stage of a serial number, or within the band pass of the transmitter. -/
  | branch (serial : Option Nat) (b : Branch)
  deriving DecidableEq

namespace Label

/-- The start of the names within a stage. -/
def start : Option Nat → Str
  | some n => 'd' :: Nat.toDigits 10 n
  | none => "cln".toList

/-- The text of a label. -/
def text : Label → Str
  | .source => "in".toList
  | .sink => "out".toList
  | .step n => nextLabel n
  | .branch serial b => start serial ++ b.text

theorem all_isNameChar_toDigits (n : Nat) : (Nat.toDigits 10 n).all isNameChar = true := by
  refine List.all_eq_true.mpr fun c hc => ?_
  have hdigit := Nat.isDigit_of_mem_toDigits (by decide) (by decide) hc
  simp [isNameChar, Char.isAlphanum, hdigit]

theorem all_isNameChar_branch (b : Branch) : b.text.all isNameChar = true := by
  cases b <;> decide

theorem isName_text (l : Label) : isName l.text = true := by
  cases l with
  | source => decide
  | sink => decide
  | step n =>
    simp only [text, nextLabel, isName, List.all_cons, all_isNameChar_toDigits]
    rfl
  | branch serial b =>
    cases serial with
    | none =>
      simp only [text, start, isName, List.all_append, all_isNameChar_branch]
      cases b <;> decide
    | some n =>
      simp only [text, start, isName, List.cons_append, List.all_cons, List.all_append,
        all_isNameChar_toDigits, all_isNameChar_branch]
      rfl

/-- A label as a name. -/
def name (l : Label) : Name := ⟨l.text, l.isName_text⟩

theorem toDigits_injective {n n' : Nat} (h : Nat.toDigits 10 n = Nat.toDigits 10 n') : n = n' := by
  rw [← Nat.ofDigitChars_ten_toDigits (n := n), h, Nat.ofDigitChars_ten_toDigits]

/-- A serial number ends where the name of a branch begins. -/
theorem takeWhile_digits (n : Nat) (b : Branch) :
    (Nat.toDigits 10 n ++ b.text).takeWhile Char.isDigit = Nat.toDigits 10 n := by
  rw [List.takeWhile_append_of_pos fun c hc =>
    Nat.isDigit_of_mem_toDigits (by decide) (by decide) hc]
  have hnil : b.text.takeWhile Char.isDigit = [] := by cases b <;> decide
  rw [hnil, List.append_nil]

theorem branchText_injective {b b' : Branch} (h : b.text = b'.text) : b = b' := by
  cases b <;> cases b' <;> first
    | rfl
    | exact absurd h (by decide)

theorem text_injective : Function.Injective text := by
  intro l l' h
  rcases l with _ | _ | n | ⟨_ | n, b⟩ <;> rcases l' with _ | _ | n' | ⟨_ | n', b'⟩ <;> first
    | rfl
    | (simp [text, start, nextLabel] at h; done)
    | skip
  · exact congrArg step (toDigits_injective (List.cons.inj h).2)
  · exact congrArg (branch none) (branchText_injective (List.append_cancel_left h))
  · have htail : Nat.toDigits 10 n ++ b.text = Nat.toDigits 10 n' ++ b'.text := (List.cons.inj h).2
    have hdigits := congrArg (List.takeWhile Char.isDigit) htail
    rw [takeWhile_digits, takeWhile_digits] at hdigits
    obtain rfl := toDigits_injective hdigits
    rw [branchText_injective (List.append_cancel_left htail)]

/-- The label was used in front of the serial number `n`; `clean` tells whether the band pass was. -/
def Before (clean : Bool) (n : Nat) : Label → Prop
  | .step i => i < n
  | .branch (some i) _ => i ≤ n
  | .branch none _ => clean = true
  | .source | .sink => False

theorem Before.mono {clean clean' : Bool} {n n' : Nat} {l : Label} (h : l.Before clean n)
    (hclean : clean = true → clean' = true) (hn : n ≤ n') : l.Before clean' n' := by
  rcases l with _ | _ | i | ⟨_ | i, b⟩
  · exact h
  · exact h
  · exact lt_of_lt_of_le h hn
  · exact hclean h
  · exact le_trans h hn

/-- The labels of the ports of a stage. -/
def ofPort (current : Label) (n : Nat) (group : Option Nat) : Port → Label
  | .input => current
  | .output => .step n
  | .branch b => .branch group b

end Label

open Label

/-! ## The writer -/

/-- What a writer has written: chains from `in` to its current label, with the labels in front of its serial
number. `marks` are the stages of their filters. -/
structure Written (clean : Bool) (w : GraphWriter) (marks : List ProcessingStage) : Prop where
  drawn : ∃ (chains : List (Chain Label)) (current : Label),
    w.graph = Chain.terminated (chains.map (Chain.map Label.name)) ∧ w.current = current.text ∧
      (current = .source ∨ ∃ i < w.serial, current = .step i) ∧
      Wired [.source] [current] (chains.map Chain.node) ∧
      (∀ l ∈ Node.produced (chains.map Chain.node), l.Before clean w.serial) ∧
      chainStages chains = marks

theorem Written.start : Written false .start [] where
  drawn := ⟨[], .source, rfl, rfl, .inl rfl, .nil (List.nodup_singleton _), by simp, rfl⟩

theorem ofPort_injective {current : Label} {n : Nat} {group : Option Nat}
    (h : current = .source ∨ ∃ i < n, current = .step i) :
    Function.Injective (ofPort current n group) := by
  have hstep : current ≠ .step n := by
    rintro rfl
    rcases h with h | ⟨i, hi, h⟩
    · cases h
    · cases h
      exact lt_irrefl _ hi
  have hbranch : ∀ b, current ≠ .branch group b := by
    rintro b rfl
    rcases h with h | ⟨i, -, h⟩ <;> cases h
  intro p p' hp
  cases p with
  | input =>
    cases p' with
    | input => rfl
    | output => exact absurd hp hstep
    | branch b => exact absurd hp (hbranch b)
  | output =>
    cases p' with
    | input => exact absurd hp.symm hstep
    | output => rfl
    | branch b => cases hp
  | branch b =>
    cases p' with
    | input => exact absurd hp.symm (hbranch b)
    | output => cases hp
    | branch b' =>
      cases hp
      rfl

section Emit

variable {clean clean' : Bool} {w : GraphWriter} {marks marks' : List ProcessingStage}

/-- A stage goes on from the current label. Its own labels are of its serial number, or those of the band
pass, which was not written yet. -/
theorem Written.emit_of (h : Written clean w marks) {stage text : GraphEdge → Str} (group : Option Nat)
    (hdraws : Draws text marks') (hclean : clean = true → clean' = true)
    (hgroup : group = some (w.serial + 1) ∨ group = none ∧ clean = false ∧ clean' = true)
    (htext : ∀ edge : GraphEdge, edge.start = 'd' :: Nat.toDigits 10 (w.serial + 1) →
      stage edge = text ⟨edge.input, edge.output, Label.start group⟩) :
    Written clean' (w.emit stage) (marks ++ marks') := by
  obtain ⟨chains, current, hgraph, hcurrent, hlabel, hwired, hbefore, hmarks⟩ := h.drawn
  obtain ⟨added, haddedWired, haddedMarks, hadded⟩ := hdraws
  let f := ofPort current w.serial group
  have hf : Function.Injective f := ofPort_injective hlabel
  have haddedText := hadded (fun port => (f port).name)
    ⟨w.current, nextLabel w.serial, Label.start group⟩ fun port => by
      cases port with
      | input => exact hcurrent.symm
      | output => rfl
      | branch b => rfl
  have hnodes : (added.map (Chain.map f)).map Chain.node =
      (added.map Chain.node).map (Node.map f) := by
    simp [Function.comp_def]
  have hproduced : ∀ l ∈ Node.produced ((added.map (Chain.map f)).map Chain.node),
      l = .step w.serial ∨ ∃ b, l = .branch group b := by
    intro l hl
    rw [hnodes, Node.produced_map] at hl
    obtain ⟨port, hport, rfl⟩ := List.mem_map.mp hl
    cases port with
    | input =>
      have hnodup := haddedWired.produced
      rw [List.singleton_append, List.nodup_cons] at hnodup
      exact absurd hport hnodup.1
    | output => exact .inl rfl
    | branch b => exact .inr ⟨b, rfl⟩
  refine ⟨chains ++ added.map (Chain.map f), .step w.serial, ?_, rfl, .inr ⟨_, Nat.lt_succ_self _, rfl⟩,
    ?_, ?_, ?_⟩
  · show w.graph ++ stage _ = _
    have hmap : (added.map (Chain.map f)).map (Chain.map Label.name) =
        added.map (Chain.map fun port => (f port).name) := by
      simp [Chain.map, Function.comp_def]
    rw [htext _ rfl, haddedText, hgraph, List.map_append, Chain.terminated_append, hmap]
  · rw [List.map_append]
    refine hwired.append (hnodes ▸ haddedWired.map hf) fun l hl hold => ?_
    rcases List.mem_append.mp hold with hold | hold
    · rw [List.mem_singleton] at hold
      rcases hproduced l hl with h | ⟨b, h⟩ <;> rw [hold] at h <;> cases h
    · have hb := hbefore l hold
      rcases hproduced l hl with rfl | ⟨b, rfl⟩
      · exact lt_irrefl _ hb
      · rcases hgroup with rfl | ⟨rfl, hfalse, -⟩
        · exact absurd hb (Nat.not_succ_le_self _)
        · rw [hfalse] at hb
          cases hb
  · intro l hl
    rw [List.map_append, Node.produced_append] at hl
    rcases List.mem_append.mp hl with hl | hl
    · exact (hbefore l hl).mono hclean (Nat.le_succ _)
    · rcases hproduced l hl with rfl | ⟨b, rfl⟩
      · exact Nat.lt_succ_self _
      · rcases hgroup with rfl | ⟨rfl, -, htrue⟩
        · exact le_refl _
        · exact htrue
  · rw [chainStages_append, chainStages_map, hmarks, haddedMarks]

theorem Written.emit (h : Written clean w marks) {stage : GraphEdge → Str}
    (hdraws : Draws stage marks') : Written clean (w.emit stage) (marks ++ marks') :=
  h.emit_of (some (w.serial + 1)) hdraws id (.inl rfl) fun edge hstart => by
    rw [Label.start, ← hstart]

theorem Written.emitIf (h : Written clean w marks) {stage : GraphEdge → Str} (condition : Bool)
    (hdraws : Draws stage []) : Written clean (w.emitIf condition stage) marks := by
  cases condition with
  | false => exact h
  | true =>
    have hemit := h.emit hdraws
    rwa [List.append_nil] at hemit

/-- The band pass of the transmitter is written once. -/
theorem Written.emitBandpass (h : Written false w marks) (highpassHz lowpassHz : F64) :
    Written true (w.emit fun edge => appendBrickwallBandpass
      ⟨edge.input, edge.output, "cln".toList⟩ highpassHz lowpassHz) marks := by
  rw [← List.append_nil marks]
  exact h.emit_of none (draws_bandpass highpassHz lowpassHz) (fun _ => rfl)
    (.inr ⟨rfl, rfl, rfl⟩) fun _ _ => rfl

theorem Written.weaken (h : Written false w marks) : Written true w marks := by
  obtain ⟨chains, current, hgraph, hcurrent, hlabel, hwired, hbefore, hmarks⟩ := h.drawn
  exact ⟨chains, current, hgraph, hcurrent, hlabel, hwired,
    fun l hl => (hbefore l hl).mono (fun _ => rfl) (le_refl _), hmarks⟩

/-- The last chain leads to `out`. -/
theorem Written.closed (h : Written clean w marks) : ∃ chains : List (Chain Label),
    ∃ last : Chain Label,
      w.graph ++ "[".toList ++ w.current ++ "]anull[out]".toList =
        Chain.terminated (chains.map (Chain.map Label.name)) ++ (last.map Label.name).text ∧
      Wired [.source] [.sink] ((chains ++ [last]).map Chain.node) ∧
      chainStages (chains ++ [last]) = marks := by
  obtain ⟨chains, current, hgraph, hcurrent, hlabel, hwired, hbefore, hmarks⟩ := h.drawn
  have hne : current ≠ .sink := by
    rintro rfl
    rcases hlabel with h | ⟨i, -, h⟩ <;> cases h
  have hlast : Wired [current] [Label.sink] [⟨[current], [Label.sink]⟩] :=
    ⟨by simp [hne], by simp, ⟨by simp, by simp, trivial⟩⟩
  refine ⟨chains, ⟨[current], anullClause, [], [.sink]⟩, ?_, ?_, ?_⟩
  · rw [hgraph, hcurrent]
    simp [Chain.text, Chain.map, Chain.labels, anullClause_text, Label.name, Label.text]
  · rw [List.map_append]
    refine hwired.append hlast fun l hl hold => ?_
    obtain rfl : l = .sink := by simpa [Chain.node] using hl
    rcases List.mem_append.mp hold with hold | hold
    · simp at hold
    · exact hbefore _ hold
  · rw [chainStages_append, hmarks]
    exact List.append_nil _

variable (m : Elementary) (chain : ProcessingChain) {factory : GraphDescriptionFactory}

/-- The loop over the stages adds the filters of those that are enabled. -/
theorem Written.writeStages (hpath : '\'' ∉ factory.agcPluginPath) (h : Written clean w marks) :
    Written clean (factory.writeStages m chain w)
      (marks ++ (chain.stageOrder.stages.filter (stageEnabled chain)).flatMap fun stage =>
        List.replicate (stageFilters chain stage) stage) := by
  unfold GraphDescriptionFactory.writeStages
  generalize chain.stageOrder.stages = stages
  induction stages generalizing w marks with
  | nil => simpa using h
  | cons stage rest ih =>
    rw [List.foldl_cons]
    cases henabled : stageEnabled chain stage with
    | false =>
      rw [List.filter_cons_of_neg (by simp [henabled])]
      exact ih h
    | true =>
      rw [List.filter_cons_of_pos henabled, List.flatMap_cons, ← List.append_assoc]
      exact ih (h.emit (draws_stage m chain hpath stage))

end Emit

/-! ## The graphs of a chain -/

section Graphs

variable (m : Elementary) (chain : ProcessingChain) {factory : GraphDescriptionFactory}

theorem written_writeChain (hpath : '\'' ∉ factory.agcPluginPath)
    (includeTransmitTail preemphasisEnabled : Bool) (preemphasisCornerHz : F64) (sampleRateHz : Nat) :
    ∃ clean, Written clean (factory.writeChain m chain includeTransmitTail preemphasisEnabled
        preemphasisCornerHz sampleRateHz)
      (if chain.flag .enabled then
        (chain.stageOrder.stages.filter (stageEnabled chain)).flatMap fun stage =>
          List.replicate (stageFilters chain stage) stage
      else []) := by
  have hstart := Written.start.emitIf (!(graphInputGain chain includeTransmitTail).isZero)
    (draws_volume m (graphInputGain chain includeTransmitTail))
  have hstages : Written false
      (if chain.flag .enabled then factory.writeStages m chain (GraphWriter.start.emitIf
        (!(graphInputGain chain includeTransmitTail).isZero) fun edge =>
          appendVolume m edge (graphInputGain chain includeTransmitTail))
      else GraphWriter.start.emitIf (!(graphInputGain chain includeTransmitTail).isZero) fun edge =>
        appendVolume m edge (graphInputGain chain includeTransmitTail))
      (if chain.flag .enabled then
        (chain.stageOrder.stages.filter (stageEnabled chain)).flatMap fun stage =>
          List.replicate (stageFilters chain stage) stage
      else []) := by
    by_cases h : chain.flag .enabled = true
    · rw [if_pos h, if_pos h]
      simpa using hstart.writeStages m chain hpath
    · rw [if_neg h, if_neg h]
      exact hstart
  have htail := (hstages.emitIf (includeTransmitTail && preemphasisEnabled)
    (draws_emphasis m true preemphasisCornerHz)).emitIf (!(chain.number .outputGainDb).isZero)
      (draws_volume m (chain.number .outputGainDb))
  refine ⟨true, ?_⟩
  unfold GraphDescriptionFactory.writeChain
  refine Written.emitIf ?_ _ (draws_peakLimiter m chain sampleRateHz)
  cases hclean : includeTransmitTail && chain.flag .transmitTailBandpassEnabled with
  | false => exact htail.weaken
  | true =>
    exact htail.emitBandpass (chain.number .transmitTailBandpassHighpassHz)
      (chain.number .transmitTailBandpassLowpassHz)

/-- What the text of a graph says: from `in` to `out`, with the filters of these stages. -/
def DescribesGraph (text : Str) (stages : List ProcessingStage) : Prop :=
  ∃ graph, FilterGraph.parse text = some graph ∧ Connected "in".toList "out".toList graph ∧
    graphStages graph = stages

/-- Wired chains are a graph from `in` to `out`, with a `;` behind the last one or without. -/
theorem describesGraph_of_wired {L : Type} (name : L → Name)
    (hname : Function.Injective fun l => (name l).text) {source sink : L}
    (hsource : (name source).text = "in".toList) (hsink : (name sink).text = "out".toList)
    {chains : List (Chain L)} (h : Wired [source] [sink] (chains.map Chain.node)) {text : Str}
    (hparse : FilterGraph.parse text = some ((chains.map (Chain.map name)).map Chain.value)) :
    DescribesGraph text (chainStages chains) := by
  refine ⟨_, hparse, ?_, (graphStages_value _).trans (chainStages_map _ _)⟩
  refine .of_wired (by decide) ?_
  rw [nodes_value, ← hsource, ← hsink]
  have hmap := h.map hname
  have hnodes : ((chains.map (Chain.map name)).map Chain.node).map (Node.map Name.text) =
      (chains.map Chain.node).map (Node.map fun l => (name l).text) := by
    simp [Node.map, Chain.node, Chain.map, Function.comp_def]
  rw [hnodes]
  exact hmap

/-- The stages of a chain: the enabled ones, in the order of the chain. -/
def enabledOrder (chain : ProcessingChain) : List ProcessingStage :=
  if chain.flag .enabled then chain.stageOrder.stages.filter (stageEnabled chain) else []

/-- What becomes of the graph of a chain at a rate. A crossover that the rate does not carry is refused. Any
other text describes a graph with the filters of the enabled stages, in their order. -/
def ChainOutcome (chain : ProcessingChain) (sampleRateHz : Nat)
    (result : Except GraphDescriptionError Str) : Prop :=
  if crossoverAboveNyquist chain sampleRateHz then result = .error .crossoverAboveNyquist
  else
    ∃ text, result = .ok text ∧ DescribesGraph text ((enabledOrder chain).flatMap fun stage =>
      List.replicate (stageFilters chain stage) stage)

theorem orderedChain_describes (hpath : '\'' ∉ factory.agcPluginPath)
    (includeTransmitTail preemphasisEnabled : Bool) (preemphasisCornerHz : F64) (sampleRateHz : Nat) :
    ChainOutcome chain sampleRateHz (factory.orderedChain m chain includeTransmitTail
      preemphasisEnabled preemphasisCornerHz sampleRateHz) := by
  have horder : ((enabledOrder chain).flatMap fun stage =>
      List.replicate (stageFilters chain stage) stage) =
      if chain.flag .enabled then
        (chain.stageOrder.stages.filter (stageEnabled chain)).flatMap fun stage =>
          List.replicate (stageFilters chain stage) stage
      else [] := by
    unfold enabledOrder
    split <;> rfl
  unfold ChainOutcome GraphDescriptionFactory.orderedChain
  by_cases hcrossover : crossoverAboveNyquist chain sampleRateHz = true
  · rw [if_pos hcrossover, if_pos hcrossover]
  · rw [if_neg hcrossover, if_neg hcrossover]
    refine ⟨_, rfl, ?_⟩
    obtain ⟨clean, hwritten⟩ := written_writeChain m chain hpath includeTransmitTail
      preemphasisEnabled preemphasisCornerHz sampleRateHz
    obtain ⟨chains, last, htext, hwired, hmarks⟩ := hwritten.closed
    rw [horder, ← hmarks]
    refine describesGraph_of_wired Label.name text_injective rfl rfl hwired ?_
    rw [htext, parse_text]
    simp

end Graphs

end Core
end UsbRadioPlus
