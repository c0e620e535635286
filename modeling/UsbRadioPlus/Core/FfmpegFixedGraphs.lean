import UsbRadioPlus.Core.FfmpegWiring

/-!
# The graphs of the receiver and of signaling, and the graphs of a chain

The graphs with fixed labels are few links each. `chain_graphs` and `fixed_graphs` are what a caller has: every
text that the factory hands out describes a connected graph from `in` to `out`.
-/

namespace UsbRadioPlus
namespace Core

open Rust F64 Sys Sys.FilterGraph

/-- A link of a fixed graph. -/
inductive FixedLink where
  | source | sink | rxbandpass | ctlow | ctn0 | ctn1 | ctn2 | low | high
  /-- Within the band pass of the receiver. -/
  | receive (b : Branch)
  deriving DecidableEq

namespace FixedLink

/-- The label of a link. -/
def text : FixedLink → Str
  | .source => "in".toList
  | .sink => "out".toList
  | .rxbandpass => "rxbandpass".toList
  | .ctlow => "ctlow".toList
  | .ctn0 => "ctn0".toList
  | .ctn1 => "ctn1".toList
  | .ctn2 => "ctn2".toList
  | .low => "low".toList
  | .high => "high".toList
  | .receive b => "rxbp".toList ++ b.text

theorem text_source : text .source = "in".toList := rfl

theorem text_sink : text .sink = "out".toList := rfl

theorem text_ctlow : text .ctlow = "ctlow".toList := rfl

theorem text_ctn0 : text .ctn0 = "ctn0".toList := rfl

theorem text_ctn1 : text .ctn1 = "ctn1".toList := rfl

theorem text_ctn2 : text .ctn2 = "ctn2".toList := rfl

theorem text_low : text .low = "low".toList := rfl

theorem text_high : text .high = "high".toList := rfl

theorem isName_text (l : FixedLink) : isName l.text = true := by
  rcases l with _ | _ | _ | _ | _ | _ | _ | _ | _ | b
  case receive => cases b <;> decide
  all_goals decide

/-- A link as a name. -/
def name (l : FixedLink) : Name := ⟨l.text, l.isName_text⟩

theorem name_text (l : FixedLink) : l.name.text = l.text := rfl

theorem text_map (ins outs : List FixedLink) (clause : Clause) (rest : List Clause) :
    (Chain.map name ⟨ins, clause, rest, outs⟩).text =
      (ins.flatMap fun l => '[' :: (l.text ++ [']'])) ++ clause.text ++ restText rest ++
        outs.flatMap fun l => '[' :: (l.text ++ [']']) := by
  simp [Chain.text, Chain.map, Chain.labels, List.flatMap_map, name_text, restText]

theorem text_injective : Function.Injective text := by
  intro l l' h
  rcases l with _ | _ | _ | _ | _ | _ | _ | _ | _ | b <;>
    rcases l' with _ | _ | _ | _ | _ | _ | _ | _ | _ | b' <;> first
    | rfl
    | exact absurd h (by decide)
    | (cases b <;> exact absurd h (by decide))
    | (cases b' <;> exact absurd h (by decide))
    | skip
  exact congrArg receive (Label.branchText_injective (List.append_cancel_left h))

end FixedLink

/-! ## The receiver -/

theorem describesGraph_of_fixed {c : List (Chain FixedLink)} {text : Str}
    {stages : List ProcessingStage} (h : Wired [.source] [.sink] (c.map Chain.node))
    (hparse : FilterGraph.parse text = some ((c.map (Chain.map FixedLink.name)).map Chain.value))
    (hstages : chainStages c = stages) : DescribesGraph text stages :=
  hstages ▸ describesGraph_of_wired FixedLink.name FixedLink.text_injective rfl rfl h hparse

/-- The links of a filter between the source and `output`. -/
def fixedPort (output : FixedLink) : Port → FixedLink
  | .input => .source
  | .output => output
  | .branch b => .receive b

theorem fixedPort_injective {output : FixedLink} (hsource : output ≠ .source)
    (hreceive : ∀ b, output ≠ .receive b) : Function.Injective (fixedPort output) := by
  intro p p' h
  cases p <;> cases p' <;> first
    | rfl
    | exact absurd h hsource
    | exact absurd h.symm hsource
    | exact absurd h (hreceive _)
    | exact absurd h.symm (hreceive _)
    | cases h
  rfl

/-- The band pass of the receiver: chains from `in` to the link in front of the rejection of the tone. -/
theorem receiveBandpass_drawn (chain : ProcessingChain) :
    ∃ (chains : List (Chain FixedLink)) (current : FixedLink),
      (if chain.flag .receiveBandpassEnabled then
        (appendBrickwallBandpass ⟨"in".toList, "rxbandpass".toList, "rxbp".toList⟩
          (chain.number .receiveBandpassHighpassHz) (chain.number .receiveBandpassLowpassHz),
          "rxbandpass".toList)
      else (([] : Str), "in".toList)) =
        (Chain.terminated (chains.map (Chain.map FixedLink.name)), current.text) ∧
      (current = .source ∨ current = .rxbandpass) ∧
      Wired [.source] [current] (chains.map Chain.node) ∧
      (∀ l ∈ Node.produced (chains.map Chain.node), l = .rxbandpass ∨ ∃ b, l = .receive b) ∧
      chainStages chains = [] := by
  by_cases h : chain.flag .receiveBandpassEnabled = true
  · obtain ⟨drawn, hwired, hstages, htext⟩ := draws_bandpass
      (chain.number .receiveBandpassHighpassHz) (chain.number .receiveBandpassLowpassHz)
    have hnodes : (drawn.map (Chain.map (fixedPort .rxbandpass))).map Chain.node =
        (drawn.map Chain.node).map (Node.map (fixedPort .rxbandpass)) := by
      simp [Function.comp_def]
    refine ⟨drawn.map (Chain.map (fixedPort .rxbandpass)), .rxbandpass, ?_, .inr rfl, ?_, ?_, ?_⟩
    · have hmap : (drawn.map (Chain.map (fixedPort .rxbandpass))).map (Chain.map FixedLink.name) =
          drawn.map (Chain.map fun port => (fixedPort .rxbandpass port).name) := by
        simp [Chain.map, Function.comp_def]
      have hbandpass := htext (fun port => (fixedPort .rxbandpass port).name)
        ⟨"in".toList, "rxbandpass".toList, "rxbp".toList⟩ fun port => by cases port <;> rfl
      rw [if_pos h, hmap, ← hbandpass]
      rfl
    · rw [hnodes]
      exact hwired.map (fixedPort_injective (by decide) fun _ => by simp)
    · intro l hl
      rw [hnodes, Node.produced_map] at hl
      obtain ⟨port, hport, rfl⟩ := List.mem_map.mp hl
      cases port with
      | input =>
        have hnodup := hwired.produced
        rw [List.singleton_append, List.nodup_cons] at hnodup
        exact absurd hport hnodup.1
      | output => exact .inl rfl
      | branch b => exact .inr ⟨b, rfl⟩
    · rw [chainStages_map, hstages]
  · refine ⟨[], .source, ?_, .inl rfl, .nil (List.nodup_singleton _), by simp, rfl⟩
    rw [if_neg h]
    rfl

/-- The rejection of the tone. -/
def rejection (current : FixedLink) (hz : F64) : List (Chain FixedLink) :=
  [⟨[current], brickwallClause hz, [], [.ctlow, .sink]⟩, ⟨[.ctlow], anullsinkClause, [], []⟩]

theorem rejection_text (current : FixedLink) (hz : F64) :
    Chain.terminated ((rejection current hz).map (Chain.map FixedLink.name)) =
      "[".toList ++ current.text ++ "]acrossover=split=".toList ++ fixed 9 hz ++
        ":order=20th[ctlow][out];[ctlow]anullsink;".toList := by
  unfold rejection
  simp only [List.map_cons, List.map_nil, Chain.terminated, List.flatMap_cons, List.flatMap_nil,
    FixedLink.text_map, brickwallClause_text, anullsinkClause_text, FixedLink.text_ctlow,
    FixedLink.text_sink, restText]
  simp

theorem receiveFilter_describes (chain : ProcessingChain) :
    DescribesGraph (GraphDescriptionFactory.receiveFilter chain) [] := by
  obtain ⟨chains, current, hgraph, hcurrent, hwired, hproduced, hstages⟩ :=
    receiveBandpass_drawn chain
  have hfresh : ∀ l ∈ [FixedLink.ctlow, .sink],
      l ∉ [FixedLink.source] ++ Node.produced (chains.map Chain.node) := by
    intro l hl hold
    rcases List.mem_append.mp hold with hold | hold
    · rw [List.mem_singleton] at hold
      subst hold
      simp at hl
    · rcases hproduced l hold with rfl | ⟨b, rfl⟩ <;> simp at hl
  have hne : current ≠ .ctlow ∧ current ≠ .sink := by
    rcases hcurrent with rfl | rfl <;> decide
  unfold GraphDescriptionFactory.receiveFilter
  rw [hgraph]
  by_cases h : chain.plFilter = .highPass
  · simp only [if_pos h]
    have hlast : Wired [current] [FixedLink.sink]
        [⟨[current], [.ctlow, .sink]⟩, ⟨[.ctlow], []⟩] := by
      refine ⟨by simp [hne], ?_, by simp, by simp, by simp, by simp, trivial⟩
      simp
    refine describesGraph_of_fixed
      (c := chains ++ rejection current (chain.number .receiveHighpassHz)) ?_ ?_ ?_
    · rw [List.map_append]
      exact hwired.append hlast fun l hl => hfresh l hl
    · have htext := rejection_text current (chain.number .receiveHighpassHz)
      rw [List.map_append] at *
      rw [← htext, ← Chain.terminated_append, parse_terminated]
    · rw [chainStages_append, hstages]
      rfl
  · simp only [if_neg h]
    have hlast : Wired [current] [FixedLink.sink] [⟨[current], [.sink]⟩] :=
      ⟨by simp [hne], by simp, ⟨by simp, by simp, trivial⟩⟩
    refine describesGraph_of_fixed (c := chains ++ [⟨[current], anullClause, [], [.sink]⟩])
      ?_ ?_ ?_
    · rw [List.map_append]
      refine hwired.append hlast fun l hl => hfresh l ?_
      simp only [List.map_cons, List.map_nil, Node.produced_cons, Chain.node, Node.produced_nil,
        List.append_nil, List.mem_singleton] at hl
      simp [hl]
    · have htext : "[".toList ++ current.text ++ "]anull[out]".toList =
          (Chain.map FixedLink.name ⟨[current], anullClause, [], [.sink]⟩).text := by
        rw [FixedLink.text_map, anullClause_text]
        simp only [List.flatMap_cons, List.flatMap_nil, FixedLink.text_sink, restText]
        simp
      rw [htext, parse_text]
      simp
    · rw [chainStages_append, hstages]
      rfl

/-! ## Emphasis and signaling -/

/-- One chain from `in` to `out`. -/
theorem describesGraph_of_single (clause : Clause) (hnone : clauseStage clause = none) :
    DescribesGraph ("[in]".toList ++ clause.text ++ "[out]".toList) [] := by
  have hwired : Wired [FixedLink.source] [.sink] [⟨[.source], [.sink]⟩] :=
    ⟨by decide, by decide, by decide⟩
  refine describesGraph_of_fixed (c := [⟨[.source], clause, [], [.sink]⟩]) hwired ?_ ?_
  · have htext : "[in]".toList ++ clause.text ++ "[out]".toList =
        (Chain.map FixedLink.name ⟨[.source], clause, [], [.sink]⟩).text := by
      rw [FixedLink.text_map]
      simp only [List.flatMap_cons, List.flatMap_nil, FixedLink.text_source, FixedLink.text_sink]
      simp [restText]
    rw [htext]
    exact parse_text [] (Chain.map FixedLink.name ⟨[.source], clause, [], [.sink]⟩)
  · simp [chainStages, Chain.clauses, hnone]

theorem receiveDeemphasis_describes (m : Elementary) (enabled : Bool) (cornerHz : F64) :
    DescribesGraph (GraphDescriptionFactory.receiveDeemphasis m enabled cornerHz) [] := by
  cases enabled with
  | false => exact describesGraph_of_single anullClause rfl
  | true =>
    obtain ⟨drawn, hwired, hstages, htext⟩ := draws_emphasis m false cornerHz
    have hnodes : (drawn.map (Chain.map (fixedPort .sink))).map Chain.node =
        (drawn.map Chain.node).map (Node.map (fixedPort .sink)) := by
      simp [Function.comp_def]
    refine describesGraph_of_fixed (c := drawn.map (Chain.map (fixedPort .sink))) ?_ ?_ ?_
    · rw [hnodes]
      exact hwired.map (fixedPort_injective (by decide) fun _ => by simp)
    · have hmap : (drawn.map (Chain.map (fixedPort .sink))).map (Chain.map FixedLink.name) =
          drawn.map (Chain.map fun port => (fixedPort .sink port).name) := by
        simp [Chain.map, Function.comp_def]
      have hemphasis := htext (fun port => (fixedPort .sink port).name)
        ⟨"in".toList, "out".toList, "rxbp".toList⟩ fun port => by cases port <;> rfl
      rw [hmap, ← parse_terminated, ← hemphasis]
      rfl
    · rw [chainStages_map, hstages]

/-- `bandreject` -/
def bandrejectName : Name := ⟨"bandreject".toList, by decide⟩

theorem bandrejectName_text : bandrejectName.text = "bandreject".toList := rfl

theorem plain_notch (frequencyHz widthHz : F64) :
    ("f=".toList ++ fixed 9 frequencyHz ++ ":t=h:w=".toList ++ fixed 9 widthHz ++
      ":r=f32".toList).all isPlain = true := by
  simp [isPlain]

/-- One section of the notch. -/
def notchClause (frequencyHz widthHz : F64) : Clause :=
  filterClause bandrejectName _ (plain_notch frequencyHz widthHz)

/-- A section of the notch between two links. -/
def notchChain (frequencyHz widthHz : F64) (current next : FixedLink) : Chain FixedLink :=
  ⟨[current], notchClause frequencyHz widthHz, [], [next]⟩

theorem notchSection_text (frequencyHz widthHz : F64) (current next : FixedLink) :
    GraphDescriptionFactory.notchSection frequencyHz widthHz current.text next.text =
      (Chain.map FixedLink.name (notchChain frequencyHz widthHz current next)).text ++ [';'] := by
  rw [notchChain, FixedLink.text_map, notchClause, filterClause_text, bandrejectName_text]
  unfold GraphDescriptionFactory.notchSection
  simp [restText]

theorem decodedToneNotch_describes {frequencyHz widthHz : F64} {text : Str}
    (h : GraphDescriptionFactory.decodedToneNotch frequencyHz widthHz = .ok text) :
    DescribesGraph text [] := by
  have hwired : Wired [FixedLink.source] [.sink]
      [⟨[.source], [.ctn0]⟩, ⟨[.ctn0], [.ctn1]⟩, ⟨[.ctn1], [.ctn2]⟩, ⟨[.ctn2], [.sink]⟩] :=
    ⟨by decide, by decide, by decide⟩
  unfold GraphDescriptionFactory.decodedToneNotch at h
  split at h
  · cases h
  · obtain rfl := Except.ok.inj h
    let notch := notchChain frequencyHz widthHz
    refine describesGraph_of_fixed (c := [notch .source .ctn0, notch .ctn0 .ctn1,
      notch .ctn1 .ctn2, notch .ctn2 .sink]) hwired ?_ rfl
    rw [← parse_terminated]
    refine congrArg FilterGraph.parse ?_
    simp only [Chain.terminated, List.map_cons, List.map_nil, List.flatMap_cons, List.flatMap_nil,
      notch, ← notchSection_text, FixedLink.text_source, FixedLink.text_sink,
      FixedLink.text_ctn0, FixedLink.text_ctn1, FixedLink.text_ctn2, List.append_nil,
      List.append_assoc]

/-- `aformat` -/
def formatName : Name := ⟨"aformat".toList, by decide⟩

theorem formatName_text : formatName.text = "aformat".toList := rfl

/-- The format of the samples. -/
def formatClause : Clause :=
  filterClause formatName "sample_fmts=flt".toList (by simp [isPlain])

/-- The loss of a code that is sent. -/
def compensationClause : Clause :=
  filterClause volumeName "-3.42dB".toList (by simp [isPlain])

/-- The crossover above the code. -/
def splitClause : Clause :=
  filterClause acrossoverName "split=250:order=20th:precision=float".toList (by simp [isPlain])

/-- The low band of the code, the high band into a sink. -/
def dcsSplit : List (Chain FixedLink) :=
  [⟨[.source], splitClause, [], [.low, .high]⟩, ⟨[.high], anullsinkClause, [], []⟩]

/-- The chain behind the low band; a turn-off code is sent as it is. -/
def dcsLast (turnoff : Bool) : Chain FixedLink :=
  if turnoff then ⟨[.low], formatClause, [], [.sink]⟩
  else ⟨[.low], compensationClause, [formatClause], [.sink]⟩

theorem dcsFilter_text (turnoff : Bool) : GraphDescriptionFactory.dcsFilter turnoff =
    Chain.terminated (dcsSplit.map (Chain.map FixedLink.name)) ++
      (Chain.map FixedLink.name (dcsLast turnoff)).text := by
  unfold GraphDescriptionFactory.dcsFilter dcsSplit
  cases turnoff <;>
    simp only [dcsLast, if_true, if_false, Bool.false_eq_true, Chain.terminated, List.map_cons,
      List.map_nil, List.flatMap_cons, List.flatMap_nil, FixedLink.text_map, splitClause,
      formatClause, compensationClause, filterClause_text, acrossoverName_text, volumeName_text,
      formatName_text, anullsinkClause_text, FixedLink.text_source, FixedLink.text_sink,
      FixedLink.text_low, FixedLink.text_high, restText] <;>
    simp

theorem dcsFilter_describes (turnoff : Bool) :
    DescribesGraph (GraphDescriptionFactory.dcsFilter turnoff) [] := by
  have hwired : Wired [FixedLink.source] [.sink]
      [⟨[.source], [.low, .high]⟩, ⟨[.high], []⟩, ⟨[.low], [.sink]⟩] :=
    ⟨by decide, by decide, by decide⟩
  refine describesGraph_of_fixed (c := dcsSplit ++ [dcsLast turnoff]) ?_ ?_ ?_
  · cases turnoff <;> exact hwired
  · rw [dcsFilter_text, parse_text]
    simp
  · cases turnoff <;> rfl

/-! ## What a caller has -/

/-- The graphs of a chain, for a path of the plugin without a quote. The graph of the dynamics is made at the
rates that are accepted; the graph of the transmitter is made at 48 kHz. -/
theorem chain_graphs (m : Elementary) (factory : GraphDescriptionFactory) (chain : ProcessingChain)
    (hpath : '\'' ∉ factory.agcPluginPath) :
    (∀ sampleRateHz,
      if 8000 ≤ sampleRateHz ∧ sampleRateHz ≤ 384000 then
        ChainOutcome chain sampleRateHz (factory.dynamicsAtRate m chain sampleRateHz)
      else factory.dynamicsAtRate m chain sampleRateHz = .error .invalidSampleRate) ∧
    ∀ preemphasisEnabled preemphasisCornerHz, ChainOutcome chain 48000
      (factory.transmitter m chain preemphasisEnabled preemphasisCornerHz) := by
  refine ⟨fun sampleRateHz => ?_, fun preemphasisEnabled preemphasisCornerHz => ?_⟩
  · unfold GraphDescriptionFactory.dynamicsAtRate
    by_cases h : 8000 ≤ sampleRateHz ∧ sampleRateHz ≤ 384000
    · rw [if_pos h, if_pos h]
      exact orderedChain_describes m chain hpath false false 0.0 sampleRateHz
    · rw [if_neg h, if_neg h]
  · exact orderedChain_describes m chain hpath true preemphasisEnabled preemphasisCornerHz 48000

/-- A plug-in at the usual place. -/
def ladspaFactory : GraphDescriptionFactory where
  agcPluginPath := "/usr/lib/ladspa/agc.so".toList
  singleLine := by simp [isLineDelimiter]

theorem ladspaFactory_path : ladspaFactory.agcPluginPath = "/usr/lib/ladspa/agc.so".toList := rfl

/-- The functions at the arguments of a transmitter with the shipped levels and a corner of 300 Hz. -/
def transmitterElementary : Elementary where
  powf x y := if x = 2.0 then 2.0 else
    ((([(-6.2, 0.4897788193684462), (-18.0, 0.12589254117941673), (-55.0, 0.0017782794100389228),
      (-9.0, 0.35481338923357547), (-6.0, 0.5011872336272722), (9.0, 2.8183829312644537),
      (-1.5, 0.8413951416451951), (6.0, 1.9952623149688795), (-3.0, 0.7079457843841379)] :
      List (F64 × F64)).find? fun level => level.1 / 20.0 = y).map Prod.snd).getD 1.0
  exp _ := 0.9614911598014075
  cos _ := 0.9914448613738104
  sqrt x := if x = 2.0 then 1.4142135623730951 else 0.1339190467907927

/-- The shipped receiver with all its stages but the expander, and with its peak limiter. -/
def dynamicsChain : ProcessingChain where
  role := .localReceive
  value
    | .flag .deesserEnabled | .flag .agcEnabled | .flag .compressorEnabled | .flag .limiterEnabled
    | .flag .peakLimiterEnabled => true
    | f => ProcessingChain.shippedValue .localReceive f

/-- The filters of a pre-emphasized transmitter, with three bands in the compressor and the limiter. -/
theorem chain_graphs_ladspa : ∃ text,
    ladspaFactory.transmitter transmitterElementary dynamicsChain true 300.0 = .ok text ∧
    DescribesGraph text ([.equalizer, .agc, .deesser] ++ List.replicate 3 .compressor ++
      List.replicate 3 .limiter) := by
  have hpath : '\'' ∉ ladspaFactory.agcPluginPath := by
    rw [ladspaFactory_path]
    simp
  have hgraph : ∀ chain cornerHz, ¬crossoverAboveNyquist chain 48000 = true → ∃ text,
      ladspaFactory.transmitter transmitterElementary chain true cornerHz = .ok text ∧
      DescribesGraph text ((enabledOrder chain).flatMap fun stage =>
        List.replicate (stageFilters chain stage) stage) := by
    intro chain cornerHz hcrossover
    have h := (chain_graphs transmitterElementary ladspaFactory chain hpath).2 true cornerHz
    rwa [ChainOutcome, if_neg hcrossover] at h
  have hstages : ((enabledOrder dynamicsChain).flatMap fun stage =>
      List.replicate (stageFilters dynamicsChain stage) stage) =
        [.equalizer, .agc, .deesser] ++ List.replicate 3 .compressor ++ List.replicate 3 .limiter := by
    decide +kernel
  exact hstages ▸ hgraph dynamicsChain 300.0 (by decide +kernel)

/-- The graphs with fixed labels. No stage of a chain is in them, and the notch is refused outside its range. -/
theorem fixed_graphs (m : Elementary) :
    (∀ chain, DescribesGraph (GraphDescriptionFactory.receiveFilter chain) []) ∧
    (∀ enabled cornerHz,
      DescribesGraph (GraphDescriptionFactory.receiveDeemphasis m enabled cornerHz) []) ∧
    (∀ frequencyHz widthHz,
      if frequencyHz.isFinite && (F64.le 50.0 frequencyHz && frequencyHz.le 300.0) then
        ∃ text, GraphDescriptionFactory.decodedToneNotch frequencyHz widthHz = .ok text ∧
          DescribesGraph text []
      else GraphDescriptionFactory.decodedToneNotch frequencyHz widthHz =
        .error .invalidNotchFrequency) ∧
    ∀ turnoff, DescribesGraph (GraphDescriptionFactory.dcsFilter turnoff) [] := by
  refine ⟨receiveFilter_describes, receiveDeemphasis_describes m, fun frequencyHz widthHz => ?_,
    dcsFilter_describes⟩
  by_cases h : (frequencyHz.isFinite && (F64.le 50.0 frequencyHz && frequencyHz.le 300.0)) = true
  · rw [if_pos h]
    have hrange : ¬(!frequencyHz.isFinite ||
        !(F64.le 50.0 frequencyHz && frequencyHz.le 300.0)) = true := by
      rw [← Bool.not_and, h]
      simp
    exact ⟨_, if_neg hrange, decodedToneNotch_describes (if_neg hrange)⟩
  · rw [if_neg h]
    refine if_pos ?_
    rw [← Bool.not_and, Bool.eq_false_iff.mpr h]
    rfl

end Core
end UsbRadioPlus
