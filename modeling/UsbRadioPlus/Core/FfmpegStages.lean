import UsbRadioPlus.Core.FfmpegGraph
import UsbRadioPlus.Sys.FilterGraph

/-!
# The graphs of the stages

A stage has ports: its input, its output and the links within it. `Draws text marks` says that the text of a
stage is the text of chains that are wired from the input to the output, whatever names the ports get, and that
`marks` are the processing stages of its filters.

The path of the plug-in stands between quotes, where no character ends it but a quote.
-/

namespace UsbRadioPlus
namespace Core

open Rust F64 Sys Sys.FilterGraph

/-- A link within a stage. -/
inductive Branch where
  | main | sc | det | lo | mid | hi | loc | midc | hic | pass
  deriving DecidableEq

/-- The name of a branch behind the number of its stage. -/
def Branch.text : Branch → Str
  | .main => "main".toList
  | .sc => "sc".toList
  | .det => "det".toList
  | .lo => "lo".toList
  | .mid => "mid".toList
  | .hi => "hi".toList
  | .loc => "loc".toList
  | .midc => "midc".toList
  | .hic => "hic".toList
  | .pass => "pass".toList

/-- The links of a stage: the one it takes, the one it makes, and its own. -/
inductive Port where
  | input | output
  | branch (b : Branch)
  deriving DecidableEq

/-- The name that a stage gives a port. -/
def GraphEdge.name (edge : GraphEdge) : Port → Str
  | .input => edge.input
  | .output => edge.output
  | .branch b => edge.start ++ b.text

/-- The processing stage that a filter belongs to. -/
def stageNamed (name : Str) (arguments : Option Str) : Option ProcessingStage :=
  if name = "equalizer".toList then some .equalizer
  else if name = "adynamicequalizer".toList then some .deesser
  else if name = "ladspa".toList then some .agc
  else if name = "sidechaingate".toList then some .expander
  else if name = "sidechaincompress".toList then some .compressor
  else if name = "acompressor".toList then
    if "detection=peak".toList.isSuffixOf (arguments.getD []) then some .limiter else some .compressor
  else none

/-- The processing stage of a filter of a graph. -/
def stageOf (filter : Filter) : Option ProcessingStage := stageNamed filter.name filter.arguments

/-- The processing stages of the filters of a graph, in their order. -/
def graphStages (graph : Graph) : List ProcessingStage := graph.flatten.filterMap stageOf

/-- The stage that a filter belongs to. -/
def clauseStage (clause : Clause) : Option ProcessingStage :=
  stageNamed clause.name.text (clause.argument.map Argument.value)

/-- The stages of a graph, filter by filter. -/
def chainStages {L : Type} (chains : List (Chain L)) : List ProcessingStage :=
  (chains.flatMap Chain.clauses).filterMap clauseStage

theorem filters_filterMap_stageOf (ins outs : List Str) (clause : Clause) (rest : List Clause) :
    (Chain.filters ins outs clause rest).filterMap stageOf =
      (clause :: rest).filterMap clauseStage := by
  induction rest generalizing clause ins with
  | nil => rfl
  | cons next rest ih =>
    rw [Chain.filters, List.filterMap_cons, List.filterMap_cons, ih [] next]
    rfl

theorem graphStages_value (chains : List (Chain Name)) :
    graphStages (chains.map Chain.value) = chainStages chains := by
  induction chains with
  | nil => rfl
  | cons chain rest ih =>
    simp only [graphStages, chainStages, List.map_cons, List.flatten_cons, List.flatMap_cons,
      List.filterMap_append] at ih ⊢
    rw [ih]
    exact congrArg (· ++ _) (filters_filterMap_stageOf _ _ _ _)

theorem chainStages_append {L : Type} (cs ds : List (Chain L)) :
    chainStages (cs ++ ds) = chainStages cs ++ chainStages ds := by
  simp [chainStages]

theorem chainStages_map {L M : Type} (f : L → M) (cs : List (Chain L)) :
    chainStages (cs.map (Chain.map f)) = chainStages cs := by
  have hclauses : ∀ chain : Chain L, (chain.map f).clauses = chain.clauses := fun _ => rfl
  simp [chainStages, List.flatMap_map, hclauses]

/-! ## Drawn stages -/

/-- The text of a stage draws chains from its input to its output. -/
def Draws (text : GraphEdge → Str) (marks : List ProcessingStage) : Prop :=
  ∃ chains : List (Chain Port),
    Wired [.input] [.output] (chains.map Chain.node) ∧ chainStages chains = marks ∧
      ∀ (names : Port → Name) (edge : GraphEdge), (∀ port, (names port).text = edge.name port) →
        text edge = Chain.terminated (chains.map (Chain.map names))

theorem all_isPlain_of_fixedChar {text : Str} (h : text.all isFixedChar = true) :
    text.all isPlain = true := by
  refine List.all_eq_true.mpr fun c hc => ?_
  have hne : ∀ d : Char, isFixedChar d = false → c ≠ d := by
    rintro d hd rfl
    rw [List.all_eq_true.mp h c hc] at hd
    cases hd
  simp [isPlain, hne '[' (by decide), hne ']' (by decide), hne ',' (by decide), hne ';' (by decide),
    hne '\\' (by decide), hne '\'' (by decide)]

@[simp] theorem all_isPlain_fixed (places : Nat) (x : F64) : (fixed places x).all isPlain = true :=
  all_isPlain_of_fixedChar (all_fixed places x)

@[simp] theorem all_isPlain_toDigits (n : Nat) : (Nat.toDigits 10 n).all isPlain = true :=
  all_isPlain_of_fixedChar (all_toDigits n)

/-! ## Arguments -/

section Arguments

variable (m : Elementary) (chain : ProcessingChain)

theorem plain_emphasis (production : Bool) (cornerHz : F64) :
    (emphasisArguments m production cornerHz).all isPlain = true := by
  unfold emphasisArguments
  cases production <;> simp [isPlain]

theorem plain_volume (db : F64) : (volumeArguments m db).all isPlain = true := by
  unfold volumeArguments
  simp [isPlain]

theorem plain_band (band : BandNumber → F64) {detection : Str} (h : detection.all isPlain = true) :
    (bandArguments m band detection).all isPlain = true := by
  unfold bandArguments
  simp [isPlain, h]

theorem plain_peakLimiter : (peakLimiterArguments m chain).all isPlain = true := by
  unfold peakLimiterArguments
  simp [isPlain]

theorem plain_bass : (bassArguments chain).all isPlain = true := by
  unfold bassArguments
  simp [isPlain]

theorem plain_equalizer : (equalizerArguments chain).all isPlain = true := by
  unfold equalizerArguments
  simp [isPlain]

theorem plain_treble : (trebleArguments chain).all isPlain = true := by
  unfold trebleArguments
  simp [isPlain]

theorem plain_deesser : (deesserArguments m chain).all isPlain = true := by
  unfold deesserArguments
  simp [isPlain]

theorem plain_agcControls : (agcControls chain).all isPlain = true := by
  unfold agcControls
  simp [isPlain]

theorem plain_expander : (expanderArguments m chain).all isPlain = true := by
  unfold expanderArguments
  simp [isPlain]

theorem plain_sidechaincompress (band : BandNumber → F64) :
    (sidechaincompressArguments m band).all isPlain = true := by
  unfold sidechaincompressArguments
  simp [isPlain]

theorem not_mem_replaceChar {q old : Char} {new text : Str} (hnew : q ∉ new) (h : q ∉ text) :
    q ∉ replaceChar old new text := by
  intro hq
  obtain ⟨c, hc, hmem⟩ := List.mem_flatMap.mp hq
  by_cases hold : c = old
  · rw [if_pos hold] at hmem
    exact hnew hmem
  · rw [if_neg hold, List.mem_singleton] at hmem
    exact h (hmem ▸ hc)

/-- Escapes bring no quote into a path that has none. -/
theorem not_mem_escapeFilterValue {path : Str} (h : '\'' ∉ path) : '\'' ∉ escapeFilterValue path := by
  have hrest : '\'' ∉ replaceChar ':' ['\\', ':'] (replaceChar '\\' ['\\', '\\'] path) :=
    not_mem_replaceChar (by decide) (not_mem_replaceChar (by decide) h)
  intro hq
  obtain ⟨c, hc, hmem⟩ := List.mem_flatMap.mp hq
  by_cases hold : c = '\''
  · exact hrest (hold ▸ hc)
  · rw [if_neg hold, List.mem_singleton] at hmem
    exact hold hmem.symm

theorem literal_ladspa {factory : GraphDescriptionFactory} (h : '\'' ∉ factory.agcPluginPath) :
    ∃ value, Literal (ladspaArguments factory chain) value := by
  have hstart : Literal "file=".toList "file=".toList := .of_all (by simp [isPlain])
  have hrest : Literal (":plugin=usbradioplus_agc_lufs:controls=".toList ++ agcControls chain) _ :=
    .of_all (by
      rw [List.all_append, plain_agcControls]
      simp [isPlain])
  have hquoted := hstart.append (Literal.quoted (not_mem_escapeFilterValue h) hrest)
  have htext : ladspaArguments factory chain = "file=".toList ++
      '\'' :: (escapeFilterValue factory.agcPluginPath ++ '\'' ::
        (":plugin=usbradioplus_agc_lufs:controls=".toList ++ agcControls chain)) := by
    unfold ladspaArguments
    simp
  rw [htext]
  exact ⟨_, hquoted⟩

end Arguments

/-! ## Shapes -/

section Shapes

variable {text : GraphEdge → Str}

theorem wired_through : Wired [Port.input] [.output] [⟨[.input], [.output]⟩] :=
  ⟨by decide, by decide, by decide⟩

theorem wired_sidechain : Wired [Port.input] [.output]
    [⟨[.input], [.branch .main, .branch .sc]⟩, ⟨[.branch .sc], [.branch .det]⟩,
      ⟨[.branch .main, .branch .det], [.output]⟩] :=
  ⟨by decide, by decide, by decide⟩

theorem wired_lowpass : Wired [Port.input] [.output]
    [⟨[.input], [.output, .branch .hi]⟩, ⟨[.branch .hi], []⟩] :=
  ⟨by decide, by decide, by decide⟩

theorem wired_highpass : Wired [Port.input] [.output]
    [⟨[.input], [.branch .lo, .output]⟩, ⟨[.branch .lo], []⟩] :=
  ⟨by decide, by decide, by decide⟩

theorem wired_bandpass : Wired [Port.input] [.output]
    [⟨[.input], [.branch .lo, .branch .pass]⟩, ⟨[.branch .lo], []⟩,
      ⟨[.branch .pass], [.output, .branch .hi]⟩, ⟨[.branch .hi], []⟩] :=
  ⟨by decide, by decide, by decide⟩

/-- The filters of a chain behind the first one. -/
def restText (rest : List Clause) : Str := rest.flatMap fun clause => ',' :: clause.text

/-- A chain through one stage. -/
theorem draws_through (first : Clause) (rest : List Clause) (h : ∀ edge, text edge =
      "[".toList ++ edge.input ++ "]".toList ++ first.text ++ restText rest ++ "[".toList ++
        edge.output ++ "];".toList) :
    Draws text ((first :: rest).filterMap clauseStage) := by
  refine ⟨[⟨[.input], first, rest, [.output]⟩], wired_through, ?_, ?_⟩
  · simp [chainStages, Chain.clauses]
  · intro names edge hnames
    simp [h, Chain.terminated, Chain.text, Chain.map, Chain.labels, hnames, GraphEdge.name, restText]

theorem sidechainClause (name : Str) (hname : isName name = true)
    (hstage : ∀ arguments, stageNamed name arguments = none) (cornerHz : F64) :
    ∃ clause : Clause, clause.text = sidechainFilter name cornerHz ∧ clauseStage clause = none := by
  unfold sidechainFilter
  by_cases h : F64.lt 0.0 cornerHz = true
  · have hplain : ("f=".toList ++ fixed 9 cornerHz ++ ":p=2".toList).all isPlain = true := by
      simp [isPlain]
    refine ⟨⟨⟨name, hname⟩, some (.plain _ hplain)⟩, ?_, hstage _⟩
    simp [Clause.text, Argument.plain, h]
  · refine ⟨⟨⟨"anull".toList, by decide⟩, none⟩, ?_, by decide⟩
    rw [if_neg h, Clause.text, List.append_nil]

/-- A stage with a side chain, of which the main filter has two inputs. -/
theorem draws_sidechain (first : Clause) (rest : List Clause) {filter options : Str}
    (highpassHz lowpassHz : F64)
    (h : first.text ++ restText rest = filter ++ "=".toList ++ options) :
    Draws (fun edge => appendSidechain edge filter highpassHz lowpassHz options)
      ((first :: rest).filterMap clauseStage) := by
  obtain ⟨highpass, hhighpass, hnone⟩ :=
    sidechainClause "highpass".toList (by decide) (fun _ => rfl) highpassHz
  obtain ⟨lowpass, hlowpass, hnone'⟩ :=
    sidechainClause "lowpass".toList (by decide) (fun _ => rfl) lowpassHz
  refine ⟨[⟨[.input], ⟨⟨"asplit".toList, by decide⟩, some (.plain "2".toList (by decide))⟩, [],
      [.branch .main, .branch .sc]⟩,
    ⟨[.branch .sc], highpass, [lowpass], [.branch .det]⟩,
    ⟨[.branch .main, .branch .det], first, rest, [.output]⟩], wired_sidechain, ?_, ?_⟩
  · have hsplit : clauseStage ⟨⟨"asplit".toList, by decide⟩, some (.plain "2".toList (by decide))⟩ =
        none := rfl
    simp only [chainStages, Chain.clauses, List.flatMap_cons, List.flatMap_nil, List.append_nil,
      List.cons_append, List.nil_append, List.filterMap_cons, hsplit, hnone, hnone']
  · intro names edge hnames
    have hfilter : ∀ t : Str, filter ++ '=' :: (options ++ t) = first.text ++ (restText rest ++ t) := by
      intro t
      rw [← List.append_assoc first.text, h, List.append_assoc, List.append_assoc]
      rfl
    unfold appendSidechain
    rw [← hhighpass, ← hlowpass]
    simp [Chain.terminated, Chain.text, Chain.map, Chain.labels, hnames, GraphEdge.name,
      Branch.text, Clause.text, Argument.plain, hfilter, restText]

theorem wired_threeBand : Wired [Port.input] [.output]
    [⟨[.input], [.branch .lo, .branch .mid, .branch .hi]⟩, ⟨[.branch .lo], [.branch .loc]⟩,
      ⟨[.branch .mid], [.branch .midc]⟩, ⟨[.branch .hi], [.branch .hic]⟩,
      ⟨[.branch .loc, .branch .midc, .branch .hic], [.output]⟩] :=
  ⟨by decide, by decide, by decide⟩

end Shapes

/-! ## The stages -/

section Stages

variable (m : Elementary) (chain : ProcessingChain)

/-- A filter with plain arguments. -/
def filterClause (name : Name) (text : Str) (h : text.all isPlain = true) : Clause :=
  ⟨name, some (.plain text h)⟩

@[simp] theorem filterClause_text (name : Name) (text : Str) (h : text.all isPlain = true) :
    (filterClause name text h).text = name.text ++ '=' :: text := rfl

@[simp] theorem clauseStage_filterClause (name : Name) (text : Str) (h : text.all isPlain = true) :
    clauseStage (filterClause name text h) = stageNamed name.text (some text) := rfl

/-- `volume` -/
def volumeName : Name := ⟨"volume".toList, by decide⟩

theorem volumeName_text : volumeName.text = "volume".toList := rfl

/-- `acompressor` -/
def acompressorName : Name := ⟨"acompressor".toList, by decide⟩

theorem acompressorName_text : acompressorName.text = "acompressor".toList := rfl

theorem draws_volume (db : F64) : Draws (fun edge => appendVolume m edge db) [] := by
  refine draws_through (filterClause volumeName _ (plain_volume m db)) [] ?_
  intro edge
  simp [appendVolume, volumeName, restText]

theorem draws_emphasis (production : Bool) (cornerHz : F64) :
    Draws (fun edge => appendEmphasis m edge production cornerHz) [] := by
  refine draws_through (filterClause ⟨"biquad".toList, by decide⟩ _
    (plain_emphasis m production cornerHz)) [] ?_
  intro edge
  unfold appendEmphasis
  simp [restText]

theorem draws_equalizer : Draws (fun edge => equalizerText edge chain) [.equalizer] := by
  refine draws_through (filterClause ⟨"bass".toList, by decide⟩ _ (plain_bass chain))
    ([filterClause ⟨"equalizer".toList, by decide⟩ _ (plain_equalizer chain),
      filterClause ⟨"treble".toList, by decide⟩ _ (plain_treble chain)]) ?_
  intro edge
  unfold equalizerText
  simp [restText]

theorem draws_deesser : Draws (fun edge => deesserText m edge chain) [.deesser] := by
  refine draws_through (filterClause ⟨"adynamicequalizer".toList, by decide⟩ _
    (plain_deesser m chain)) [] ?_
  intro edge
  unfold deesserText
  simp [restText]

theorem draws_expander : Draws (fun edge => expanderText m edge chain) [.expander] :=
  draws_sidechain (filterClause ⟨"sidechaingate".toList, by decide⟩ _
    (plain_expander m chain)) [] _ _ (by simp [restText])

theorem draws_agc {factory : GraphDescriptionFactory} (h : '\'' ∉ factory.agcPluginPath) :
    Draws (fun edge => agcText factory edge chain) [.agc] := by
  obtain ⟨value, hvalue⟩ := literal_ladspa chain h
  refine draws_sidechain
    (filterClause ⟨"join".toList, by decide⟩
      "inputs=2:channel_layout=stereo:map=0.0-FL|1.0-FR".toList (by simp [isPlain]))
    ([⟨⟨"ladspa".toList, by decide⟩, some ⟨_, value, hvalue⟩⟩,
      filterClause ⟨"aformat".toList, by decide⟩ "channel_layouts=mono".toList (by simp [isPlain])])
    _ _ ?_
  simp [restText, Clause.text, filterClause, Argument.plain]

theorem stageNamed_acompressor (arguments : Str) :
    stageNamed acompressorName.text (some arguments) =
      if "detection=peak".toList.isSuffixOf arguments then some .limiter else some .compressor := rfl

theorem bandArguments_eq (band : BandNumber → F64) :
    ∃ start : Str, ∀ detection, bandArguments m band detection =
      start ++ ":detection=".toList ++ detection :=
  ⟨_, fun _ => rfl⟩

theorem stageNamed_peak (band : BandNumber → F64) :
    stageNamed acompressorName.text (some (bandArguments m band "peak".toList)) = some .limiter := by
  obtain ⟨start, hstart⟩ := bandArguments_eq m band
  rw [stageNamed_acompressor, if_pos]
  rw [List.isSuffixOf_iff_suffix, hstart]
  exact ⟨start ++ [':'], by simp⟩

theorem stageNamed_rms (band : BandNumber → F64) :
    stageNamed acompressorName.text (some (bandArguments m band "rms".toList)) = some .compressor := by
  obtain ⟨start, hstart⟩ := bandArguments_eq m band
  rw [stageNamed_acompressor, if_neg]
  rw [List.isSuffixOf_iff_suffix, hstart]
  rintro ⟨rest, hrest⟩
  have hlast := congrArg List.getLast? hrest
  simp at hlast

/-- The gain of a band, where it has one. -/
def makeupClauses (band : BandNumber → F64) : List Clause :=
  if (band .makeupGainDb).isZero then []
  else [filterClause volumeName _ (plain_volume m (band .makeupGainDb))]

theorem makeupClauses_stage (band : BandNumber → F64) :
    (makeupClauses m band).filterMap clauseStage = [] := by
  unfold makeupClauses
  split <;> rfl

theorem restText_makeupClauses (band : BandNumber → F64) :
    restText (makeupClauses m band) =
      if (band .makeupGainDb).isZero then []
      else ",volume=".toList ++ volumeArguments m (band .makeupGainDb) := by
  unfold makeupClauses
  by_cases hzero : (band .makeupGainDb).isZero = true
  · rw [if_pos hzero, if_pos hzero]
    rfl
  · rw [if_neg hzero, if_neg hzero]
    simp [restText, volumeName]

theorem appendBand_eq (edge : GraphEdge) (name : Str) (band : BandNumber → F64) (detection : Str) :
    appendBand m edge name band detection =
      "[".toList ++ edge.start ++ name ++ "]acompressor=".toList ++ bandArguments m band detection ++
        restText (makeupClauses m band) ++ "[".toList ++ edge.start ++ name ++ "c];".toList := by
  rw [restText_makeupClauses]
  rfl

set_option maxRecDepth 4000 in
theorem draws_threeBand (lowCrossoverHz highCrossoverHz : F64) (bands : Band → BandNumber → F64)
    {detection : Str} (hdetection : detection.all isPlain = true) {stage : ProcessingStage}
    (hstage : ∀ band, stageNamed acompressorName.text (some (bandArguments m band detection)) =
      some stage) :
    Draws (fun edge => appendThreeBand m edge lowCrossoverHz highCrossoverHz bands detection)
      [stage, stage, stage] := by
  have hcrossover : ("split=".toList ++ fixed 9 lowCrossoverHz ++ " ".toList ++
      fixed 9 highCrossoverHz ++ ":order=4th".toList).all isPlain = true := by
    simp [isPlain]
  refine ⟨[⟨[.input], filterClause ⟨"acrossover".toList, by decide⟩ _ hcrossover, [],
      [.branch .lo, .branch .mid, .branch .hi]⟩,
    ⟨[.branch .lo], filterClause acompressorName _ (plain_band m (bands .low) hdetection),
      makeupClauses m (bands .low), [.branch .loc]⟩,
    ⟨[.branch .mid], filterClause acompressorName _ (plain_band m (bands .mid) hdetection),
      makeupClauses m (bands .mid), [.branch .midc]⟩,
    ⟨[.branch .hi], filterClause acompressorName _ (plain_band m (bands .high) hdetection),
      makeupClauses m (bands .high), [.branch .hic]⟩,
    ⟨[.branch .loc, .branch .midc, .branch .hic],
      filterClause ⟨"amix".toList, by decide⟩ "inputs=3:normalize=0".toList (by simp [isPlain]), [],
      [.output]⟩], wired_threeBand, ?_, ?_⟩
  · have hnone : ∀ arguments, stageNamed "acrossover".toList (some arguments) = none := fun _ => rfl
    have hnone' : ∀ arguments, stageNamed "amix".toList (some arguments) = none := fun _ => rfl
    simp only [chainStages, Chain.clauses, List.flatMap_cons, List.flatMap_nil, List.append_nil,
      List.cons_append, List.nil_append, List.filterMap_cons, List.filterMap_append,
      List.filterMap_nil, clauseStage_filterClause, hstage, makeupClauses_stage, hnone, hnone']
  · intro names edge hnames
    unfold appendThreeBand
    simp only [appendBand_eq]
    simp only [Chain.terminated, List.flatMap_cons, List.map_cons, List.map_nil, List.flatMap_nil,
      Chain.text, Chain.map, Chain.labels, hnames, GraphEdge.name, Branch.text, filterClause_text,
      acompressorName_text, restText]
    simp only [String.reduceToList, List.append_assoc, List.cons_append, List.nil_append, List.append_nil]

/-- The filters of a stage that do its work: a stage with three bands has one for each. -/
def stageFilters (chain : ProcessingChain) : ProcessingStage → Nat
  | .compressor => if chain.value .compressorLayout = BandLayout.threeBand then 3 else 1
  | .limiter => if chain.value .limiterLayout = BandLayout.threeBand then 3 else 1
  | _ => 1

theorem draws_compressor : Draws (fun edge => compressorText m edge chain)
    (List.replicate (stageFilters chain .compressor) .compressor) := by
  unfold compressorText stageFilters
  by_cases h : chain.value .compressorLayout = BandLayout.threeBand
  · simp only [if_pos h]
    exact draws_threeBand m _ _ _ (by simp [isPlain]) (stageNamed_rms m)
  · simp only [if_neg h]
    refine draws_sidechain
      (filterClause ⟨"sidechaincompress".toList, by decide⟩ _
        (plain_sidechaincompress m fun n => chain.number (.compressorBand .full n)))
      ([filterClause volumeName _
        (plain_volume m (chain.number (.compressorBand .full .makeupGainDb)))]) _ _ ?_
    simp [restText, volumeName]

theorem draws_limiter : Draws (fun edge => limiterText m edge chain)
    (List.replicate (stageFilters chain .limiter) .limiter) := by
  have hpeak : "peak".toList.all isPlain = true := by simp [isPlain]
  unfold limiterText stageFilters
  by_cases h : chain.value .limiterLayout = BandLayout.threeBand
  · simp only [if_pos h]
    exact draws_threeBand m _ _ _ hpeak (stageNamed_peak m)
  · simp only [if_neg h]
    have hdraws : Draws (fun edge => "[".toList ++ edge.input ++ "]acompressor=".toList ++
        bandArguments m (fun n => chain.number (.limiterBand .full n)) "peak".toList ++ "[".toList ++
        edge.output ++ "];".toList) ([filterClause acompressorName _
          (plain_band m (fun n => chain.number (.limiterBand .full n)) hpeak)].filterMap
            clauseStage) := by
      refine draws_through (filterClause acompressorName _
        (plain_band m (fun n => chain.number (.limiterBand .full n)) hpeak)) [] ?_
      intro edge
      simp only [filterClause_text, acompressorName_text, restText, List.flatMap_nil]
      simp
    rwa [List.filterMap_cons, clauseStage_filterClause, stageNamed_peak] at hdraws

theorem draws_peakLimiter (sampleRateHz : Nat) :
    Draws (fun edge => appendPeakLimiter m edge chain sampleRateHz) [] := by
  have hname : isName "aresample".toList = true := by decide
  have hlimiter : isName "alimiter".toList = true := by decide
  by_cases h : 1 < chain.oversample
  · refine draws_through
      (filterClause ⟨_, hname⟩ _ (all_isPlain_toDigits (sampleRateHz * chain.oversample)))
      ([filterClause ⟨_, hlimiter⟩ _ (plain_peakLimiter m chain),
        filterClause ⟨_, hname⟩ _ (all_isPlain_toDigits sampleRateHz)]) ?_
    intro edge
    simp only [appendPeakLimiter, if_pos h, restText, filterClause_text, List.flatMap_cons,
      List.flatMap_nil]
    simp
  · refine draws_through (filterClause ⟨_, hlimiter⟩ _ (plain_peakLimiter m chain))
      [] ?_
    intro edge
    simp only [appendPeakLimiter, if_neg h, restText, filterClause_text, List.flatMap_nil]
    simp

/-- The filter that drops what it takes. -/
def anullsinkClause : Clause := ⟨⟨"anullsink".toList, by decide⟩, none⟩

theorem anullsinkClause_text : anullsinkClause.text = "anullsink".toList := rfl

/-- The filter that hands on what it takes. -/
def anullClause : Clause := ⟨⟨"anull".toList, by decide⟩, none⟩

theorem anullClause_text : anullClause.text = "anull".toList := rfl

theorem plain_brickwall (hz : F64) :
    ("split=".toList ++ fixed 9 hz ++ ":order=20th".toList).all isPlain = true := by
  simp [isPlain]

/-- `acrossover` -/
def acrossoverName : Name := ⟨"acrossover".toList, by decide⟩

theorem acrossoverName_text : acrossoverName.text = "acrossover".toList := rfl

/-- A crossover of the highest order. -/
def brickwallClause (hz : F64) : Clause := filterClause acrossoverName _ (plain_brickwall hz)

theorem brickwallClause_text (hz : F64) : (brickwallClause hz).text =
    "acrossover=split=".toList ++ fixed 9 hz ++ ":order=20th".toList := by
  rw [brickwallClause, filterClause_text, acrossoverName_text]
  simp

theorem chainStages_none {L : Type} {chains : List (Chain L)}
    (h : ∀ chain ∈ chains, ∀ clause ∈ chain.clauses, clauseStage clause = none) :
    chainStages chains = [] := by
  refine List.filterMap_eq_nil_iff.mpr fun clause hclause => ?_
  obtain ⟨chain, hchain, hmem⟩ := List.mem_flatMap.mp hclause
  exact h chain hchain clause hmem

/-- The band pass, whatever the start of the names within it. -/
theorem draws_bandpass (highpassHz lowpassHz : F64) :
    Draws (fun edge => appendBrickwallBandpass edge highpassHz lowpassHz) [] := by
  have hnone : ∀ hz, clauseStage (brickwallClause hz) = none := fun _ => rfl
  have hsink : clauseStage anullsinkClause = none := rfl
  have hnull : clauseStage anullClause = none := rfl
  unfold appendBrickwallBandpass
  by_cases hhigh : highpassHz.isZero = true <;> by_cases hlow : lowpassHz.isZero = true
  · refine ⟨[⟨[.input], anullClause, [], [.output]⟩], wired_through,
      chainStages_none (by simp [Chain.clauses, hnull]), ?_⟩
    intro names edge hnames
    simp [hhigh, hlow, Chain.terminated, Chain.text, Chain.map, Chain.labels, hnames, GraphEdge.name,
      anullClause_text]
  · refine ⟨[⟨[.input], brickwallClause lowpassHz, [], [.output, .branch .hi]⟩,
        ⟨[.branch .hi], anullsinkClause, [], []⟩], wired_lowpass,
      chainStages_none (by simp [Chain.clauses, hnone, hsink]), ?_⟩
    intro names edge hnames
    simp [hhigh, hlow, Chain.terminated, Chain.text, Chain.map, Chain.labels, hnames, GraphEdge.name,
      Branch.text, brickwallClause_text, anullsinkClause_text]
  · refine ⟨[⟨[.input], brickwallClause highpassHz, [], [.branch .lo, .output]⟩,
        ⟨[.branch .lo], anullsinkClause, [], []⟩], wired_highpass,
      chainStages_none (by simp [Chain.clauses, hnone, hsink]), ?_⟩
    intro names edge hnames
    simp [hhigh, hlow, Chain.terminated, Chain.text, Chain.map, Chain.labels, hnames, GraphEdge.name,
      Branch.text, brickwallClause_text, anullsinkClause_text]
  · refine ⟨[⟨[.input], brickwallClause highpassHz, [], [.branch .lo, .branch .pass]⟩,
        ⟨[.branch .lo], anullsinkClause, [], []⟩,
        ⟨[.branch .pass], brickwallClause lowpassHz, [], [.output, .branch .hi]⟩,
        ⟨[.branch .hi], anullsinkClause, [], []⟩], wired_bandpass,
      chainStages_none (by simp [Chain.clauses, hnone, hsink]), ?_⟩
    intro names edge hnames
    simp [hhigh, hlow, Chain.terminated, Chain.text, Chain.map, Chain.labels, hnames, GraphEdge.name,
      Branch.text, brickwallClause_text, anullsinkClause_text]

/-- A stage draws a graph of filters of its own. -/
theorem draws_stage {factory : GraphDescriptionFactory} (h : '\'' ∉ factory.agcPluginPath)
    (stage : ProcessingStage) :
    Draws (fun edge => appendStage m factory chain edge stage)
      (List.replicate (stageFilters chain stage) stage) := by
  cases stage with
  | equalizer => exact draws_equalizer chain
  | deesser => exact draws_deesser m chain
  | agc => exact draws_agc chain h
  | expander => exact draws_expander m chain
  | compressor => exact draws_compressor m chain
  | limiter => exact draws_limiter m chain

end Stages

end Core
end UsbRadioPlus
