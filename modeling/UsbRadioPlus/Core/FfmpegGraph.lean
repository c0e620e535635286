import UsbRadioPlus.Core.ProcessingProfile
import UsbRadioPlus.Rust.FixedPoint
import UsbRadioPlus.Rust.FloatArithmetic

/-!
# Descriptions of FFmpeg graphs (`rust/core/src/ffmpeg_graph.rs`)

The text of the graphs of a processing chain. A function that writes to `graph` is the text that it appends;
writing to a `String` does not fail. The elementary functions of `f64` are a parameter.
-/

namespace UsbRadioPlus
namespace Core

open Rust F64

/-- The elementary functions of `f64`. -/
structure Elementary where
  powf : F64 → F64 → F64
  exp : F64 → F64
  cos : F64 → F64
  sqrt : F64 → F64

/-- Why no graph is described. -/
inductive GraphDescriptionError where
  | invalidSampleRate | crossoverAboveNyquist | invalidNotchFrequency | invalidAgcPluginPath
  /-- No write to a `String` gives it. -/
  | formatting
  deriving DecidableEq, Repr

/-- `Display` -/
def GraphDescriptionError.text : GraphDescriptionError → Str
  | .invalidSampleRate => "graph sample rate must be between 8000 and 384000 Hz".toList
  | .crossoverAboveNyquist => "dynamics crossover must be below Nyquist".toList
  | .invalidNotchFrequency => "decoded CTCSS notch must be between 50 and 300 Hz".toList
  | .invalidAgcPluginPath => "AGC plug-in path contains an unsupported line delimiter".toList
  | .formatting => "unable to format FFmpeg graph".toList

/-- The characters that end a line of a text. -/
def isLineDelimiter (c : Char) : Bool := c == '\r' || c == '\n'

/-- The path of the plug-in is one line. -/
structure GraphDescriptionFactory where
  agcPluginPath : Str
  singleLine : agcPluginPath.any isLineDelimiter = false

/-- `new`: a path on a single line. -/
def GraphDescriptionFactory.new (path : Str) :
    Except GraphDescriptionError GraphDescriptionFactory :=
  if h : path.any isLineDelimiter = false then .ok ⟨path, h⟩ else .error .invalidAgcPluginPath

/-- The switch of a stage. -/
def stageEnabled (chain : ProcessingChain) : ProcessingStage → Bool
  | .expander => chain.flag .expanderEnabled
  | .agc => chain.flag .agcEnabled
  | .compressor => chain.flag .compressorEnabled
  | .limiter => chain.flag .limiterEnabled
  | .equalizer => chain.flag .equalizerEnabled
  | .deesser => chain.flag .deesserEnabled

/-- The label of `next_label`. -/
def nextLabel (serial : Nat) : Str := 's' :: Nat.toDigits 10 serial

/-- `str::replace` of one character. -/
def replaceChar (old : Char) (new : Str) (text : Str) : Str :=
  text.flatMap fun c => if c = old then new else [c]

/-- `escape_filter_value` -/
def escapeFilterValue (value : Str) : Str :=
  replaceChar '\'' ['\\', '\''] (replaceChar ':' ['\\', ':'] (replaceChar '\\' ['\\', '\\'] value))

/-- The names of the links in front of a stage and behind it, and the start of the names within it
(`prefix`). -/
structure GraphEdge where
  input : Str
  output : Str
  start : Str

variable (m : Elementary)

/-- `db_to_linear` -/
def dbToLinear (db : F64) : F64 := m.powf 10.0 (db / 20.0)

/-- `std::f64::consts::PI` -/
def PI : F64 := 3.141592653589793

/-- The coefficients of `append_emphasis`. -/
def emphasisArguments (production : Bool) (cornerHz : F64) : Str :=
  let pole := m.exp (-2.0 * PI * cornerHz / 48000.0)
  let omega := 2.0 * PI * 1000.0 / 48000.0
  let inverseAtReference := m.sqrt (1.0 + pole * pole - 2.0 * pole * m.cos omega) / (1.0 - pole)
  if production then
    let scale := 1.0 / inverseAtReference
    "b0=".toList ++ fixed 17 (scale / (1.0 - pole)) ++ ":b1=".toList ++
      fixed 17 (-pole * scale / (1.0 - pole)) ++ ":b2=0:a0=1:a1=0:a2=0:precision=f32".toList
  else
    "b0=".toList ++ fixed 17 (inverseAtReference * (1.0 - pole)) ++ ":b1=0:b2=0:a0=1:a1=".toList ++
      fixed 17 (-pole) ++ ":a2=0:precision=f32".toList

/-- `append_emphasis` -/
def appendEmphasis (edge : GraphEdge) (production : Bool) (cornerHz : F64) : Str :=
  "[".toList ++ edge.input ++ "]biquad=".toList ++ emphasisArguments m production cornerHz ++
    "[".toList ++ edge.output ++ "];".toList

/-- The filter of a side chain; no corner, no filter. -/
def sidechainFilter (name : Str) (cornerHz : F64) : Str :=
  if F64.lt 0.0 cornerHz then name ++ "=f=".toList ++ fixed 9 cornerHz ++ ":p=2".toList
  else "anull".toList

/-- `append_sidechain`: one branch is filtered for the detector, the other one is the program. -/
def appendSidechain (edge : GraphEdge) (filter : Str) (highpassHz lowpassHz : F64) (options : Str) :
    Str :=
  let highpass := sidechainFilter "highpass".toList highpassHz
  let lowpass := sidechainFilter "lowpass".toList lowpassHz
  "[".toList ++ edge.input ++ "]asplit=2[".toList ++ edge.start ++ "main][".toList ++ edge.start ++
    "sc];[".toList ++ edge.start ++ "sc]".toList ++ highpass ++ ",".toList ++ lowpass ++ "[".toList ++
    edge.start ++ "det];[".toList ++ edge.start ++ "main][".toList ++ edge.start ++ "det]".toList ++
    filter ++ "=".toList ++ options ++ "[".toList ++ edge.output ++ "];".toList

/-- The controls of one band. -/
def bandArguments (band : BandNumber → F64) (detection : Str) : Str :=
  "mode=downward:threshold=".toList ++ fixed 12 (dbToLinear m (band .thresholdDbfs)) ++
    ":ratio=".toList ++ fixed 9 (band .ratio) ++ ":knee=".toList ++
    fixed 12 (dbToLinear m (band .kneeDb)) ++ ":attack=".toList ++ fixed 9 (band .attackMs) ++
    ":release=".toList ++ fixed 9 (band .releaseMs) ++ ":detection=".toList ++ detection

/-- The controls of a gain. -/
def volumeArguments (db : F64) : Str := fixed 12 (dbToLinear m db) ++ ":precision=float".toList

/-- The text of one band of `append_three_band`. -/
def appendBand (edge : GraphEdge) (name : Str) (band : BandNumber → F64) (detection : Str) : Str :=
  "[".toList ++ edge.start ++ name ++ "]acompressor=".toList ++ bandArguments m band detection ++
    (if (band .makeupGainDb).isZero then []
      else ",volume=".toList ++ volumeArguments m (band .makeupGainDb)) ++
    "[".toList ++ edge.start ++ name ++ "c];".toList

/-- `append_three_band`: three bands that are compressed and mixed again. -/
def appendThreeBand (edge : GraphEdge) (lowCrossoverHz highCrossoverHz : F64)
    (bands : Band → BandNumber → F64) (detection : Str) : Str :=
  "[".toList ++ edge.input ++ "]acrossover=split=".toList ++ fixed 9 lowCrossoverHz ++ " ".toList ++
    fixed 9 highCrossoverHz ++ ":order=4th[".toList ++ edge.start ++ "lo][".toList ++ edge.start ++
    "mid][".toList ++ edge.start ++ "hi];".toList ++
    appendBand m edge "lo".toList (bands .low) detection ++
    appendBand m edge "mid".toList (bands .mid) detection ++
    appendBand m edge "hi".toList (bands .high) detection ++
    "[".toList ++ edge.start ++ "loc][".toList ++ edge.start ++ "midc][".toList ++ edge.start ++
    "hic]amix=inputs=3:normalize=0[".toList ++ edge.output ++ "];".toList

/-- `append_brickwall_bandpass`: a corner of zero leaves its side open. -/
def appendBrickwallBandpass (edge : GraphEdge) (highpassHz lowpassHz : F64) : Str :=
  if highpassHz.isZero && lowpassHz.isZero then
    "[".toList ++ edge.input ++ "]anull[".toList ++ edge.output ++ "];".toList
  else if highpassHz.isZero then
    "[".toList ++ edge.input ++ "]acrossover=split=".toList ++ fixed 9 lowpassHz ++
      ":order=20th[".toList ++ edge.output ++ "][".toList ++ edge.start ++ "hi];[".toList ++
      edge.start ++ "hi]anullsink;".toList
  else if lowpassHz.isZero then
    "[".toList ++ edge.input ++ "]acrossover=split=".toList ++ fixed 9 highpassHz ++
      ":order=20th[".toList ++ edge.start ++ "lo][".toList ++ edge.output ++ "];[".toList ++
      edge.start ++ "lo]anullsink;".toList
  else
    "[".toList ++ edge.input ++ "]acrossover=split=".toList ++ fixed 9 highpassHz ++
      ":order=20th[".toList ++ edge.start ++ "lo][".toList ++ edge.start ++ "pass];[".toList ++
      edge.start ++ "lo]anullsink;[".toList ++ edge.start ++ "pass]acrossover=split=".toList ++
      fixed 9 lowpassHz ++ ":order=20th[".toList ++ edge.output ++ "][".toList ++ edge.start ++
      "hi];[".toList ++ edge.start ++ "hi]anullsink;".toList

/-- The gain in front of the stages and the gain behind them. -/
def appendVolume (edge : GraphEdge) (db : F64) : Str :=
  "[".toList ++ edge.input ++ "]volume=".toList ++ volumeArguments m db ++ "[".toList ++ edge.output ++
    "];".toList

/-- The controls of the limiter. -/
def peakLimiterArguments (chain : ProcessingChain) : Str :=
  "limit=".toList ++ fixed 12 (dbToLinear m (chain.number .peakLimiterCeilingDbfs)) ++
    ":attack=".toList ++ fixed 9 (chain.number .peakLimiterLookaheadMs) ++ ":release=".toList ++
    fixed 9 (chain.number .peakLimiterReleaseMs) ++ ":level=0:latency=0".toList

/-- The limiter, at a multiple of the rate where it is oversampled. -/
def appendPeakLimiter (edge : GraphEdge) (chain : ProcessingChain) (sampleRateHz : Nat) : Str :=
  "[".toList ++ edge.input ++ "]".toList ++
    (if 1 < chain.oversample then
      "aresample=".toList ++ Nat.toDigits 10 (sampleRateHz * chain.oversample) ++ ",".toList
    else []) ++
    "alimiter=".toList ++ peakLimiterArguments m chain ++
    (if 1 < chain.oversample then ",aresample=".toList ++ Nat.toDigits 10 sampleRateHz else []) ++
    "[".toList ++ edge.output ++ "];".toList

/-! ## The stages -/

/-- The controls of the low shelf. -/
def bassArguments (chain : ProcessingChain) : Str :=
  "g=".toList ++ fixed 9 (chain.number .equalizerLowGainDb) ++ ":f=".toList ++
    fixed 9 (chain.number .equalizerLowFrequencyHz) ++ ":t=s:w=".toList ++
    fixed 9 (chain.number .equalizerLowSlope) ++ ":r=f32".toList

/-- The controls of the middle band. -/
def equalizerArguments (chain : ProcessingChain) : Str :=
  "f=".toList ++ fixed 9 (chain.number .equalizerMidFrequencyHz) ++ ":t=o:w=".toList ++
    fixed 9 (chain.number .equalizerMidWidthOctaves) ++ ":g=".toList ++
    fixed 9 (chain.number .equalizerMidGainDb) ++ ":r=f32".toList

/-- The controls of the high shelf. -/
def trebleArguments (chain : ProcessingChain) : Str :=
  "g=".toList ++ fixed 9 (chain.number .equalizerHighGainDb) ++ ":f=".toList ++
    fixed 9 (chain.number .equalizerHighFrequencyHz) ++ ":t=s:w=".toList ++
    fixed 9 (chain.number .equalizerHighSlope) ++ ":r=f32".toList

/-- The three filters of the equalizer. -/
def equalizerText (edge : GraphEdge) (chain : ProcessingChain) : Str :=
  "[".toList ++ edge.input ++ "]bass=".toList ++ bassArguments chain ++ ",equalizer=".toList ++
    equalizerArguments chain ++ ",treble=".toList ++ trebleArguments chain ++ "[".toList ++
    edge.output ++ "];".toList

/-- The controls of the de-esser. -/
def deesserArguments (chain : ProcessingChain) : Str :=
  let octaveRatio := m.powf 2.0 (chain.number .deesserWidthOctaves)
  let q := m.sqrt octaveRatio / (octaveRatio - 1.0)
  "threshold=".toList ++ fixed 12 (dbToLinear m (chain.number .deesserThresholdDbfs)) ++
    ":dfrequency=".toList ++ fixed 9 (chain.number .deesserFrequencyHz) ++ ":dqfactor=".toList ++
    fixed 12 q ++ ":tfrequency=".toList ++ fixed 9 (chain.number .deesserFrequencyHz) ++
    ":tqfactor=".toList ++ fixed 12 q ++ ":attack=".toList ++ fixed 9 (chain.number .deesserAttackMs) ++
    ":release=".toList ++ fixed 9 (chain.number .deesserReleaseMs) ++ ":ratio=".toList ++
    fixed 9 (chain.number .deesserRatio) ++ ":range=".toList ++
    fixed 12 (chain.number .deesserMaxReductionDb / 2.0) ++
    ":mode=cutabove:dftype=bandpass:tftype=bell:precision=float".toList

/-- The filter of the de-esser. -/
def deesserText (edge : GraphEdge) (chain : ProcessingChain) : Str :=
  "[".toList ++ edge.input ++ "]adynamicequalizer=".toList ++ deesserArguments m chain ++
    "[".toList ++ edge.output ++ "];".toList

/-- The controls of the plug-in, by position. -/
def agcControls (chain : ProcessingChain) : Str :=
  "c0=".toList ++ fixed 12 (chain.number .agcTargetLufs) ++ "|c1=".toList ++
    fixed 12 (chain.number .agcLoudnessWindowMs) ++ "|c2=".toList ++
    fixed 12 (chain.number .agcGainIncreaseDbPerSecond) ++ "|c3=".toList ++
    fixed 12 (chain.number .agcGainDecreaseDbPerSecond) ++ "|c4=".toList ++
    fixed 12 (chain.number .agcMaxGainDb) ++ "|c5=".toList ++
    fixed 12 (chain.number .agcMaxAttenuationDb) ++ "|c6=".toList ++
    fixed 12 (chain.number .agcActivityThresholdDbfs) ++ "|c7=".toList ++
    fixed 12 (chain.number .agcActivityHysteresisDb) ++ "|c8=".toList ++
    fixed 12 (chain.number .agcHoldMs) ++ "|c9=".toList ++ fixed 12 (chain.number .agcDeadbandDb)

/-- The plug-in between the quotes, and its controls. -/
def ladspaArguments (factory : GraphDescriptionFactory) (chain : ProcessingChain) : Str :=
  "file='".toList ++ escapeFilterValue factory.agcPluginPath ++
    "':plugin=usbradioplus_agc_lufs:controls=".toList ++ agcControls chain

/-- The plug-in, with the program on both of its channels. -/
def agcText (factory : GraphDescriptionFactory) (edge : GraphEdge) (chain : ProcessingChain) : Str :=
  let options :=
    "inputs=2:channel_layout=stereo:map=0.0-FL|1.0-FR,ladspa=".toList ++
      ladspaArguments factory chain ++ ",aformat=channel_layouts=mono".toList
  appendSidechain edge "join".toList 0.0 0.0 options

/-- The controls of the gate. -/
def expanderArguments (chain : ProcessingChain) : Str :=
  "threshold=".toList ++ fixed 12 (dbToLinear m (chain.number .expanderThresholdDbfs)) ++
    ":ratio=".toList ++ fixed 9 (chain.number .expanderRatio) ++ ":range=".toList ++
    fixed 12 (dbToLinear m (-(chain.number .expanderMaxAttenuationDb).abs)) ++
    ":attack=".toList ++ fixed 9 (chain.number .expanderAttackMs) ++ ":release=".toList ++
    fixed 9 (chain.number .expanderReleaseMs) ++ ":knee=2.828427:detection=rms".toList

/-- The gate and its detector. -/
def expanderText (edge : GraphEdge) (chain : ProcessingChain) : Str :=
  appendSidechain edge "sidechaingate".toList (chain.number .expanderSidechainHighpassHz)
    (chain.number .expanderSidechainLowpassHz) (expanderArguments m chain)

/-- The controls of a compressor with one band. -/
def sidechaincompressArguments (band : BandNumber → F64) : Str :=
  "mode=downward:threshold=".toList ++ fixed 12 (dbToLinear m (band .thresholdDbfs)) ++
    ":ratio=".toList ++ fixed 9 (band .ratio) ++ ":attack=".toList ++ fixed 9 (band .attackMs) ++
    ":release=".toList ++ fixed 9 (band .releaseMs) ++ ":knee=2.828427:detection=rms".toList

/-- The compressor, with three bands or with a side chain. -/
def compressorText (edge : GraphEdge) (chain : ProcessingChain) : Str :=
  if chain.value .compressorLayout = BandLayout.threeBand then
    appendThreeBand m edge (chain.number .compressorLowCrossoverHz)
      (chain.number .compressorHighCrossoverHz) (fun band n => chain.number (.compressorBand band n))
      "rms".toList
  else
    let band := fun n => chain.number (.compressorBand .full n)
    let options :=
      sidechaincompressArguments m band ++ ",volume=".toList ++ volumeArguments m (band .makeupGainDb)
    appendSidechain edge "sidechaincompress".toList (chain.number .compressorSidechainHighpassHz)
      (chain.number .compressorSidechainLowpassHz) options

/-- The limiter, with three bands or with one. -/
def limiterText (edge : GraphEdge) (chain : ProcessingChain) : Str :=
  if chain.value .limiterLayout = BandLayout.threeBand then
    appendThreeBand m edge (chain.number .limiterLowCrossoverHz)
      (chain.number .limiterHighCrossoverHz) (fun band n => chain.number (.limiterBand band n))
      "peak".toList
  else
    "[".toList ++ edge.input ++ "]acompressor=".toList ++
      bandArguments m (fun n => chain.number (.limiterBand .full n)) "peak".toList ++ "[".toList ++
      edge.output ++ "];".toList

/-- The text of a stage. -/
def appendStage (factory : GraphDescriptionFactory) (chain : ProcessingChain) (edge : GraphEdge) :
    ProcessingStage → Str
  | .equalizer => equalizerText edge chain
  | .deesser => deesserText m edge chain
  | .agc => agcText factory edge chain
  | .expander => expanderText m edge chain
  | .compressor => compressorText m edge chain
  | .limiter => limiterText m edge chain

/-! ## The graphs -/

/-- The variables of `ordered_chain`. -/
structure GraphWriter where
  graph : Str
  current : Str
  serial : Nat

namespace GraphWriter

/-- The writer in front of the first stage. -/
def start : GraphWriter := ⟨[], "in".toList, 0⟩

/-- A stage to a new label; the serial number behind the new one is that of the stage. -/
def emit (w : GraphWriter) (stage : GraphEdge → Str) : GraphWriter :=
  let next := nextLabel w.serial
  let serial := w.serial + 1
  ⟨w.graph ++ stage ⟨w.current, next, 'd' :: Nat.toDigits 10 serial⟩, next, serial⟩

/-- A stage that may be left out. -/
def emitIf (w : GraphWriter) (condition : Bool) (stage : GraphEdge → Str) : GraphWriter :=
  if condition then w.emit stage else w

end GraphWriter

/-- A crossover of an enabled stage with three bands is at half the rate or above it. -/
def crossoverAboveNyquist (chain : ProcessingChain) (sampleRateHz : Nat) : Bool :=
  let nyquistHz := ofU32 sampleRateHz / 2.0
  chain.flag .enabled &&
    ((chain.flag .compressorEnabled && chain.value .compressorLayout = BandLayout.threeBand &&
        nyquistHz.le (chain.number .compressorHighCrossoverHz)) ||
      (chain.flag .limiterEnabled && chain.value .limiterLayout = BandLayout.threeBand &&
        nyquistHz.le (chain.number .limiterHighCrossoverHz)))

/-- The input gain of a local receiver belongs to its transmit tail. -/
def graphInputGain (chain : ProcessingChain) (includeTransmitTail : Bool) : F64 :=
  if includeTransmitTail || chain.role ≠ .localReceive then chain.number .inputGainDb else 0.0

namespace GraphDescriptionFactory

/-- The loop over the stages. -/
def writeStages (self : GraphDescriptionFactory) (chain : ProcessingChain) (w : GraphWriter) :
    GraphWriter :=
  chain.stageOrder.stages.foldl (fun w stage =>
    w.emitIf (stageEnabled chain stage) fun edge => appendStage m self chain edge stage) w

/-- The writer at the end of `ordered_chain`. -/
def writeChain (self : GraphDescriptionFactory) (chain : ProcessingChain)
    (includeTransmitTail preemphasisEnabled : Bool) (preemphasisCornerHz : F64) (sampleRateHz : Nat) :
    GraphWriter :=
  let inputGainDb := graphInputGain chain includeTransmitTail
  let w := GraphWriter.start.emitIf (!inputGainDb.isZero) fun edge =>
    appendVolume m edge inputGainDb
  let w := if chain.flag .enabled then writeStages m self chain w else w
  let w := w.emitIf (includeTransmitTail && preemphasisEnabled) fun edge =>
    appendEmphasis m edge true preemphasisCornerHz
  let w := w.emitIf (!(chain.number .outputGainDb).isZero) fun edge =>
    appendVolume m edge (chain.number .outputGainDb)
  let w := w.emitIf (includeTransmitTail && chain.flag .transmitTailBandpassEnabled)
    fun edge =>
      appendBrickwallBandpass ⟨edge.input, edge.output, "cln".toList⟩
        (chain.number .transmitTailBandpassHighpassHz) (chain.number .transmitTailBandpassLowpassHz)
  w.emitIf (chain.flag .peakLimiterEnabled) fun edge =>
    appendPeakLimiter m edge chain sampleRateHz

/-- `ordered_chain`: the stages between the gains, the emphasis and the limiter. -/
def orderedChain (self : GraphDescriptionFactory) (chain : ProcessingChain)
    (includeTransmitTail preemphasisEnabled : Bool) (preemphasisCornerHz : F64) (sampleRateHz : Nat) :
    Except GraphDescriptionError Str :=
  if crossoverAboveNyquist chain sampleRateHz then .error .crossoverAboveNyquist
  else
    let w := self.writeChain m chain includeTransmitTail preemphasisEnabled preemphasisCornerHz
      sampleRateHz
    .ok (w.graph ++ "[".toList ++ w.current ++ "]anull[out]".toList)

/-- `dynamics_at_rate` -/
def dynamicsAtRate (self : GraphDescriptionFactory) (chain : ProcessingChain) (sampleRateHz : Nat) :
    Except GraphDescriptionError Str :=
  if 8000 ≤ sampleRateHz ∧ sampleRateHz ≤ 384000 then
    self.orderedChain m chain false false 0.0 sampleRateHz
  else .error .invalidSampleRate

/-- `dynamics`: at the rate of the station. -/
def dynamics (self : GraphDescriptionFactory) (chain : ProcessingChain) :
    Except GraphDescriptionError Str :=
  self.dynamicsAtRate m chain 48000

/-- `transmitter` -/
def transmitter (self : GraphDescriptionFactory) (chain : ProcessingChain)
    (preemphasisEnabled : Bool) (preemphasisCornerHz : F64) : Except GraphDescriptionError Str :=
  self.orderedChain m chain true preemphasisEnabled preemphasisCornerHz 48000

/-- `receive_deemphasis` -/
def receiveDeemphasis (enabled : Bool) (cornerHz : F64) : Str :=
  if enabled then appendEmphasis m ⟨"in".toList, "out".toList, []⟩ false cornerHz
  else "[in]anull[out]".toList

/-- `receive_filter` -/
def receiveFilter (chain : ProcessingChain) : Str :=
  let (graph, current) :=
    if chain.flag .receiveBandpassEnabled then
      (appendBrickwallBandpass ⟨"in".toList, "rxbandpass".toList, "rxbp".toList⟩
        (chain.number .receiveBandpassHighpassHz) (chain.number .receiveBandpassLowpassHz),
        "rxbandpass".toList)
    else ([], "in".toList)
  graph ++
    if chain.plFilter = .highPass then
      "[".toList ++ current ++ "]acrossover=split=".toList ++
        fixed 9 (chain.number .receiveHighpassHz) ++
        ":order=20th[ctlow][out];[ctlow]anullsink;".toList
    else "[".toList ++ current ++ "]anull[out]".toList

/-- One section of `decoded_tone_notch`. -/
def notchSection (frequencyHz widthHz : F64) (current next : Str) : Str :=
  "[".toList ++ current ++ "]bandreject=f=".toList ++ fixed 9 frequencyHz ++ ":t=h:w=".toList ++
    fixed 9 widthHz ++ ":r=f32[".toList ++ next ++ "];".toList

/-- `decoded_tone_notch`: four sections, one behind the other. -/
def decodedToneNotch (frequencyHz widthHz : F64) : Except GraphDescriptionError Str :=
  if !frequencyHz.isFinite || !(F64.le 50.0 frequencyHz && frequencyHz.le 300.0) then
    .error .invalidNotchFrequency
  else
    .ok (notchSection frequencyHz widthHz "in".toList "ctn0".toList ++
      notchSection frequencyHz widthHz "ctn0".toList "ctn1".toList ++
      notchSection frequencyHz widthHz "ctn1".toList "ctn2".toList ++
      notchSection frequencyHz widthHz "ctn2".toList "out".toList)

/-- `dcs_filter` -/
def dcsFilter (turnoff : Bool) : Str :=
  let compensation := if turnoff then [] else "volume=-3.42dB,".toList
  "[in]acrossover=split=250:order=20th:precision=float[low][high];[high]anullsink;[low]".toList ++
    compensation ++ "aformat=sample_fmts=flt[out]".toList

end GraphDescriptionFactory

end Core
end UsbRadioPlus
