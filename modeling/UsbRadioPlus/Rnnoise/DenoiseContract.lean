import Mathlib.Algebra.Ring.Int.Defs
import Mathlib.Data.List.GetD
import UsbRadioPlus.Rnnoise.Denoise
import UsbRadioPlus.Sys.Frames
import UsbRadioPlus.Sys.Run
import UsbRadioPlus.Sys.StreamFunction

/-!
# Denoising does not depend on the partition

Behind the samples `xs` since the activation the stream has filled a frame with the incomplete ones, and
the model has seen exactly the complete frames, in order (`Fits`). A span gives what `denoised` says of each
of its samples (`processSpan_fits`), so a call does (`process_fits`), whatever the lengths of the calls are;
no index is out of range. `denoiseContract_of_reach` puts these together for calls with bypasses between.
-/

namespace UsbRadioPlus
namespace Rnnoise

open Sys Rust

variable {H F : Type} {model : DenoiseModel H F} {base : H} {xs ys : List F}

/-! ## The stream that a model makes -/

/-- The model behind the complete frames of a stream. -/
def after (model : DenoiseModel H F) (base : H) (xs : List F) : H :=
  (completeFrames RNNOISE_FRAME_COUNT xs).foldl (fun handle frame => (model.process handle frame).2) base

/-- What the model makes of frame number `k`. -/
def denoisedFrame (model : DenoiseModel H F) (base : H) (xs : List F) (k : Nat) : List F :=
  (model.process (after model base (xs.take (k * RNNOISE_FRAME_COUNT)))
    (frameAt RNNOISE_FRAME_COUNT xs k)).1

theorem length_denoisedFrame (model : DenoiseModel H F) (base : H) (xs : List F) (k : Nat) :
    (denoisedFrame model base xs k).length = RNNOISE_FRAME_COUNT := model.length_process _ _

theorem denoisedFrame_append {k : Nat} (h : (k + 1) * RNNOISE_FRAME_COUNT ≤ xs.length) :
    denoisedFrame model base (xs ++ ys) k = denoisedFrame model base xs k := by
  have hle : k * RNNOISE_FRAME_COUNT ≤ xs.length := by
    rw [Nat.succ_mul] at h
    omega
  rw [denoisedFrame, List.take_append_of_le_length hle, frameAt_append h, denoisedFrame]

theorem after_append_of_lt (h : xs.length % RNNOISE_FRAME_COUNT + ys.length < RNNOISE_FRAME_COUNT) :
    after model base (xs ++ ys) = after model base xs := by
  rw [after, completeFrames_append_of_lt h, after]

theorem after_append_of_eq (h : xs.length % RNNOISE_FRAME_COUNT + ys.length = RNNOISE_FRAME_COUNT) :
    after model base (xs ++ ys) = (model.process (after model base xs)
      (incomplete RNNOISE_FRAME_COUNT xs ++ ys)).2 := by
  rw [after, completeFrames_append_of_eq h (by decide), List.foldl_append, List.foldl_cons,
    List.foldl_nil, after]

/-- The output sample that goes with the last sample of a stream: silence for two frames, then the
denoised frame before. -/
def denoised [Zero F] (model : DenoiseModel H F) (base : H) (xs : List F) : F :=
  let n := xs.length - 1
  if n < 2 * RNNOISE_FRAME_COUNT then 0
  else (denoisedFrame model base xs (n / RNNOISE_FRAME_COUNT - 1)).getD (n % RNNOISE_FRAME_COUNT) 0

/-! ## The invariant -/

/-- The stream behind the samples `xs` since the activation. -/
structure Fits (model : DenoiseModel H F) (base : H) (xs : List F) (s : DenoiseStream H F) :
    Prop where
  input_length : s.input.length = RNNOISE_FRAME_COUNT
  output_length : s.output.length = RNNOISE_FRAME_COUNT
  inputCount : s.inputCount = xs.length % RNNOISE_FRAME_COUNT
  filled : s.input.take s.inputCount = incomplete RNNOISE_FRAME_COUNT xs
  handle : s.handle = after model base xs
  primed : s.primed = decide (RNNOISE_FRAME_COUNT ≤ xs.length)
  empty : xs.length < 2 * RNNOISE_FRAME_COUNT → s.outputCount = 0
  pending : 2 * RNNOISE_FRAME_COUNT ≤ xs.length →
    s.outputIndex = s.inputCount ∧ s.outputCount = RNNOISE_FRAME_COUNT - s.inputCount ∧
      s.output = denoisedFrame model base xs (xs.length / RNNOISE_FRAME_COUNT - 1)

theorem frameCount_pos : 0 < RNNOISE_FRAME_COUNT := by decide

theorem zero_lt_frames : 0 < 2 * RNNOISE_FRAME_COUNT := by decide

/-- The samples behind the last boundary do not matter to the model. -/
theorem after_take : after model base (xs.take (xs.length / RNNOISE_FRAME_COUNT * RNNOISE_FRAME_COUNT)) =
    after model base xs := by
  have hlength : (xs.take (xs.length / RNNOISE_FRAME_COUNT * RNNOISE_FRAME_COUNT)).length =
      xs.length / RNNOISE_FRAME_COUNT * RNNOISE_FRAME_COUNT := by
    rw [List.length_take, Nat.min_eq_left (Nat.div_mul_le_self _ _)]
  have hlt : (xs.take (xs.length / RNNOISE_FRAME_COUNT * RNNOISE_FRAME_COUNT)).length %
      RNNOISE_FRAME_COUNT + (incomplete RNNOISE_FRAME_COUNT xs).length < RNNOISE_FRAME_COUNT := by
    rw [hlength, Nat.mul_mod_left, length_incomplete, Nat.zero_add]
    exact Nat.mod_lt _ frameCount_pos
  have happend : after model base _ = after model base _ := after_append_of_lt hlt
  rw [incomplete, List.take_append_drop] at happend
  exact happend.symm

/-- The frame that is completed. -/
theorem denoisedFrame_append_of_eq
    (h : xs.length % RNNOISE_FRAME_COUNT + ys.length = RNNOISE_FRAME_COUNT) :
    denoisedFrame model base (xs ++ ys) (xs.length / RNNOISE_FRAME_COUNT) =
      (model.process (after model base xs) (incomplete RNNOISE_FRAME_COUNT xs ++ ys)).1 := by
  rw [denoisedFrame, List.take_append_of_le_length (Nat.div_mul_le_self _ _), after_take,
    frameAt_append_of_eq h]

section Output

variable [Zero F] (hspan : xs.length % RNNOISE_FRAME_COUNT + ys.length ≤ RNNOISE_FRAME_COUNT)
include hspan

/-- Before the third frame a span is silent. -/
theorem frames_silent (hlength : xs.length < 2 * RNNOISE_FRAME_COUNT) :
    frames (denoised model base) xs ys = List.replicate ys.length 0 := by
  refine List.ext_getElem (by simp) fun i hi _ => ?_
  rw [length_frames] at hi
  have hn : (xs ++ ys.take (i + 1)).length - 1 < 2 * RNNOISE_FRAME_COUNT := by
    rw [List.length_append, List.length_take, Nat.min_eq_left hi]
    simp only [RNNOISE_FRAME_COUNT] at *
    omega
  simp only [frames, List.getElem_map, List.getElem_range, List.getElem_replicate, denoised,
    if_pos hn]

/-- From the third frame on a span is a part of the denoised frame before. -/
theorem frames_denoised (hlength : 2 * RNNOISE_FRAME_COUNT ≤ xs.length) :
    frames (denoised model base) xs ys =
      ((denoisedFrame model base xs (xs.length / RNNOISE_FRAME_COUNT - 1)).drop
        (xs.length % RNNOISE_FRAME_COUNT)).take ys.length := by
  have hframe := length_denoisedFrame model base xs
    (xs.length / RNNOISE_FRAME_COUNT - 1)
  refine List.ext_getElem ?_ fun i hi _ => ?_
  · rw [length_frames, List.length_take, List.length_drop, hframe, Nat.min_eq_left]
    omega
  · rw [length_frames] at hi
    have hn : (xs ++ ys.take (i + 1)).length - 1 = xs.length + i := by
      rw [List.length_append, List.length_take, Nat.min_eq_left hi]
      omega
    have hdiv : (xs.length + i) / RNNOISE_FRAME_COUNT = xs.length / RNNOISE_FRAME_COUNT := by
      simp only [RNNOISE_FRAME_COUNT] at *
      omega
    have hmod : (xs.length + i) % RNNOISE_FRAME_COUNT = xs.length % RNNOISE_FRAME_COUNT + i := by
      simp only [RNNOISE_FRAME_COUNT] at *
      omega
    have hnot : ¬ xs.length + i < 2 * RNNOISE_FRAME_COUNT := by omega
    have hframes : 2 ≤ xs.length / RNNOISE_FRAME_COUNT :=
      (Nat.le_div_iff_mul_le frameCount_pos).mpr hlength
    have hcomplete : (xs.length / RNNOISE_FRAME_COUNT - 1 + 1) * RNNOISE_FRAME_COUNT ≤ xs.length := by
      rw [Nat.sub_add_cancel (by omega)]
      exact Nat.div_mul_le_self _ _
    have hlt : xs.length % RNNOISE_FRAME_COUNT + i <
        (denoisedFrame model base xs (xs.length / RNNOISE_FRAME_COUNT - 1)).length := by
      rw [hframe]
      omega
    simp only [frames, List.getElem_map, List.getElem_range, denoised, hn, if_neg hnot, hdiv, hmod,
      denoisedFrame_append hcomplete, List.getD_eq_getElem _ _ hlt, List.getElem_take,
      List.getElem_drop]

end Output

/-! ## A span -/

section Span

variable {s : DenoiseStream H F} (h : Fits model base xs s) {input : List F}
  (outputIndex outputCount : Nat)
  (hlength : input.length = RNNOISE_FRAME_COUNT)
  (hfilled : input.take (s.inputCount + ys.length) = s.input.take s.inputCount ++ ys)
  (hempty : xs.length < 2 * RNNOISE_FRAME_COUNT → outputCount = 0)
include h hlength hfilled hempty

/-- A span that stays below the boundary. -/
theorem fits_countSpan_of_lt
    (hpending : 2 * RNNOISE_FRAME_COUNT ≤ xs.length → outputIndex = s.inputCount + ys.length ∧
      outputCount = RNNOISE_FRAME_COUNT - (s.inputCount + ys.length))
    (hroom : s.inputCount + ys.length < RNNOISE_FRAME_COUNT) :
    Fits model base (xs ++ ys)
      ({ s with input, outputIndex, outputCount }.countSpan model ys.length) := by
  have hbelow : xs.length % RNNOISE_FRAME_COUNT + ys.length < RNNOISE_FRAME_COUNT :=
    h.inputCount ▸ hroom
  have hdiv := div_append_of_lt hbelow
  have hmod := mod_append_of_lt hbelow
  have hsum : (xs ++ ys).length = xs.length + ys.length := List.length_append
  rw [DenoiseStream.countSpan, if_neg (Nat.ne_of_lt hroom)]
  refine ⟨hlength, h.output_length, ?_, ?_, ?_, ?_, fun hlt => hempty (by omega), fun hle => ?_⟩
  · rw [hmod]
    exact congrArg (· + ys.length) h.inputCount
  · rw [incomplete_append_of_lt hbelow, ← h.filled]
    exact hfilled
  · rw [after_append_of_lt hbelow]
    exact h.handle
  · refine h.primed.trans (decide_eq_decide.mpr ?_)
    rw [← Nat.one_mul RNNOISE_FRAME_COUNT, ← Nat.le_div_iff_mul_le frameCount_pos,
      ← Nat.le_div_iff_mul_le frameCount_pos, hdiv]
  · have hbefore : 2 * RNNOISE_FRAME_COUNT ≤ xs.length := by
      rw [← Nat.le_div_iff_mul_le frameCount_pos] at hle ⊢
      rwa [hdiv] at hle
    have hframes : 2 ≤ xs.length / RNNOISE_FRAME_COUNT :=
      (Nat.le_div_iff_mul_le frameCount_pos).mpr hbefore
    have hcomplete : (xs.length / RNNOISE_FRAME_COUNT - 1 + 1) * RNNOISE_FRAME_COUNT ≤ xs.length := by
      rw [Nat.sub_add_cancel (by omega)]
      exact Nat.div_mul_le_self _ _
    rw [hdiv, denoisedFrame_append hcomplete]
    exact ⟨(hpending hbefore).1, (hpending hbefore).2, (h.pending hbefore).2.2⟩

/-- A span that reaches the boundary. -/
theorem fits_countSpan_of_eq (hroom : s.inputCount + ys.length = RNNOISE_FRAME_COUNT) :
    Fits model base (xs ++ ys)
      ({ s with input, outputIndex, outputCount }.countSpan model ys.length) := by
  have hfull : xs.length % RNNOISE_FRAME_COUNT + ys.length = RNNOISE_FRAME_COUNT :=
    h.inputCount ▸ hroom
  have hdiv := div_append_of_eq hfull frameCount_pos
  have hmod := mod_append_of_eq hfull
  have hinput : input = incomplete RNNOISE_FRAME_COUNT xs ++ ys := by
    rw [← h.filled, ← hfilled, List.take_of_length_le (by omega)]
  have hhandle : (model.process s.handle input).2 = after model base (xs ++ ys) := by
    rw [after_append_of_eq hfull, hinput, h.handle]
  have hscratch : (model.process s.handle input).1 =
      denoisedFrame model base (xs ++ ys) (xs.length / RNNOISE_FRAME_COUNT) := by
    rw [denoisedFrame_append_of_eq hfull, hinput, h.handle]
  have hlong : RNNOISE_FRAME_COUNT ≤ (xs ++ ys).length := by
    rw [length_append_of_eq hfull, Nat.succ_mul]
    omega
  rw [DenoiseStream.countSpan, if_pos hroom, DenoiseStream.processCompleteFrame]
  have hprimed := h.primed
  cases hs : s.primed with
  | true =>
    have hsecond : RNNOISE_FRAME_COUNT ≤ xs.length := of_decide_eq_true (hprimed.symm.trans hs)
    refine ⟨hlength, model.length_process _ _, hmod.symm, ?_, hhandle, ?_, fun hlt => ?_,
      fun _ => ⟨rfl, rfl, ?_⟩⟩
    · rw [incomplete_append_of_eq hfull frameCount_pos]
      rfl
    · exact (decide_eq_true hlong).symm
    · rw [length_append_of_eq hfull, Nat.succ_mul] at hlt
      have hone : 1 ≤ xs.length / RNNOISE_FRAME_COUNT :=
        (Nat.le_div_iff_mul_le frameCount_pos).mpr (by omega)
      have hle := Nat.mul_le_mul_right RNNOISE_FRAME_COUNT hone
      omega
    · rw [hdiv, Nat.add_sub_cancel]
      exact hscratch
  | false =>
    have hfirst : xs.length < RNNOISE_FRAME_COUNT :=
      Nat.not_le.mp (of_decide_eq_false (hprimed.symm.trans hs))
    have hzero : xs.length / RNNOISE_FRAME_COUNT = 0 := Nat.div_eq_of_lt hfirst
    refine ⟨hlength, h.output_length, hmod.symm, ?_, hhandle, (decide_eq_true hlong).symm,
      fun _ => hempty (by omega), fun hle => ?_⟩
    · rw [incomplete_append_of_eq hfull frameCount_pos]
      rfl
    · rw [length_append_of_eq hfull, hzero, Nat.zero_add, Nat.one_mul] at hle
      have hpos := frameCount_pos
      omega

theorem fits_countSpan
    (hpending : 2 * RNNOISE_FRAME_COUNT ≤ xs.length → outputIndex = s.inputCount + ys.length ∧
      outputCount = RNNOISE_FRAME_COUNT - (s.inputCount + ys.length))
    (hroom : s.inputCount + ys.length ≤ RNNOISE_FRAME_COUNT) :
    Fits model base (xs ++ ys)
      ({ s with input, outputIndex, outputCount }.countSpan model ys.length) := by
  rcases Nat.lt_or_eq_of_le hroom with hlt | heq
  · exact fits_countSpan_of_lt h outputIndex outputCount hlength hfilled hempty hpending hlt
  · exact fits_countSpan_of_eq h outputIndex outputCount hlength hfilled hempty heq

end Span

theorem active_countSpan (s : DenoiseStream H F) (span : Nat) :
    (s.countSpan model span).active = s.active := by
  rw [DenoiseStream.countSpan]
  split
  · rw [DenoiseStream.processCompleteFrame]
    cases s.primed <;> rfl
  · rfl

section Process

variable [Zero F] {s : DenoiseStream H F} {samples : List F} {offset span : Nat}

/-- A turn gives what is due for its samples. -/
theorem processSpan_fits (h : Fits model base xs s) (hpos : 0 < span)
    (hlength : offset + span ≤ samples.length) (hroom : s.inputCount + span ≤ RNNOISE_FRAME_COUNT) :
    ∃ samples' s', s.processSpan model samples offset span = some (samples', s') ∧
      samples'.length = samples.length ∧
      samples'.take (offset + span) = samples.take offset ++
        frames (denoised model base) xs ((samples.drop offset).take span) ∧
      samples'.drop (offset + span) = samples.drop (offset + span) ∧
      s'.active = s.active ∧ Fits model base (xs ++ (samples.drop offset).take span) s' := by
  have hread := readSpan_of_le hlength
  have hcount : ((samples.drop offset).take span).length = span := by
    rw [List.length_take, List.length_drop]
    omega
  generalize (samples.drop offset).take span = ys at *
  subst hcount
  have hin : s.inputCount + ys.length ≤ s.input.length := h.input_length ▸ hroom
  obtain ⟨input, hwrite, hinput, hfilled, -⟩ := exists_writeSpan hin
  have hspan : xs.length % RNNOISE_FRAME_COUNT + ys.length ≤ RNNOISE_FRAME_COUNT :=
    h.inputCount ▸ hroom
  have hout (values : List F) (hvalues : values.length = ys.length) :
      offset + values.length ≤ samples.length := hvalues ▸ hlength
  have hpending := h.pending
  simp only [DenoiseStream.processSpan, hread, hwrite, DenoiseStream.emitSpan, Option.bind_eq_bind,
    Option.bind_some, Option.pure_def]
  by_cases hcount : ys.length ≤ s.outputCount
  · have hlong : 2 * RNNOISE_FRAME_COUNT ≤ xs.length :=
      Nat.not_lt.mp fun hshort => by
        rw [h.empty hshort] at hcount
        omega
    obtain ⟨hindex, hleft, houtput⟩ := h.pending hlong
    have hrange : s.outputIndex + ys.length ≤ s.output.length := by
      rw [hindex, h.output_length]
      exact hroom
    have hvalues : (s.output.drop s.outputIndex).take ys.length = frames (denoised model base) xs ys := by
      rw [frames_denoised hspan hlong, houtput, hindex, h.inputCount]
    have hwritable := hout (frames (denoised model base) xs ys) length_frames
    obtain ⟨samples', hwrite', hlength', htake, hdrop⟩ := exists_writeSpan hwritable
    rw [length_frames] at htake hdrop
    have hfits := fits_countSpan h (s.outputIndex + ys.length) (s.outputCount - ys.length)
      (hinput.trans h.input_length) hfilled (fun hshort => absurd hlong (Nat.not_le.mpr hshort))
      (fun _ => by omega) hroom
    refine ⟨samples', _, ?_, hlength', htake, hdrop, ?_, hfits⟩
    · rw [if_pos hcount, readSpan_of_le hrange, Option.bind_some, hvalues, hwrite', Option.bind_some,
        Option.bind_some]
    · exact active_countSpan _ _
  · have hshort : xs.length < 2 * RNNOISE_FRAME_COUNT :=
      Nat.not_le.mp fun hlong => by
        have hleft := (h.pending hlong).2.1
        omega
    have hwritable := hout (List.replicate ys.length 0) List.length_replicate
    obtain ⟨samples', hwrite', hlength', htake, hdrop⟩ := exists_writeSpan hwritable
    rw [List.length_replicate] at htake hdrop
    have hfits := fits_countSpan h s.outputIndex s.outputCount (hinput.trans h.input_length) hfilled
      h.empty (fun hlong => absurd hlong (Nat.not_le.mpr hshort)) hroom
    refine ⟨samples', _, ?_, hlength', ?_, hdrop, ?_, hfits⟩
    · rw [if_neg hcount, hwrite', Option.bind_some, Option.bind_some]
    · rw [frames_silent hspan hshort]
      exact htake
    · exact active_countSpan _ _

/-- From `offset` on the loop gives what is due for the rest of the samples. -/
theorem processLoop_fits (fuel : Nat) (h : Fits model base xs s) (hfuel : samples.length < offset + fuel)
    (hle : offset ≤ samples.length) :
    ∃ s', DenoiseStream.processLoop model fuel s samples offset =
        some (samples.take offset ++ frames (denoised model base) xs (samples.drop offset), s') ∧
      s'.active = s.active ∧ Fits model base (xs ++ samples.drop offset) s' := by
  induction fuel generalizing s samples offset xs with
  | zero => omega
  | succ fuel ih =>
    rw [DenoiseStream.processLoop]
    by_cases hend : offset < samples.length
    · have hbelow : s.inputCount < RNNOISE_FRAME_COUNT :=
        h.inputCount ▸ Nat.mod_lt _ frameCount_pos
      rw [if_pos hend, checkedSub_of_le (Nat.le_of_lt hbelow), Option.bind_eq_bind, Option.bind_some]
      have hpos : 0 < min (RNNOISE_FRAME_COUNT - s.inputCount) (samples.length - offset) := by omega
      have hroom : s.inputCount + min (RNNOISE_FRAME_COUNT - s.inputCount) (samples.length - offset) ≤
          RNNOISE_FRAME_COUNT := by omega
      have hlength : offset + min (RNNOISE_FRAME_COUNT - s.inputCount) (samples.length - offset) ≤
          samples.length := by omega
      generalize min (RNNOISE_FRAME_COUNT - s.inputCount) (samples.length - offset) = span at *
      obtain ⟨samples', s₁, hspan, hlength', htake, hdrop, hactive, hfits⟩ :=
        processSpan_fits h hpos hlength hroom
      have hfuel' : samples'.length < offset + span + fuel := by omega
      have hle' : offset + span ≤ samples'.length := hlength'.symm ▸ hlength
      obtain ⟨s', hloop, hactive', hfits'⟩ := ih hfits hfuel' hle'
      have hrest : (samples.drop offset).take span ++ samples.drop (offset + span) =
          samples.drop offset := by
        rw [← List.drop_drop, List.take_append_drop]
      rw [List.append_assoc, hdrop, hrest] at hfits'
      refine ⟨s', ?_, hactive'.trans hactive, hfits'⟩
      simp only [hspan, Option.bind_eq_bind, Option.bind_some, hloop, htake, hdrop]
      rw [List.append_assoc, ← frames_append, hrest]
    · have hdrop : samples.drop offset = [] := List.drop_of_length_le (by omega)
      rw [if_neg hend, hdrop, frames_nil, List.append_nil, List.append_nil,
        List.take_of_length_le (by omega)]
      exact ⟨s, rfl, rfl, h⟩

/-- A call gives what is due for its samples, whatever their number. -/
theorem process_fits (h : Fits model base xs s) (block : List F) :
    ∃ s', s.process model block = some (frames (denoised model base) xs block, s') ∧
      s'.active = true ∧ Fits model base (xs ++ block) s' := by
  have hactive : Fits model base xs { s with active := true } :=
    ⟨h.input_length, h.output_length, h.inputCount, h.filled, h.handle, h.primed, h.empty, h.pending⟩
  have hfuel : block.length < 0 + (block.length + 1) := by omega
  exact processLoop_fits (block.length + 1) hactive hfuel (Nat.zero_le _)

end Process

/-! ## Runs -/

/-- A stream, the model behind the last activation or bypass, and the samples since. -/
structure DenoiseRun (H F : Type) where
  stream : DenoiseStream H F
  base : H
  fed : List F
  given : List F

/-- The calls of a stream. -/
inductive DenoiseCall (F : Type) where
  | process (block : List F)
  | bypass

namespace DenoiseRun

variable [Zero F]

/-- An index out of range ends the run. -/
def step (model : DenoiseModel H F) (s : DenoiseRun H F) : DenoiseCall F → Option (DenoiseRun H F)
  | .process block => (s.stream.process model block).map fun (samples, stream) =>
    { s with stream, fed := s.fed ++ block, given := s.given ++ samples }
  | .bypass => some ⟨s.stream.bypass, s.stream.handle, [], []⟩

/-- All sequences of calls of a prepared stream. -/
def system (model : DenoiseModel H F) : System (DenoiseRun H F) (DenoiseCall F) where
  init s := ∃ handle, s = ⟨.prepare model handle, (DenoiseStream.prepare model handle).handle, [], []⟩
  step := step model

end DenoiseRun

theorem handle_bypass (s : DenoiseStream H F) : s.bypass.handle = s.handle := by
  rw [DenoiseStream.bypass]
  split <;> rfl

theorem fits_start {s : DenoiseStream H F} (hinput : s.input.length = RNNOISE_FRAME_COUNT)
    (houtput : s.output.length = RNNOISE_FRAME_COUNT) (hcount : s.inputCount = 0)
    (hempty : s.outputCount = 0) (hprimed : s.primed = false) : Fits model s.handle [] s where
  input_length := hinput
  output_length := houtput
  inputCount := hcount
  filled := by rw [hcount, List.take_zero, incomplete, List.drop_nil]
  handle := by rw [after, completeFrames_nil, List.foldl_nil]
  primed := hprimed
  empty _ := hempty
  pending h := absurd h (Nat.not_le.mpr zero_lt_frames)

section Contract

variable [Zero F]

/-- What holds of a stream that was fed and has given samples since the activation. -/
structure DenoiseContract (model : DenoiseModel H F) (s : DenoiseRun H F) : Prop where
  /-- No index of the next call is out of range. -/
  returns : ∀ block, (s.step model (.process block)).isSome
  length : s.given.length = s.fed.length
  /-- Output sample number `n` since the activation. -/
  given : ∀ n < s.fed.length, s.given[n]? = some (
    if n < 2 * RNNOISE_FRAME_COUNT then 0
    else (denoisedFrame model s.base s.fed (n / RNNOISE_FRAME_COUNT - 1)).getD
      (n % RNNOISE_FRAME_COUNT) 0)
  /-- The model has seen the complete frames, each of them once and in order. -/
  called : s.stream.handle = after model s.base s.fed
  /-- A bypass keeps the model. -/
  kept : s.stream.bypass.handle = s.stream.handle

/-- What every call keeps. -/
structure RunInv (model : DenoiseModel H F) (s : DenoiseRun H F) : Prop where
  fits : Fits model s.base s.fed s.stream
  inactive : s.stream.active = false → s.fed = []
  given : s.given = frames (denoised model s.base) [] s.fed

/-- Behind a bypass nothing has been fed. -/
theorem RunInv.bypass {s : DenoiseRun H F} (h : RunInv model s) :
    RunInv model ⟨s.stream.bypass, s.stream.handle, [], []⟩ := by
  refine ⟨?_, fun _ => rfl, rfl⟩
  rw [← handle_bypass, DenoiseStream.bypass]
  cases hactive : s.stream.active with
  | true => exact fits_start h.fits.input_length h.fits.output_length rfl rfl rfl
  | false =>
    have hfed := h.inactive hactive
    have hfits := h.fits
    rw [hfed] at hfits
    exact fits_start hfits.input_length hfits.output_length hfits.inputCount
      (hfits.empty zero_lt_frames) hfits.primed

theorem inductive_denoise (model : DenoiseModel H F) :
    (DenoiseRun.system model).Inductive (fun _ _ => True) (RunInv model) := by
  constructor
  · rintro s ⟨handle, rfl⟩
    have hlength : (silence : List F).length = RNNOISE_FRAME_COUNT := List.length_replicate
    exact ⟨fits_start hlength hlength rfl rfl rfl, fun _ => rfl, rfl⟩
  · intro s call s' hs _ hstep
    cases call with
    | process block =>
      obtain ⟨stream, hprocess, hactive, hfits⟩ := process_fits hs.fits block
      simp only [DenoiseRun.system, DenoiseRun.step, hprocess, Option.map_some,
        Option.some.injEq] at hstep
      subst hstep
      refine ⟨hfits, fun hinactive => absurd (hactive.symm.trans hinactive) (by decide), ?_⟩
      rw [frames_append, List.nil_append, ← hs.given]
    | bypass =>
      obtain rfl := Option.some.inj hstep
      exact hs.bypass

/-- For every model, every stream and every partition of it into calls, with bypasses between. -/
theorem denoiseContract_of_reach {model : DenoiseModel H F} {s : DenoiseRun H F}
    (h : (DenoiseRun.system model).Reach s) : DenoiseContract model s := by
  have hinv := (inductive_denoise model).reach h
  refine ⟨fun block => ?_, ?_, fun n hn => ?_, hinv.fits.handle, handle_bypass _⟩
  · obtain ⟨stream, hprocess, -⟩ := process_fits hinv.fits block
    rw [DenoiseRun.step, hprocess]
    rfl
  · rw [hinv.given, length_frames]
  · have hlength : (s.fed.take (n + 1)).length - 1 = n := by
      rw [List.length_take, Nat.min_eq_left hn, Nat.succ_sub_one]
    rw [hinv.given, getElem?_frames hn, denoised, hlength]
    by_cases hshort : n < 2 * RNNOISE_FRAME_COUNT
    · simp only [if_pos hshort]
    · have hframes : 2 ≤ n / RNNOISE_FRAME_COUNT :=
        (Nat.le_div_iff_mul_le frameCount_pos).mpr (Nat.not_lt.mp hshort)
      have hcomplete : (n / RNNOISE_FRAME_COUNT - 1 + 1) * RNNOISE_FRAME_COUNT ≤
          (s.fed.take (n + 1)).length := by
        have hle := Nat.div_mul_le_self n RNNOISE_FRAME_COUNT
        rw [Nat.sub_add_cancel (by omega)]
        omega
      have hframe : denoisedFrame model s.base (s.fed.take (n + 1) ++ s.fed.drop (n + 1)) _ = _ :=
        denoisedFrame_append hcomplete
      rw [List.take_append_drop] at hframe
      simp only [if_neg hshort, hframe]

/-- A call goes on with the run. -/
theorem exists_process {model : DenoiseModel H F} {s : DenoiseRun H F}
    (h : (DenoiseRun.system model).Reach s) (block : List F) :
    ∃ s', (DenoiseRun.system model).Reach s' ∧ s'.fed = s.fed ++ block ∧ s'.base = s.base := by
  obtain ⟨stream, hprocess, -⟩ := process_fits ((inductive_denoise model).reach h).fits block
  have hstep : (DenoiseRun.system model).step s (.process block) = some { s with
      stream, fed := s.fed ++ block
      given := s.given ++ frames (denoised model s.base) s.fed block } := by
    show s.step model (.process block) = _
    rw [DenoiseRun.step, hprocess, Option.map_some]
  exact ⟨_, System.Reach.next h hstep, rfl, rfl⟩

/-- A model that gives back what it takes, and counts its frames. -/
def echoModel : DenoiseModel Nat Int where
  process count frame := ((frame ++ silence).take RNNOISE_FRAME_COUNT, count + 1)
  length_process count frame := by
    rw [List.length_take, List.length_append, silence, List.length_replicate]
    omega

theorem after_echoModel (base : Nat) (xs : List Int) :
    after echoModel base xs = base + xs.length / RNNOISE_FRAME_COUNT := by
  have hfoldl : ∀ (blocks : List (List Int)) (count : Nat),
      blocks.foldl (fun handle frame => (echoModel.process handle frame).2) count =
        count + blocks.length := by
    intro blocks
    induction blocks with
    | nil => exact fun count => rfl
    | cons block blocks ih =>
      intro count
      rw [List.foldl_cons, ih, List.length_cons]
      exact Nat.add_right_comm count 1 blocks.length
  rw [after, hfoldl, length_completeFrames]

/-- Calls of three lengths behind a bypass, in front of which the model had seen three frames: the two
silent ones of its preparation and one of a call. -/
theorem denoiseContract_bypassed : ∃ s, (DenoiseRun.system echoModel).Reach s ∧
    s.fed.length = 1101 ∧ s.base = 3 ∧ s.stream.handle = 5 ∧ DenoiseContract echoModel s := by
  have hstart : (DenoiseRun.system echoModel).Reach
      ⟨.prepare echoModel 0, (DenoiseStream.prepare echoModel 0).handle, [], []⟩ :=
    ⟨_, [], ⟨0, rfl⟩, rfl⟩
  obtain ⟨s₁, h₁, hfed₁, hbase₁⟩ := exists_process hstart (List.replicate 700 5)
  have hbypassed : (DenoiseRun.system echoModel).Reach
      ⟨s₁.stream.bypass, s₁.stream.handle, [], []⟩ :=
    System.Reach.next (a := .bypass) h₁ rfl
  obtain ⟨s₂, h₂, hfed₂, hbase₂⟩ := exists_process hbypassed (List.replicate 600 1)
  obtain ⟨s₃, h₃, hfed₃, hbase₃⟩ := exists_process h₂ [2]
  obtain ⟨s₄, h₄, hfed₄, hbase₄⟩ := exists_process h₃ (List.replicate 500 3)
  have hlength : s₄.fed.length = 1101 := by
    simp only [hfed₄, hfed₃, hfed₂, List.length_append, List.length_replicate, List.length_nil,
      List.length_singleton]
  have hbase : s₄.base = 3 := by
    rw [hbase₄, hbase₃, hbase₂]
    show s₁.stream.handle = 3
    rw [((inductive_denoise echoModel).reach h₁).fits.handle, after_echoModel, hfed₁, hbase₁,
      List.length_append, List.length_replicate]
    rfl
  have hcontract := denoiseContract_of_reach h₄
  refine ⟨s₄, h₄, hlength, hbase, ?_, hcontract⟩
  rw [hcontract.called, after_echoModel, hlength, hbase]
  rfl

end Contract

end Rnnoise
end UsbRadioPlus
