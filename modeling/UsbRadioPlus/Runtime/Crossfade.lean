import UsbRadioPlus.Runtime.GraphStage
import UsbRadioPlus.Sys.StreamFunction
import Mathlib.Algebra.Field.Rat
import Mathlib.Logic.Function.Basic

/-!
# Cross-fades of a stream (`rust/runtime/src/processing.rs`)

A hand-off plays the predecessor while the new graph is primed, mixes both for 48 frames, and then plays
the new graph. The activation of the denoiser does so with the dry input. `fade` says what is heard at a
frame of the stream; the callbacks, which keep their counters across blocks, compute it whatever the
blocks are (`crossfades`).

The graphs and the denoiser are processors of blocks that compute stream functions. The blend is the
weighted sum in a field.
-/

namespace UsbRadioPlus.Runtime

open Sys

variable {S σ : Type}

/-! ## Callbacks of a stage -/

/-- A stage with the graphs of its chain. -/
structure Playback (σ : Type) where
  stage : GraphStage
  audible : GraphAddress
  graphs : GraphAddress → σ

/-- What a callback leaves of a graph that it runs. -/
def advance (process : σ → List S → Except GraphError (List S × σ)) (input : List S)
    (graphs : GraphAddress → σ) (pointer : GraphAddress) : GraphAddress → σ :=
  match process (graphs pointer) input with
  | .ok (_, s) => Function.update graphs pointer s
  | .error _ => graphs

/-- `graph_process` on the samples of a callback. -/
def Playback.callback (blend : Nat → S → S → S)
    (process : σ → List S → Except GraphError (List S × σ)) (self : Playback σ) (input : List S) :
    Except Int (List S × Playback σ) :=
  let done := graphProcess blend (fun pointer => (process (self.graphs pointer) input).map Prod.fst)
    (!input.isEmpty) self.stage self.audible
  match done.output with
  | none => .error done.returned
  | some output => .ok (output,
      { stage := done.stage
        audible := done.audible
        graphs := (self.stage.primary :: done.predecessor.toList).foldl (advance process input)
          self.graphs })

/-! ## Callbacks of the denoiser -/

/-- `DENOISE_STARTUP_FRAMES` -/
def DENOISE_STARTUP_FRAMES : Nat := 960

/-- The prepared model with its framing. -/
structure DenoiseStream (σ S : Type) where
  process : σ → List S → Except GraphError (List S × σ)
  bypass : σ → σ

/-- `activation`: the frames since a live activation. -/
structure DenoiseStage (σ : Type) where
  stream : σ
  activation : Option Nat

/-- The loop of `denoise_process` over the processed samples and the input. -/
def bridge (blend : Nat → S → S → S) : Nat → List S → List S → List S × Nat
  | processed, sample :: samples, dry :: drys =>
    let sample :=
      if processed < DENOISE_STARTUP_FRAMES then dry
      else if processed < DENOISE_STARTUP_FRAMES + GRAPH_TRANSITION_FRAMES then
        blend (processed - DENOISE_STARTUP_FRAMES + 1) dry sample
      else sample
    let rest := bridge blend (processed + 1) samples drys
    (sample :: rest.1, rest.2)
  | processed, samples, _ => (samples, processed)

/-- `denoise_process` on the samples of a callback. -/
def DenoiseStage.callback (blend : Nat → S → S → S) (denoise : DenoiseStream σ S)
    (self : DenoiseStage σ) (input : List S) : Except Int (List S × DenoiseStage σ) :=
  if input.isEmpty then .error PORT_ERROR
  else
    let stream := if self.activation = some 0 then denoise.bypass self.stream else self.stream
    match denoise.process stream input with
    | .error _ => .error PORT_ERROR
    | .ok (output, stream) => match self.activation with
      | none => .ok (output, ⟨stream, none⟩)
      | some processed =>
        let bridged := bridge blend processed output input
        .ok (bridged.1, ⟨stream,
          if DENOISE_STARTUP_FRAMES + GRAPH_TRANSITION_FRAMES ≤ bridged.2 then none
          else some bridged.2⟩)

/-! ## Fades -/

/-- What is heard at frame `n` of a fade behind `prime` frames. -/
def fade (blend : Nat → S → S → S) (prime n : Nat) (prior sample : S) : S :=
  if n < prime then prior
  else if n < prime + GRAPH_TRANSITION_FRAMES then blend (n - prime + 1) prior sample
  else sample

/-- The fade between two stream functions. -/
def crossfade (blend : Nat → S → S → S) (prime : Nat) (prior new : List S → S) (input : List S) : S :=
  fade blend prime (input.length - 1) (prior input) (new input)

/-- The samples of two blocks, from frame `n` on. -/
def fadeFrom (blend : Nat → S → S → S) (prime : Nat) : Nat → List S → List S → List S
  | n, sample :: samples, prior :: priors =>
    fade blend prime n prior sample :: fadeFrom blend prime (n + 1) samples priors
  | _, _, _ => []

variable {blend : Nat → S → S → S} {prime : Nat} {prior new : List S → S} {history input : List S}

theorem fadeFrom_frames (block : List S) :
    fadeFrom blend prime history.length (frames new history block) (frames prior history block) =
      frames (crossfade blend prime prior new) history block := by
  induction block generalizing history with
  | nil => rfl
  | cons x block ih =>
    have hlength : (history ++ [x]).length = history.length + 1 := by simp
    rw [frames_cons, frames_cons, frames_cons, fadeFrom, ← hlength, ih, crossfade, hlength,
      Nat.add_sub_cancel]

/-- Behind the fade. -/
theorem frames_crossfade {block : List S} (h : prime + GRAPH_TRANSITION_FRAMES ≤ history.length) :
    frames (crossfade blend prime prior new) history block = frames new history block := by
  induction block generalizing history with
  | nil => rfl
  | cons x block ih =>
    have hlength : (history ++ [x]).length = history.length + 1 := by simp
    rw [frames_cons, frames_cons, ih (by omega), crossfade, fade, if_neg (by omega),
      if_neg (by omega)]

/-- The counters of a hand-off behind `n` frames. -/
def counters (prime n : Nat) (usePending : Option Bool) : GraphTransition where
  primeRemaining := prime - n
  faded := min (n - prime) GRAPH_TRANSITION_FRAMES
  usePending := usePending

theorem mix_counters {usePending : Option Bool} (samples priors : List S)
    (h : samples.length = priors.length) (n : Nat) :
    mix blend (counters prime n usePending) samples priors =
      (fadeFrom blend prime n samples priors, counters prime (n + samples.length) usePending) := by
  induction samples generalizing priors n with
  | nil =>
    obtain rfl := List.eq_nil_of_length_eq_zero h.symm
    rfl
  | cons sample samples ih =>
    cases priors with
    | nil => exact absurd h (by simp)
    | cons prior priors =>
      have hlength : samples.length = priors.length := Nat.succ.inj h
      have hnext : n + (sample :: samples).length = n + 1 + samples.length := by
        rw [List.length_cons]
        omega
      rw [hnext, fadeFrom, fade, mix]
      have hremaining : (counters prime n usePending).primeRemaining = prime - n := rfl
      have hfaded : (counters prime n usePending).faded =
        min (n - prime) GRAPH_TRANSITION_FRAMES := rfl
      by_cases hprime : n < prime
      · have hcounters : { counters prime n usePending with
            primeRemaining := (counters prime n usePending).primeRemaining - 1 } =
              counters prime (n + 1) usePending := by
          simp only [counters, GraphTransition.mk.injEq, and_true]
          omega
        rw [if_pos (by omega), if_pos hprime, hcounters]
        simp only [ih priors hlength]
      · rw [if_neg (by omega), if_neg hprime]
        by_cases hfading : n < prime + GRAPH_TRANSITION_FRAMES
        · have hcounters : { counters prime n usePending with faded := n - prime + 1 } =
              counters prime (n + 1) usePending := by
            simp only [counters, GraphTransition.mk.injEq, and_true]
            omega
          have hblend : (counters prime n usePending).faded + 1 = n - prime + 1 := by omega
          have hnextFaded : (counters prime (n + 1) usePending).faded = n - prime + 1 :=
            congrArg GraphTransition.faded hcounters.symm
          rw [if_pos (by omega), if_pos hfading, hblend, hcounters]
          simp only [ih priors hlength, hnextFaded]
        · have hcounters : counters prime n usePending = counters prime (n + 1) usePending := by
            simp only [counters, GraphTransition.mk.injEq, and_true]
            omega
          rw [if_neg (by omega), if_neg hfading, hcounters]
          simp only [ih priors hlength]

theorem bridge_fadeFrom (samples drys : List S) (h : samples.length = drys.length) (n : Nat) :
    bridge blend n samples drys =
      (fadeFrom blend DENOISE_STARTUP_FRAMES n samples drys, n + samples.length) := by
  induction samples generalizing drys n with
  | nil =>
    obtain rfl := List.eq_nil_of_length_eq_zero h.symm
    rfl
  | cons sample samples ih =>
    cases drys with
    | nil => exact absurd h (by simp)
    | cons dry drys =>
      have hnext : n + (sample :: samples).length = n + 1 + samples.length := by
        rw [List.length_cons]
        omega
      rw [hnext, bridge, fadeFrom, fade]
      simp only [ih drys (Nat.succ.inj h)]

/-! ## Activation of the denoiser -/

/-- The callbacks that the runtime admits. -/
def Admits (maximum : Nat) (block : List S) : Prop := block ≠ [] ∧ block.length ≤ maximum

/-- The input itself. -/
def dry [Zero S] (input : List S) : S := input.getLastD 0

theorem frames_dry [Zero S] (block : List S) : frames dry history block = block := by
  induction block generalizing history with
  | nil => rfl
  | cons x block ih => rw [frames_cons, ih, dry, List.getLastD_concat]

/-- Behind the input `history`: the counter of the frames, and the model that the denoiser runs. -/
structure Bridging (maximum : Nat) (denoise : DenoiseStream σ S) (f : List S → S)
    (s : DenoiseStage σ) (history : List S) : Prop where
  activation : s.activation =
    if history.length < DENOISE_STARTUP_FRAMES + GRAPH_TRANSITION_FRAMES then some history.length
    else none
  stream : AsStream (Admits maximum) denoise.process
    (if s.activation = some 0 then denoise.bypass s.stream else s.stream) f history

theorem Bridging.callback [Zero S] {maximum : Nat} {denoise : DenoiseStream σ S}
    {f : List S → S} {s : DenoiseStage σ} {block : List S} (h : Bridging maximum denoise f s history)
    (hblock : Admits maximum block) :
    ∃ s', s.callback blend denoise block =
        .ok (frames (crossfade blend DENOISE_STARTUP_FRAMES dry f) history block, s') ∧
      Bridging maximum denoise f s' (history ++ block) := by
  obtain ⟨stream, hprocess, hstream⟩ := h.stream.next hblock
  have hpos : 0 < block.length := List.length_pos_of_ne_nil hblock.1
  have hlength : (history ++ block).length = history.length + block.length := List.length_append
  unfold DenoiseStage.callback
  rw [if_neg (by simpa using hblock.1)]
  simp only [hprocess]
  have hactivation := h.activation
  split at hactivation
  · next hlt =>
    have hbridge : bridge blend history.length (frames f history block) block =
        (frames (crossfade blend DENOISE_STARTUP_FRAMES dry f) history block,
          history.length + block.length) := by
      rw [bridge_fadeFrom _ _ length_frames, length_frames, ← fadeFrom_frames, frames_dry]
    simp only [hactivation, hbridge]
    have hnext : (if DENOISE_STARTUP_FRAMES + GRAPH_TRANSITION_FRAMES ≤ history.length + block.length
        then none else some (history.length + block.length)) =
        if (history ++ block).length < DENOISE_STARTUP_FRAMES + GRAPH_TRANSITION_FRAMES then
          some (history ++ block).length else none := by
      rw [hlength]
      split <;> split <;> first | rfl | omega
    refine ⟨_, rfl, hnext, ?_⟩
    rw [if_neg]
    · exact hstream
    · split
      · simp
      · simp only [Option.some.injEq]
        omega
  · next hge =>
    simp only [hactivation]
    refine ⟨⟨stream, none⟩, ?_, ?_, ?_⟩
    · rw [frames_crossfade (by omega)]
    · rw [if_neg (by omega)]
    · rw [if_neg (by simp)]
      exact hstream

/-- A live activation is heard as a fade from the dry input, whatever the callbacks are. -/
theorem activation_crossfades [Zero S] {maximum : Nat} {denoise : DenoiseStream σ S}
    {f : List S → S} {stream : σ}
    (h : AsStream (Admits maximum) denoise.process (denoise.bypass stream) f []) :
    AsStream (Admits maximum) (DenoiseStage.callback blend denoise) ⟨stream, some 0⟩
      (crossfade blend DENOISE_STARTUP_FRAMES dry f) [] :=
  AsStream.of_step (fun _ _ _ hs hblock => Bridging.callback hs hblock) ⟨rfl, h⟩

/-! ## Hand-offs -/

variable {process : σ → List S → Except GraphError (List S × σ)} {maximum : Nat}
  {primary predecessor : GraphAddress}

/-- Behind the input `history`, in a hand-off from `predecessor`. -/
inductive Playing (process : σ → List S → Except GraphError (List S × σ)) (maximum prime : Nat)
    (predecessor : GraphAddress) (prior : List S → S) (s : Playback σ) (history : List S) : Prop
  /-- No callback has run the stage. -/
  | waiting (hhistory : history = []) (hincomplete : s.stage.complete = false)
    (handoff : GraphHandoff) (hhandoff : s.stage.handoff = some handoff)
    (hcounters : handoff.transition = counters prime 0 none) (haudible : s.audible = predecessor)
    (hknown : handoff.previous.current = predecessor ∨ handoff.previous.pending = some predecessor)
    (hprior : AsStream (Admits maximum) process (s.graphs predecessor) prior history)
  | fading (hincomplete : s.stage.complete = false) (handoff : GraphHandoff) (usePending : Bool)
    (hhandoff : s.stage.handoff = some handoff)
    (hselected : (if usePending then handoff.previous.pending.getD handoff.previous.current
      else handoff.previous.current) = predecessor)
    (hcounters : handoff.transition = counters prime history.length (some usePending))
    (hlt : history.length < prime + GRAPH_TRANSITION_FRAMES)
    (hprior : AsStream (Admits maximum) process (s.graphs predecessor) prior history)
  | complete (hcomplete : s.stage.complete = true)
    (hge : prime + GRAPH_TRANSITION_FRAMES ≤ history.length)

/-- A playback with the new graph behind the input `history`. -/
structure HandingOff (process : σ → List S → Except GraphError (List S × σ)) (maximum prime : Nat)
    (primary predecessor : GraphAddress) (new prior : List S → S) (s : Playback σ)
    (history : List S) : Prop where
  isPrimary : s.stage.primary = primary
  stream : AsStream (Admits maximum) process (s.graphs primary) new history
  playing : Playing process maximum prime predecessor prior s history

/-- What `processHandoff` leaves behind `n` frames. -/
theorem processHandoff_counters {results : GraphAddress → Except GraphError (List S)}
    {stage : GraphStage} {handoff : GraphHandoff} {selected : Option Bool} {usePending : Bool}
    {audible : GraphAddress} {n : Nat} {samples priors : List S}
    (hincomplete : stage.complete = false)
    (hcounters : handoff.transition = counters prime n selected)
    (hselected : (if usePending then handoff.previous.pending.getD handoff.previous.current
      else handoff.previous.current) = predecessor)
    (hprior : results predecessor = .ok priors) (hlength : samples.length = priors.length) :
    processHandoff blend results stage handoff usePending audible samples =
      { stage := { stage with
          handoff := some { handoff with
            transition := counters prime (n + samples.length) (some usePending) }
          complete := decide (prime + GRAPH_TRANSITION_FRAMES ≤ n + samples.length) }
        audible := if prime + GRAPH_TRANSITION_FRAMES ≤ n + samples.length then stage.primary
          else audible
        returned := PORT_OK
        output := some (fadeFrom blend prime n samples priors)
        predecessor := some predecessor } := by
  have htransition : { handoff.transition with usePending := some usePending } =
      counters prime n (some usePending) := by
    rw [hcounters]
    rfl
  have hfaded : (counters prime (n + samples.length) (some usePending)).faded =
      GRAPH_TRANSITION_FRAMES ↔ prime + GRAPH_TRANSITION_FRAMES ≤ n + samples.length := by
    have hpos : 0 < GRAPH_TRANSITION_FRAMES := by decide
    simp only [counters]
    omega
  unfold processHandoff
  simp only [hselected, hprior, htransition, mix_counters samples priors hlength, hfaded]
  split
  · next hge => simp [hge]
  · next hlt => simp [hlt, hincomplete]

variable {s : Playback σ} {block : List S}

/-- A callback that mixes the predecessor. -/
theorem HandingOff.fade (hne : predecessor ≠ primary)
    (h : HandingOff process maximum prime primary predecessor new prior s history)
    (hblock : Admits maximum block) {handoff : GraphHandoff} {selected : Option Bool}
    {usePending : Bool} (hincomplete : s.stage.complete = false)
    (hcounters : handoff.transition = counters prime history.length selected)
    (hselected : (if usePending then handoff.previous.pending.getD handoff.previous.current
      else handoff.previous.current) = predecessor)
    (hprior : AsStream (Admits maximum) process (s.graphs predecessor) prior history)
    (hdone : graphProcess blend (fun pointer => (process (s.graphs pointer) block).map Prod.fst)
      (!block.isEmpty) s.stage s.audible = processHandoff blend
        (fun pointer => (process (s.graphs pointer) block).map Prod.fst) s.stage handoff usePending
        s.audible (frames new history block)) :
    ∃ s', s.callback blend process block =
        .ok (frames (crossfade blend prime prior new) history block, s') ∧
      HandingOff process maximum prime primary predecessor new prior s' (history ++ block) := by
  obtain ⟨sNew, hnew, hstream⟩ := h.stream.next hblock
  obtain ⟨sPrior, hpriorRun, hpriorStream⟩ := hprior.next hblock
  have hleft : (history ++ block).length = history.length + block.length := List.length_append
  rw [processHandoff_counters hincomplete hcounters hselected (by rw [hpriorRun]; rfl)
    (by rw [length_frames, length_frames]), fadeFrom_frames, length_frames] at hdone
  have hgraphs : (s.stage.primary :: [predecessor]).foldl (advance process block) s.graphs =
      Function.update (Function.update s.graphs primary sNew) predecessor sPrior := by
    simp only [List.foldl_cons, List.foldl_nil, h.isPrimary]
    have hfirst : advance process block s.graphs primary =
        Function.update s.graphs primary sNew := by
      rw [advance, hnew]
    rw [hfirst, advance, Function.update_of_ne hne, hpriorRun]
  unfold Playback.callback
  simp only [hdone, Option.toList_some, hgraphs]
  refine ⟨_, rfl, h.isPrimary, ?_, ?_⟩
  · simp only [Function.update_of_ne hne.symm, Function.update_self]
    exact hstream
  · by_cases hge : prime + GRAPH_TRANSITION_FRAMES ≤ history.length + block.length
    · exact .complete (decide_eq_true hge) (by omega)
    · refine .fading (decide_eq_false hge) _ usePending rfl hselected ?_ (by omega) ?_
      · rw [hleft]
      · simp only [Function.update_self]
        exact hpriorStream

theorem HandingOff.callback (hne : predecessor ≠ primary)
    (h : HandingOff process maximum prime primary predecessor new prior s history)
    (hblock : Admits maximum block) :
    ∃ s', s.callback blend process block =
        .ok (frames (crossfade blend prime prior new) history block, s') ∧
      HandingOff process maximum prime primary predecessor new prior s' (history ++ block) := by
  obtain ⟨sNew, hnew, hstream⟩ := h.stream.next hblock
  have hvalid : (!block.isEmpty) = true := by simpa using hblock.1
  have hprimary : (process (s.graphs s.stage.primary) block).map Prod.fst =
      .ok (frames new history block) := by
    rw [h.isPrimary, hnew]
    rfl
  cases h.playing with
  | waiting hhistory hincomplete handoff hhandoff hcounters haudible hknown hprior =>
    subst hhistory
    have hselected : (if decide (handoff.previous.pending = some s.audible) then
        handoff.previous.pending.getD handoff.previous.current else handoff.previous.current) =
          predecessor := by
      rw [haudible]
      by_cases hpending : handoff.previous.pending = some predecessor
      · simp [hpending]
      · simp [hpending, hknown.resolve_right hpending]
    refine h.fade hne hblock hincomplete hcounters hselected hprior ?_
    · have hother : s.stage.primary ≠ s.audible := by
        rw [h.isPrimary, haudible]
        exact hne.symm
      unfold graphProcess
      simp only [hvalid, hprimary, hincomplete, hhandoff, hcounters, counters, if_neg hother]
      rfl
  | fading hincomplete handoff usePending hhandoff hselected hcounters hlt hprior =>
    refine h.fade hne hblock hincomplete hcounters hselected hprior ?_
    unfold graphProcess
    simp only [hvalid, hprimary, hincomplete, hhandoff, hcounters, counters]
    rfl
  | complete hcomplete hge =>
    have hdone : graphProcess blend (fun pointer => (process (s.graphs pointer) block).map Prod.fst)
        (!block.isEmpty) s.stage s.audible =
          ⟨s.stage, s.audible, PORT_OK, some (frames new history block), none⟩ := by
      unfold graphProcess
      simp only [hvalid, hprimary, hcomplete]
      rfl
    unfold Playback.callback
    simp only [hdone]
    rw [frames_crossfade hge]
    refine ⟨_, rfl, h.isPrimary, ?_, .complete hcomplete ?_⟩
    · simp only [Option.toList_none, List.foldl_cons, List.foldl_nil, h.isPrimary, advance, hnew,
        Function.update_self]
      exact hstream
    · rw [List.length_append]
      omega

/-- The frames before the fade: as `transition_graph` sets them. -/
def primeFrames (maximum lookaheadFrames : Nat) : Nat :=
  max (lookaheadFrames + if lookaheadFrames = 0 then GRAPH_TRANSITION_FRAMES
    else LIMITER_PRIME_MARGIN_FRAMES) maximum

/-- A hand-off is heard as a fade from the graph that is audible at its first callback, whatever the
callbacks are. -/
theorem handoff_crossfades {stage previous : GraphStage} {audible prepared : GraphAddress}
    {lookaheadFrames : Nat} {graphs : GraphAddress → σ}
    (hstage : transitionGraph maximum primary previous prepared lookaheadFrames = .ok stage)
    (hknown : stage.Knows audible) (hne : audible ≠ primary)
    (hnew : AsStream (Admits maximum) process (graphs primary) new [])
    (hprior : AsStream (Admits maximum) process (graphs audible) prior []) :
    AsStream (Admits maximum) (Playback.callback blend process) ⟨stage, audible, graphs⟩
      (crossfade blend (primeFrames maximum lookaheadFrames) prior new) [] := by
  suffices hstart : HandingOff process maximum (primeFrames maximum lookaheadFrames) primary audible
      new prior ⟨stage, audible, graphs⟩ [] from
    AsStream.of_step (fun _ _ _ hs hblock => HandingOff.callback hne hs hblock) hstart
  unfold transitionGraph at hstage
  split at hstage
  · cases hstage
  · obtain rfl := Except.ok.inj hstage
    refine ⟨rfl, hnew, .waiting rfl rfl _ rfl ?_ rfl ?_ hprior⟩
    · simp [counters, primeFrames]
    · rcases hknown with hprimary | ⟨handoff, hhandoff, hprevious⟩
      · exact absurd hprimary.symm hne
      · obtain rfl := Option.some.inj hhandoff
        exact hprevious

/-! ## Whatever the callbacks are -/

/-- The weighted sum of a fade. -/
def blendExact {K : Type} [Field K] (faded : Nat) (prior sample : K) : K :=
  prior * (1 - (faded : K) / GRAPH_TRANSITION_FRAMES) +
    sample * ((faded : K) / GRAPH_TRANSITION_FRAMES)

/-- The output for an input: at each frame the fade between two stream functions. -/
structure Fades {K : Type} [Field K] (prime : Nat) (prior new : List K → K) (input output : List K) :
    Prop where
  length : output.length = input.length
  frame : ∀ n < input.length, output[n]? =
    some (fade blendExact prime n (prior (input.take (n + 1))) (new (input.take (n + 1))))

theorem exists_fades {K τ : Type} [Field K] {step : τ → List K → Except Int (List K × τ)} {s : τ}
    {prior new : List K → K}
    (h : AsStream (Admits maximum) step s (crossfade blendExact prime prior new) [])
    (blocks : List (List K)) (hblocks : ∀ block ∈ blocks, Admits maximum block) :
    ∃ output s', runBlocks step s blocks = .ok (output, s') ∧
      Fades prime prior new blocks.flatten output := by
  obtain ⟨s', hrun⟩ := h blocks hblocks
  refine ⟨_, s', hrun, length_frames, fun n hn => ?_⟩
  rw [getElem?_frames hn, crossfade, List.length_take, Nat.min_eq_left hn]
  rfl

/-- A hand-off and a live activation fade at the same frames of the stream in every partition into
callbacks. -/
theorem crossfades {K σ δ : Type} [Field K] (maximum : Nat) (blocks : List (List K))
    (hblocks : ∀ block ∈ blocks, Admits maximum block) :
    (∀ (process : σ → List K → Except GraphError (List K × σ)) (graphs : GraphAddress → σ)
        (primary audible prepared : GraphAddress) (stage previous : GraphStage)
        (lookaheadFrames : Nat) (prior new : List K → K),
      transitionGraph maximum primary previous prepared lookaheadFrames = .ok stage →
      stage.Knows audible → audible ≠ primary →
      AsStream (Admits maximum) process (graphs primary) new [] →
      AsStream (Admits maximum) process (graphs audible) prior [] →
      ∃ output s', runBlocks (Playback.callback blendExact process) ⟨stage, audible, graphs⟩ blocks =
        .ok (output, s') ∧
        Fades (primeFrames maximum lookaheadFrames) prior new blocks.flatten output) ∧
    ∀ (denoise : DenoiseStream δ K) (stream : δ) (denoised : List K → K),
      AsStream (Admits maximum) denoise.process (denoise.bypass stream) denoised [] →
      ∃ output s', runBlocks (DenoiseStage.callback blendExact denoise) ⟨stream, some 0⟩ blocks =
        .ok (output, s') ∧ Fades DENOISE_STARTUP_FRAMES dry denoised blocks.flatten output := by
  constructor
  · intro process graphs primary audible prepared stage previous lookaheadFrames prior new hstage
      hknown hne hnew hprior
    exact exists_fades (handoff_crossfades hstage hknown hne hnew hprior) blocks hblocks
  · intro denoise stream denoised h
    exact exists_fades (activation_crossfades h) blocks hblocks

/-- A graph of one gain. -/
def amplify (gain : Rat) (input : List Rat) : Except GraphError (List Rat × Rat) :=
  .ok (input.map (gain * ·), gain)

theorem asStream_amplify (maximum : Nat) (gain : Rat) :
    AsStream (Admits maximum) amplify gain (fun input => gain * dry input) [] := by
  have hframes (history block : List Rat) :
      frames (fun input => gain * dry input) history block = block.map (gain * ·) := by
    induction block generalizing history with
    | nil => rfl
    | cons x block ih => rw [frames_cons, ih, dry, List.getLastD_concat, List.map_cons]
  have hstep : ∀ (s : Rat) (history block : List Rat), s = gain → Admits maximum block → ∃ s',
      amplify s block = .ok (frames (fun input => gain * dry input) history block, s') ∧ s' = gain := by
    rintro s history block rfl -
    exact ⟨s, by rw [hframes, amplify], rfl⟩
  exact AsStream.of_step hstep rfl

/-- A model that gives each sample one frame late. -/
def delay (last : Rat) (input : List Rat) : Except GraphError (List Rat × Rat) :=
  .ok ((last :: input).dropLast, input.getLastD last)

theorem asStream_delay (maximum : Nat) :
    AsStream (Admits maximum) delay 0 (fun input => dry input.dropLast) [] := by
  have hframes (history block : List Rat) :
      frames (fun input => dry input.dropLast) history block = (dry history :: block).dropLast := by
    induction block generalizing history with
    | nil => rfl
    | cons x block ih =>
      rw [frames_cons, ih, List.dropLast_concat, dry, dry, List.getLastD_concat,
        List.dropLast_cons_cons]
  have hstep : ∀ (last : Rat) (history block : List Rat), last = dry history →
      Admits maximum block → ∃ last',
        delay last block = .ok (frames (fun input => dry input.dropLast) history block, last') ∧
          last' = dry (history ++ block) := by
    rintro last history block rfl -
    exact ⟨block.getLastD (dry history), by rw [hframes, delay], by simp [dry]⟩
  exact AsStream.of_step hstep rfl

theorem admits_replicate {maximum n : Nat} (x : Rat) (hpos : 0 < n) (hle : n ≤ maximum) :
    Admits maximum (List.replicate n x) := by
  refine ⟨List.ne_nil_of_length_pos ?_, ?_⟩ <;> rw [List.length_replicate] <;> assumption

/-- Callbacks that end in front of a hand-off's fade, in it, and in the fade of a denoiser. -/
def exampleBlocks : List (List Rat) :=
  [List.replicate 300 1, List.replicate 230 2, List.replicate 450 3, List.replicate 60 4]

/-- A hand-off from a graph of gain 1 to one of gain 3, and the activation of the model behind other
audio. -/
theorem crossfades_amplify :
    (∃ output s', runBlocks (Playback.callback (blendExact (K := Rat)) amplify)
        ⟨⟨1, some ⟨⟨0, none⟩, ⟨500, 0, none⟩⟩, false⟩, 0, fun p => if p = 1 then 3 else 1⟩
          exampleBlocks = .ok (output, s') ∧
        Fades (primeFrames 500 0) (fun input => 1 * dry input) (fun input => 3 * dry input)
          exampleBlocks.flatten output) ∧
    ∃ output s', runBlocks (DenoiseStage.callback (blendExact (K := Rat)) ⟨delay, fun _ => 0⟩)
      ⟨5, some 0⟩ exampleBlocks = .ok (output, s') ∧
        Fades DENOISE_STARTUP_FRAMES dry (fun input => dry input.dropLast) exampleBlocks.flatten
          output := by
  have hblocks : ∀ block ∈ exampleBlocks, Admits 500 block := by
    rw [exampleBlocks, List.forall_mem_cons, List.forall_mem_cons, List.forall_mem_cons,
      List.forall_mem_singleton]
    exact ⟨admits_replicate 1 (by decide) (by decide), admits_replicate 2 (by decide) (by decide),
      admits_replicate 3 (by decide) (by decide), admits_replicate 4 (by decide) (by decide)⟩
  obtain ⟨hhandoff, hactivation⟩ := @crossfades Rat Rat Rat _ 500 _ hblocks
  exact ⟨hhandoff amplify (fun p => if p = 1 then 3 else 1) 1 0 0 _ (.flat 0) 0 _ _ rfl
      (.inr ⟨_, rfl, .inl rfl⟩) (by decide) (asStream_amplify 500 3) (asStream_amplify 500 1),
    hactivation ⟨delay, fun _ => 0⟩ 5 _ (asStream_delay 500)⟩

end UsbRadioPlus.Runtime
