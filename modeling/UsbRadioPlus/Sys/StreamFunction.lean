import Mathlib.Data.List.Basic

/-!
# Stream functions and processors of blocks

A stream function gives each frame from the input up to it (`frames`). A processor takes its input in
blocks; `AsStream` says that it computes a stream function whatever the blocks are, as long as each of
them is admitted. `AsStream.of_step` is the induction over the blocks.
-/

namespace Sys

variable {S σ ε : Type}

/-- The frames of a block behind the input `history`. -/
def frames (f : List S → S) (history block : List S) : List S :=
  (List.range block.length).map fun i => f (history ++ block.take (i + 1))

variable {f g : List S → S} {history block : List S}

@[simp] theorem length_frames : (frames f history block).length = block.length := by
  simp [frames]

@[simp] theorem frames_nil : frames f history [] = [] := rfl

theorem frames_cons (x : S) :
    frames f history (x :: block) = f (history ++ [x]) :: frames f (history ++ [x]) block := by
  simp [frames, List.range_succ_eq_map, Function.comp_def]

theorem frames_append (block' : List S) : frames f history (block ++ block') =
    frames f history block ++ frames f (history ++ block) block' := by
  induction block generalizing history with
  | nil => simp
  | cons x block ih => simp [frames_cons, ih]

theorem getElem?_frames {n : Nat} (h : n < block.length) :
    (frames f [] block)[n]? = some (f (block.take (n + 1))) := by
  simp [frames, h]

/-! ## Processors -/

/-- What a processor gives for a sequence of blocks. -/
def runBlocks (step : σ → List S → Except ε (List S × σ)) :
    σ → List (List S) → Except ε (List S × σ)
  | s, [] => .ok ([], s)
  | s, block :: blocks => do
    let (output, s) ← step s block
    let (outputs, s) ← runBlocks step s blocks
    pure (output ++ outputs, s)

/-- Behind the input `history` the processor computes `f`, in whatever blocks that are admitted. -/
def AsStream (admits : List S → Prop) (step : σ → List S → Except ε (List S × σ)) (s : σ)
    (f : List S → S) (history : List S) : Prop :=
  ∀ blocks, (∀ block ∈ blocks, admits block) →
    ∃ s', runBlocks step s blocks = .ok (frames f history blocks.flatten, s')

variable {admits : List S → Prop} {step : σ → List S → Except ε (List S × σ)} {s : σ}

theorem AsStream.next (h : AsStream admits step s f history) (hblock : admits block) :
    ∃ s', step s block = .ok (frames f history block, s') ∧
      AsStream admits step s' f (history ++ block) := by
  obtain ⟨s', hone⟩ := h [block] (by simpa using hblock)
  rw [List.flatten_singleton] at hone
  cases hstep : step s block with
  | error e =>
    rw [runBlocks, hstep] at hone
    cases hone
  | ok result =>
    obtain ⟨output, s₁⟩ := result
    have hrun : ∀ blocks, runBlocks step s (block :: blocks) =
        (runBlocks step s₁ blocks).map fun r => (output ++ r.1, r.2) := by
      intro blocks
      rw [runBlocks, hstep]
      cases hrest : runBlocks step s₁ blocks <;> simp [bind, Except.bind, hrest, Except.map, pure,
        Except.pure]
    rw [hrun [], runBlocks] at hone
    obtain ⟨houtput, rfl⟩ := Prod.mk.inj (Except.ok.inj hone)
    rw [List.append_nil] at houtput
    subst houtput
    refine ⟨s₁, rfl, fun blocks hblocks => ?_⟩
    obtain ⟨s₂, hall⟩ := h (block :: blocks)
      (fun b hb => (List.mem_cons.mp hb).elim (fun heq => heq ▸ hblock) (hblocks b))
    rw [hrun, List.flatten_cons, frames_append] at hall
    cases hrest : runBlocks step s₁ blocks with
    | error e =>
      rw [hrest] at hall
      cases hall
    | ok result =>
      obtain ⟨outputs, s₃⟩ := result
      rw [hrest] at hall
      obtain ⟨houtputs, rfl⟩ := Prod.mk.inj (Except.ok.inj hall)
      have houtputs : outputs = frames f (history ++ block) blocks.flatten :=
        List.append_cancel_left houtputs
      exact ⟨s₃, by rw [houtputs]⟩

/-- What every block keeps, and gives. -/
theorem AsStream.of_step {Inv : σ → List S → Prop}
    (hstep : ∀ s history block, Inv s history → admits block →
      ∃ s', step s block = .ok (frames f history block, s') ∧ Inv s' (history ++ block))
    (hs : Inv s history) : AsStream admits step s f history := by
  intro blocks
  induction blocks generalizing s history with
  | nil => exact fun _ => ⟨s, rfl⟩
  | cons block blocks ih =>
    intro hblocks
    obtain ⟨s', hone, hs'⟩ := hstep s history block hs (hblocks block List.mem_cons_self)
    obtain ⟨s'', hrest⟩ := ih hs' fun b hb => hblocks b (List.mem_cons_of_mem _ hb)
    refine ⟨s'', ?_⟩
    rw [runBlocks, hone]
    simp only [bind, Except.bind, hrest, List.flatten_cons, frames_append, pure, Except.pure]

end Sys
