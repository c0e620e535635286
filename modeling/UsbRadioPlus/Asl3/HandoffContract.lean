import UsbRadioPlus.Asl3.HandoffRefinement

/-!
# What the callers of the handoff rely on

`Contract` reads the refinement off for the two callers: what is popped, what the consumer copies,
what the counters add up to, and what becomes of a value that was reported published.
`contract_of_reach` is for any slot count and any interleaving.

`discarded` counts the values that a later push replaced and the values that were dropped, so
`admitted = popped + discarded + available` does not hold after a drop (`discarded_counts_drops`):
the admitted values are those popped, replaced and available.
-/

namespace UsbRadioPlus
namespace Asl3

open Sys

variable {T : Type}

namespace State

/-- The completed pushes whose value went into the queue. -/
def admitted (s : State T) : Nat := s.outcomes.countP (· ≠ .droppedDuringRead)

/-- The completed pushes whose value was dropped. -/
def dropped (s : State T) : Nat := s.outcomes.count .droppedDuringRead

/-- The push under way has replaced the values that waited. -/
def Replacing (s : State T) : Prop := s.push.window = true ∨ s.push = .closeGeneration

end State

/-- The handoff as its callers see it. -/
structure Contract (s : State T) : Prop where
  /-- Popped values are pushed values, each at most once and in their order. -/
  order : s.popped.Sublist s.pushed
  /-- The slot that is copied holds a value and is not written. -/
  copied : ∀ c, s.pop = .copy c → c < s.shared.slotCount ∧ (∃ v, s.shared.slots c = .written v) ∧
    ∀ v p stale, s.push = .write v p stale ∨ s.push = .finishWrite v p stale → p ≠ c
  /-- The counters add up while both sides are idle. -/
  counted : s.push = .idle → s.pop = .idle → ∃ replaced,
    s.admitted = s.popped.length + replaced + s.shared.observe.available ∧
      s.shared.observe.discarded = (replaced + s.dropped) % WORD
  /-- A value that was reported published waits, was popped, or was replaced by a later push. -/
  kept : ∃ fates : List Fate,
    s.popped = valuesOf .taken (s.pushed.zip fates) ∧
    Ring.Holds s.shared.slots s.shared.slotCount s.shared.consumer
      ((valuesOf .waiting (s.pushed.zip fates)).map .written) ∧
    s.shared.observe.available = (valuesOf .waiting (s.pushed.zip fates)).length ∧
    s.outcomes.length ≤ fates.length ∧
    ∀ (i : Nat) o f, s.outcomes[i]? = some o → o ≠ .droppedDuringRead → fates[i]? = some f →
      f = .waiting ∨ f = .taken ∨ ∃ k, f = .replaced k ∧ i < k ∧
        (s.outcomes[k]? = some .replacedStale ∨ (k = s.outcomes.length ∧ s.Replacing))

theorem count_dropped {outcomes : List PublishOutcome} {window : Bool} {es : List (T × Fate)}
    (h : Reported outcomes window es) :
    outcomes.count .droppedDuringRead = es.countP fun e => e.2 = .dropped := by
  have hmap : outcomes.map (fun o => decide (o = .droppedDuringRead)) =
      es.map fun e => decide (e.2 = .dropped) := by
    refine List.ext_getElem (by simp [h.length]) fun i h1 h2 => ?_
    rw [List.getElem_map, List.getElem_map]
    rw [List.length_map] at h1 h2
    exact decide_eq_decide.mpr (h.dropped i _ _ (List.getElem?_eq_getElem h1)
      (List.getElem?_eq_getElem h2))
  have hl : outcomes.count .droppedDuringRead =
      (outcomes.map fun o => decide (o = .droppedDuringRead)).countP id := by
    rw [List.countP_map, List.count]
    exact List.countP_congr fun o _ => by simp
  rw [hl, hmap, List.countP_map]
  exact List.countP_congr fun e _ => by simp

/-- The offers with their fates. -/
theorem zip_offered (q : LatestQueue T) : q.offered.zip (q.entries.map (·.2)) = q.entries := by
  rw [LatestQueue.offered, ← List.append_nil (q.entries.map (·.2)),
    List.zip_append (by simp), List.zip_nil_right, List.append_nil]
  exact (List.zip_of_prod rfl rfl).symm

/-- An outcome that is reported or will be is reported, or is the one of the push under way. -/
theorem reported_or_replacing {s : State T} {k : Nat}
    (h : (s.outcomes ++ s.push.upcoming)[k]? = some .replacedStale ∨
      (k = (s.outcomes ++ s.push.upcoming).length ∧ s.push.window = true)) :
    s.outcomes[k]? = some .replacedStale ∨ (k = s.outcomes.length ∧ s.Replacing) := by
  rcases h with h | ⟨h, hw⟩
  · rcases Nat.lt_or_ge k s.outcomes.length with hk | hk
    · rw [List.getElem?_append_left hk] at h
      exact .inl h
    · rw [List.getElem?_append_right hk] at h
      have hmem := List.mem_of_getElem? h
      obtain ⟨hlt, -⟩ := List.getElem?_eq_some_iff.mp h
      have hclose : s.push = .closeGeneration := by
        cases hpush : s.push <;> rw [hpush] at hmem <;> simp [PushPc.upcoming] at hmem
      rw [hclose] at hlt
      have : k - s.outcomes.length < 1 := hlt
      exact .inr ⟨by omega, .inr hclose⟩
  · have hnil : s.push.upcoming = [] := by
      cases hpush : s.push <;> rw [hpush] at hw <;> first | rfl | cases hw
    rw [hnil, List.append_nil] at h
    exact .inr ⟨h, .inl hw⟩

theorem contract_of_refines {s : State T} {q : LatestQueue T} (h : Refines s q) : Contract s where
  order := by
    rw [h.popped, h.pushed]
    exact q.taken_sublist
  copied := by
    intro c hc
    have hcl : c = s.shared.consumer := h.claimed c (by rw [hc]; rfl)
    have hne : q.waiting ≠ [] := by
      have := h.popLocal
      rwa [hc] at this
    obtain ⟨w, ws, hw⟩ := List.exists_cons_of_ne_nil hne
    refine ⟨hcl ▸ h.ring.consumer_lt, ⟨w, ?_⟩, ?_⟩
    · have := h.ring.holds
      rw [hw, List.map_cons] at this
      rw [hcl, ← this.head, Nat.mod_eq_of_lt h.ring.consumer_lt]
    · intro v p stale hpush hpc
      have hp : p = s.shared.producer := by
        have := h.pushLocal
        rcases hpush with hpush | hpush <;> rw [hpush] at this <;> exact this.1
      exact hne (h.ring.eq_nil_iff.mp (by rw [← hcl, ← hpc, hp]))
  counted := by
    intro hpush hpop
    have hrep : Reported s.outcomes false q.entries := by
      have := h.reported
      rw [hpush] at this
      exact List.append_nil s.outcomes ▸ this
    have hpending : q.pending = none := by rw [h.pending, hpush]; rfl
    have hle : s.dropped ≤ q.lost := by
      rw [State.dropped, count_dropped hrep, LatestQueue.lost]
      refine List.countP_mono_left fun e _ he => ?_
      rw [of_decide_eq_true he]
      rfl
    have hsum : s.outcomes.length = s.admitted + s.dropped := by
      rw [List.length_eq_countP_add_countP (· ≠ PublishOutcome.droppedDuringRead), State.admitted,
        State.dropped, List.count]
      congr 1
      exact List.countP_congr fun o _ => by simp
    have hlen := length_entries q.entries
    have havail : s.shared.observe.available = q.waiting.length := h.ring.distance_eq
    refine ⟨q.lost - s.dropped, ?_, ?_⟩
    · rw [havail, h.popped, LatestQueue.waiting, LatestQueue.taken]
      rw [hrep.length] at hlen
      rw [LatestQueue.lost] at hle ⊢
      omega
    · show s.shared.discarded = _
      have hmod : s.shared.discarded % WORD = q.lost % WORD := by
        have := h.counted
        rwa [hpush] at this
      rw [Nat.sub_add_cancel hle, ← hmod, Nat.mod_eq_of_lt h.discarded_lt]
  kept := by
    refine ⟨q.entries.map (·.2), ?_, ?_, ?_, ?_, ?_⟩
    · rw [h.pushed, zip_offered]
      exact h.popped
    · rw [h.pushed, zip_offered]
      exact h.ring.holds
    · rw [h.pushed, zip_offered]
      exact h.ring.distance_eq
    · rw [List.length_map, h.reported.length, List.length_append]
      exact Nat.le_add_right _ _
    · intro i o f ho hne hf
      obtain ⟨e, he, rfl⟩ : ∃ e, q.entries[i]? = some e ∧ e.2 = f := by
        rw [List.getElem?_map] at hf
        exact Option.map_eq_some_iff.mp hf
      have hall : (s.outcomes ++ s.push.upcoming)[i]? = some o := by
        rw [List.getElem?_append_left (List.getElem?_eq_some_iff.mp ho).1, ho]
      cases hfate : e.2 with
      | waiting => exact .inl rfl
      | taken => exact .inr (.inl rfl)
      | dropped => exact absurd ((h.reported.dropped i o e hall he).mpr hfate) hne
      | replaced k =>
        exact .inr (.inr ⟨k, rfl, q.later i e k he hfate,
          reported_or_replacing (h.reported.replaced i e k he hfate)⟩)

/-- **The handoff keeps its contract** in every state that an interleaving reaches. -/
theorem contract_of_reach {slotCount : Nat} {s : State T}
    (h : (handoff T slotCount).Reach s) : Contract s := by
  obtain ⟨q, -, hq⟩ := (handoff_simulation T slotCount).reach h
  exact contract_of_refines hq

/-- The accesses of a push that completes, of the claim of a pop, of a push that is dropped, and the
rest of the pop. -/
def dropSchedule : List (Act Nat) :=
  [.callPush 1] ++ List.replicate 5 .stepPush ++ [.callPop] ++ List.replicate 4 .stepPop ++
    [.callPush 2] ++ List.replicate 7 .stepPush ++ List.replicate 9 .stepPop

theorem contract_of_dropSchedule :
    ∃ s, (handoff Nat 2).Reach s ∧ s.popped = [1] ∧ s.pushed = [1, 2] ∧ Contract s := by
  obtain ⟨s, hrun, hpopped, hpushed⟩ : ∃ s, (handoff Nat 2).run
      (.initial ⟨2, fun _ => .uninit, 0, 0, 0, 0⟩) dropSchedule = some s ∧ s.popped = [1] ∧
      s.pushed = [1, 2] := ⟨_, rfl, rfl, rfl⟩
  have hreach : (handoff Nat 2).Reach s := ⟨_, _, ⟨_, rfl, rfl⟩, hrun⟩
  exact ⟨s, hreach, hpopped, hpushed, contract_of_reach hreach⟩

/-- A drop is counted as discarded, but was not admitted. -/
theorem discarded_counts_drops :
    ∃ s, (handoff Nat 2).Reach s ∧ s.push = .idle ∧ s.pop = .idle ∧
      s.admitted ≠ s.popped.length + s.shared.observe.discarded + s.shared.observe.available := by
  obtain ⟨s, hrun, hpush, hpop, hne⟩ : ∃ s, (handoff Nat 2).run
      (.initial ⟨2, fun _ => .uninit, 0, 0, 0, 0⟩) dropSchedule = some s ∧ s.push = .idle ∧
      s.pop = .idle ∧
      s.admitted ≠ s.popped.length + s.shared.observe.discarded + s.shared.observe.available :=
    ⟨_, rfl, rfl, rfl, by decide⟩
  exact ⟨s, ⟨_, _, ⟨_, rfl, rfl⟩, hrun⟩, hpush, hpop, hne⟩

end Asl3
end UsbRadioPlus
