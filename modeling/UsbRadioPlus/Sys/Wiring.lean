import Mathlib.Data.List.Dedup
import Mathlib.Data.List.Perm.Basic

/-!
# Links between nodes

A node consumes links and produces links. `Wired start finish nodes`: from the links `start`, the nodes in
their order leave the links `finish`. Every link is produced once (`produced`), every link is consumed once
or left (`balanced`), and a node takes at least one link, all of them from the start or from nodes in front
of it (`fed`), so there is no cycle.

* `Wired.append`: one wiring behind another that produces other links.
* `Wired.map`: links are renamed.
* `Wired.count_inputs`, `Wired.count_outputs`: a link is produced once and consumed once.
* `Wired.reached`: every node is reached from the start.
-/

namespace Sys

variable {L M : Type*}

/-- A node takes links and makes links. -/
structure Node (L : Type*) where
  inputs : List L
  outputs : List L
  deriving DecidableEq

namespace Node

/-- All links that are produced, and all that are consumed. -/
def produced (nodes : List (Node L)) : List L := nodes.flatMap outputs

/-- The links that the nodes take. -/
def consumed (nodes : List (Node L)) : List L := nodes.flatMap inputs

/-- A node with other names for its links. -/
def map (f : L → M) (node : Node L) : Node M := ⟨node.inputs.map f, node.outputs.map f⟩

@[simp] theorem produced_nil : produced ([] : List (Node L)) = [] := rfl

@[simp] theorem consumed_nil : consumed ([] : List (Node L)) = [] := rfl

@[simp] theorem produced_cons (node : Node L) (rest : List (Node L)) :
    produced (node :: rest) = node.outputs ++ produced rest := rfl

@[simp] theorem consumed_cons (node : Node L) (rest : List (Node L)) :
    consumed (node :: rest) = node.inputs ++ consumed rest := rfl

@[simp] theorem produced_append (ns ms : List (Node L)) :
    produced (ns ++ ms) = produced ns ++ produced ms :=
  List.flatMap_append

@[simp] theorem consumed_append (ns ms : List (Node L)) :
    consumed (ns ++ ms) = consumed ns ++ consumed ms :=
  List.flatMap_append

theorem produced_map (f : L → M) (ns : List (Node L)) :
    produced (ns.map (map f)) = (produced ns).map f := by
  induction ns with
  | nil => rfl
  | cons node rest ih => simp [ih, map]

theorem consumed_map (f : L → M) (ns : List (Node L)) :
    consumed (ns.map (map f)) = (consumed ns).map f := by
  induction ns with
  | nil => rfl
  | cons node rest ih => simp [ih, map]

/-- Every node takes at least one link, all of them from `known` or from nodes in front of it. -/
def Fed : List L → List (Node L) → Prop
  | _, [] => True
  | known, node :: rest =>
    node.inputs ≠ [] ∧ (∀ l ∈ node.inputs, l ∈ known) ∧ Fed (known ++ node.outputs) rest

instance decidableFed [DecidableEq L] :
    (known : List L) → (nodes : List (Node L)) → Decidable (Fed known nodes)
  | _, [] => inferInstanceAs (Decidable True)
  | known, node :: rest =>
    have := decidableFed (known ++ node.outputs) rest
    inferInstanceAs (Decidable (node.inputs ≠ [] ∧ (∀ l ∈ node.inputs, l ∈ known) ∧ _))

theorem Fed.mono {known known' : List L} {ns : List (Node L)} (h : Fed known ns)
    (hsub : known ⊆ known') : Fed known' ns := by
  induction ns generalizing known known' with
  | nil => trivial
  | cons node rest ih =>
    refine ⟨h.1, fun l hl => hsub (h.2.1 l hl), ih h.2.2 ?_⟩
    exact List.append_subset.mpr
      ⟨List.subset_append_of_subset_left _ hsub, List.subset_append_right _ _⟩

theorem Fed.inputs_ne_nil {known : List L} {ns : List (Node L)} (h : Fed known ns) :
    ∀ node ∈ ns, node.inputs ≠ [] := by
  induction ns generalizing known with
  | nil => simp
  | cons first rest ih =>
    intro node hnode
    rcases List.mem_cons.mp hnode with rfl | hmem
    · exact h.1
    · exact ih h.2.2 node hmem

theorem Fed.append {known : List L} {ns ms : List (Node L)} (h : Fed known ns)
    (h' : Fed (known ++ produced ns) ms) : Fed known (ns ++ ms) := by
  induction ns generalizing known with
  | nil => simpa using h'
  | cons node rest ih =>
    refine ⟨h.1, h.2.1, ih h.2.2 ?_⟩
    simpa using h'

theorem Fed.map {known : List L} {ns : List (Node L)} (h : Fed known ns) (f : L → M) :
    Fed (known.map f) (ns.map (Node.map f)) := by
  induction ns generalizing known with
  | nil => trivial
  | cons node rest ih =>
    refine ⟨by simpa [Node.map] using h.1, ?_, ?_⟩
    · intro l hl
      obtain ⟨l', hl', rfl⟩ := List.mem_map.mp hl
      exact List.mem_map_of_mem (h.2.1 l' hl')
    · have hrest := ih h.2.2
      rwa [List.map_append] at hrest

end Node

open Node

/-- Every link is made once and taken once, and no node takes a link in front of the node that makes
it. -/
structure Wired (start finish : List L) (nodes : List (Node L)) : Prop where
  produced : (start ++ produced nodes).Nodup
  balanced : (start ++ Node.produced nodes).Perm (consumed nodes ++ finish)
  fed : Fed start nodes

namespace Wired

variable {start middle finish : List L} {ns ms : List (Node L)}

theorem nil (h : start.Nodup) : Wired start start ([] : List (Node L)) where
  produced := by simpa using h
  balanced := by simp
  fed := trivial

theorem finish_subset (h : Wired start finish ns) : finish ⊆ start ++ Node.produced ns :=
  fun _ hl => h.balanced.symm.subset (List.mem_append_right _ hl)

/-- A wiring goes on from the links that another one leaves. -/
theorem append (h : Wired start middle ns) (h' : Wired middle finish ms)
    (hnew : ∀ l ∈ Node.produced ms, l ∉ start ++ Node.produced ns) :
    Wired start finish (ns ++ ms) where
  produced := by
    rw [produced_append, ← List.append_assoc]
    exact h.produced.append (List.nodup_append.mp h'.produced).2.1 fun l hl hl' => hnew l hl' hl
  balanced := by
    rw [produced_append, consumed_append, ← List.append_assoc]
    refine (h.balanced.append_right (Node.produced ms)).trans ?_
    rw [List.append_assoc, List.append_assoc]
    exact List.Perm.append_left _ h'.balanced
  fed := h.fed.append (h'.fed.mono h.finish_subset)

theorem map {f : L → M} (hf : Function.Injective f) (h : Wired start finish ns) :
    Wired (start.map f) (finish.map f) (ns.map (Node.map f)) where
  produced := by
    rw [produced_map, ← List.map_append]
    exact h.produced.map hf
  balanced := by
    rw [produced_map, consumed_map, ← List.map_append, ← List.map_append]
    exact h.balanced.map f
  fed := h.fed.map f

section Counts

variable [BEq L] [LawfulBEq L]

/-- A link of the start or of a node is there once. -/
theorem count_outputs (h : Wired start finish ns) {l : L} (hl : l ∈ start ++ Node.produced ns) :
    (start ++ Node.produced ns).count l = 1 :=
  List.count_eq_one_of_mem h.produced hl

/-- It is consumed once, or left. -/
theorem count_inputs (h : Wired start finish ns) {l : L} (hl : l ∈ start ++ Node.produced ns) :
    (consumed ns).count l + finish.count l = 1 := by
  rw [← List.count_append, ← h.balanced.count_eq, h.count_outputs hl]

end Counts

/-- Nothing else is consumed. -/
theorem consumed_subset (h : Wired start finish ns) : consumed ns ⊆ start ++ Node.produced ns :=
  fun _ hl => h.balanced.symm.subset (List.mem_append_left _ hl)

end Wired

/-! ## Reached nodes -/

/-- A link comes from the start: it is in the start, or a node of a link that comes from it produces it. -/
inductive Reached (start : List L) (nodes : List (Node L)) : L → Prop where
  | start {l : L} (h : l ∈ start) : Reached start nodes l
  | step {node : Node L} {l l' : L} (hnode : node ∈ nodes) (hl : l ∈ node.inputs)
      (h : Reached start nodes l) (hl' : l' ∈ node.outputs) : Reached start nodes l'

theorem Node.Fed.reached {start known : List L} {nodes all : List (Node L)} (h : Fed known nodes)
    (hsub : nodes ⊆ all) (hknown : ∀ l ∈ known, Reached start all l) :
    ∀ node ∈ nodes, ∀ l ∈ node.inputs, Reached start all l := by
  induction nodes generalizing known with
  | nil => simp
  | cons first rest ih =>
    obtain ⟨hne, hin, hrest⟩ := h
    have hfirst : ∀ l ∈ first.inputs, Reached start all l := fun l hl => hknown l (hin l hl)
    have hout : ∀ l ∈ first.outputs, Reached start all l := by
      intro l hl
      obtain ⟨l₀, hl₀⟩ := List.exists_mem_of_ne_nil _ hne
      exact .step (hsub List.mem_cons_self) hl₀ (hfirst l₀ hl₀) hl
    intro node hnode
    rcases List.mem_cons.mp hnode with rfl | hmem
    · exact hfirst
    · refine ih hrest (fun n hn => hsub (List.mem_cons_of_mem _ hn)) ?_ node hmem
      intro l hl
      rcases List.mem_append.mp hl with hl | hl
      · exact hknown l hl
      · exact hout l hl

/-- Every link that a node consumes comes from the start. -/
theorem Wired.reached {start finish : List L} {nodes : List (Node L)} (h : Wired start finish nodes) :
    ∀ node ∈ nodes, ∀ l ∈ node.inputs, Reached start nodes l :=
  h.fed.reached (List.Subset.refl _) fun _ hl => .start hl

end Sys
