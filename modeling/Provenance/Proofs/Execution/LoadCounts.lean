import Provenance.Proofs.Execution.Steady
import Provenance.Proofs.Graph.Rebinding

/-!
# Which load of its source a node meets

A source may give something else at every load, and several nodes may hold it.  So what a node finds
depends on how often its source has been loaded when it is the node's turn: before the survey, and
in it for the nodes that stand in front (`Graph.earlier`).  A survey is known when this is known of
each of its nodes (`Resolver.survey_eq`).

When one node is bound to something else, the others meet the same loads as before if they hold
neither the source that is exchanged nor the one in its stead (`JobGraph.earlier_kept`).  If a node
holds one of them, it may meet another load, which makes no difference if the source is steady.
-/

namespace Provenance

namespace Graph

variable {g : Graph}

/-- Those of several nodes in front of one of them for which a configuration is loaded. -/
def loadedAhead (g : Graph) (vs : List g.Vertex) (v : g.Vertex) : List g.Vertex :=
  (vs.takeWhile (· ≠ v)).filter fun w => (g.node w).binding.isSome

/-- How often the source of a node has been loaded when it is its turn among several nodes, after
the loads that went `before`: the loads for all nodes that hold it count. -/
def earlier (g : Graph) (before vs : List g.Vertex) (v : g.Vertex) : ℕ :=
  (before ++ g.loadedAhead vs v).countP fun w : g.Vertex => decide (g.counter w = g.counter v)

lemma earlier_cons_self (before vs : List g.Vertex) (v : g.Vertex) :
    g.earlier before (v :: vs) v = g.loadCount before v := by
  simp [earlier, loadedAhead, loadCount, beq_eq_decide]

/-- A bound node has its load behind those that went before. -/
lemma earlier_cons_of_bound {v w : g.Vertex} (h : v ≠ w) (hv : (g.node v).binding.isSome = true)
    (before vs : List g.Vertex) :
    g.earlier before (v :: vs) w = g.earlier (before ++ [v]) vs w := by
  simp [earlier, loadedAhead, h, hv]

lemma earlier_cons_of_unbound {v w : g.Vertex} (h : v ≠ w)
    (hv : ¬(g.node v).binding.isSome = true) (before vs : List g.Vertex) :
    g.earlier before (v :: vs) w = g.earlier before vs w := by
  simp [earlier, loadedAhead, h, hv]

end Graph

/-! ## Surveys -/

namespace Resolver

variable {g : Graph} {n : Node}

lemma resolve_of_unbound (r : Resolver) (h : n.binding.isNone = true) (earlier : ℕ) :
    r.resolve n earlier = ⟨[], none, []⟩ := by
  have hb : n.binding = none := Option.isNone_iff_eq_none.1 h
  simp only [resolve, hb]

/-- **A survey finds what each node has in it**, at the load that the node meets, and loads the
configuration of each bound node. -/
lemma survey_eq (r : Resolver) {vs : List g.Vertex} (hvs : vs.Nodup) (before : List g.Vertex) :
    r.survey g before vs =
      { inputs := vs.flatMap fun v => (r.resolve (g.node v) (g.earlier before vs v)).inputs
        outputs := vs.flatMap fun v =>
          (r.resolve (g.node v) (g.earlier before vs v)).output.toList
        skips := vs.flatMap fun v => (r.resolve (g.node v) (g.earlier before vs v)).skips
        loads := vs.filter fun v => (g.node v).binding.isSome } := by
  induction vs generalizing before with
  | nil => rfl
  | cons v vs ih =>
      obtain ⟨hv, hvs⟩ := List.nodup_cons.1 hvs
      have hne : ∀ w ∈ vs, v ≠ w := fun w hw heq => hv (heq ▸ hw)
      -- What is found of the nodes behind is settled by the loads that they meet.
      have hfound : ∀ {before' : List g.Vertex},
          (∀ w ∈ vs, g.earlier before (v :: vs) w = g.earlier before' vs w) →
          ∀ {α : Type} (part : Findings → List α),
            (vs.flatMap fun w => part (r.resolve (g.node w) (g.earlier before' vs w))) =
              vs.flatMap fun w => part (r.resolve (g.node w) (g.earlier before (v :: vs) w)) := by
        intro before' hmeets α part
        apply List.flatMap_congr
        intro w hw
        rw [hmeets w hw]
      simp only [List.flatMap_cons, List.filter_cons, Graph.earlier_cons_self]
      unfold survey
      by_cases hsome : (g.node v).binding.isSome = true
      · have hnone : ¬(g.node v).binding.isNone = true := by
          rwa [Option.isNone_iff_eq_none, ← ne_eq, ← Option.isSome_iff_ne_none]
        have hbehind := @hfound (before ++ [v]) fun w hw =>
          Graph.earlier_cons_of_bound (hne w hw) hsome before vs
        rw [if_neg hnone, if_pos hsome, ih hvs (before ++ [v]), hbehind (·.inputs),
          hbehind (·.output.toList), hbehind (·.skips)]
      · have hnone : (g.node v).binding.isNone = true := by
          rwa [Option.isSome_iff_ne_none, not_not, ← Option.isNone_iff_eq_none] at hsome
        have hbehind := @hfound before fun w hw =>
          Graph.earlier_cons_of_unbound (hne w hw) hsome before vs
        rw [if_pos hnone, if_neg hsome, ih hvs before, hbehind (·.inputs),
          hbehind (·.output.toList), hbehind (·.skips), resolve_of_unbound r hnone]
        rfl

end Resolver

/-! ## The nodes of a job -/

namespace JobGraph

/-- How often the source of a node has been loaded when it is the node's turn in a binding of the
job, after the loads that went `before`. -/
def earlier (j : JobGraph) (before : List j.graph.Vertex) (v : j.graph.Vertex) : ℕ :=
  j.graph.earlier before (j.graph.preorder [] j.root) v

/-- **What binding a job looks into**: each node of the job, at the load that it meets. -/
lemma survey_flatten (r : Resolver) (j : JobGraph) (before : List j.graph.Vertex) :
    r.survey j.graph before j.flatten =
      { inputs := j.flatten.flatMap fun v =>
          (r.resolve (j.graph.node v) (j.earlier before v)).inputs
        outputs := j.flatten.flatMap fun v =>
          (r.resolve (j.graph.node v) (j.earlier before v)).output.toList
        skips := j.flatten.flatMap fun v => (r.resolve (j.graph.node v) (j.earlier before v)).skips
        loads := j.flatten.filter fun v => (j.graph.node v).binding.isSome } := by
  rw [r.survey_eq j.nodup_flatten before, j.flatten_eq_preorder]
  rfl

/-- A job of two nodes that hold one source. -/
def pairedJob : JobGraph where
  graph := {
    nodes := #[
      ⟨"read", "scan", some ⟨.modern, .ofConfiguration .empty⟩, []⟩,
      ⟨"write", "save", some ⟨.legacy, .ofConfiguration .empty⟩, [0]⟩]
    ordered := by decide
    counter := fun _ => 0 }
  root := ⟨1, by decide⟩

/-- The final node meets the first load of the source, and the other node the second one. -/
example : pairedJob.earlier [] pairedJob.root = 0 ∧ pairedJob.earlier [] ⟨0, by decide⟩ = 1 := by
  cbv

/-- What the loads for a node give does not hang on those for a node that is bound to another
source, or to none: its own source gives the same at every load, or it is neither the one that is
exchanged nor the one in its stead. -/
def IsApart (j : JobGraph) (u : j.graph.Vertex) (k : ℕ) (v : j.graph.Vertex) : Prop :=
  (∀ b, (j.graph.node v).binding = some b → b.source.IsSteady) ∨
    (j.graph.counter v ≠ j.graph.counter u ∧ j.graph.counter v ≠ k)

variable {j : JobGraph} {before : List j.graph.Vertex} {u v : j.graph.Vertex} {b : Option Binding}
  {k : ℕ}

/-- A node meets the same load in the job with another binding for a node, if the loads for the same
nodes are counted with those for it. -/
lemma earlier_kept
    (hcounter : ∀ w : j.graph.Vertex, (j.rebind u b k).graph.counter (j.kept u b k w) =
      (j.rebind u b k).graph.counter (j.kept u b k v) ↔ j.graph.counter w = j.graph.counter v)
    (hbound : ∀ w : j.graph.Vertex, j.graph.counter w = j.graph.counter v →
      ((j.rebind u b k).graph.node (j.kept u b k w)).binding.isSome =
        (j.graph.node w).binding.isSome) :
    (j.rebind u b k).earlier (before.map (j.kept u b k)) (j.kept u b k v) = j.earlier before v := by
  have hahead : ((j.graph.preorder [] j.root).map (j.kept u b k)).takeWhile
        (· ≠ j.kept u b k v) =
      ((j.graph.preorder [] j.root).takeWhile (· ≠ v)).map (j.kept u b k) := by
    rw [List.takeWhile_map]
    congr 2
    funext w
    simp [(j.kept_injective u b k).eq_iff]
  unfold earlier Graph.earlier Graph.loadedAhead
  rw [j.preorder_rebind u b k, hahead, List.countP_append, List.countP_append, List.countP_filter,
    List.countP_filter, List.countP_map, List.countP_map]
  congr 1
  · apply List.countP_congr
    intro w _
    simp [hcounter w]
  · apply List.countP_congr
    intro w _
    have hw := hcounter w
    by_cases heq : j.graph.counter w = j.graph.counter v
    · simp [hw, heq, hbound w heq]
    · simp [hw, heq]

/-- A node that is apart from one that is bound anew meets a load that gives the same. -/
lemma IsApart.load_eq (h : j.IsApart u k v) (hne : v ≠ u) {c : Binding}
    (hc : (j.graph.node v).binding = some c) :
    c.source.load ((j.rebind u b k).earlier (before.map (j.kept u b k)) (j.kept u b k v)) =
      c.source.load (j.earlier before v) := by
  rcases h with hsteady | ⟨hold, hnew⟩
  · exact hsteady c hc _ _
  · have hv : (j.rebind u b k).graph.counter (j.kept u b k v) = j.graph.counter v := by
      rw [counter_kept, if_neg hne]
    rw [earlier_kept]
    · intro w
      rw [hv, counter_kept]
      by_cases hwu : w = u
      · simp [hwu, Ne.symm hold, Ne.symm hnew]
      · rw [if_neg hwu]
    · intro w hw
      have hwu : w ≠ u := fun heq => hold (heq ▸ hw.symm)
      rw [node_kept, if_neg hwu]

/-- Every node meets the same load as before if a source is exchanged for one that is counted in its
stead. -/
lemma earlier_kept_of_counter (hbound : b.isSome = (j.graph.node u).binding.isSome)
    (v : j.graph.Vertex) :
    (j.rebind u b (j.graph.counter u)).earlier (before.map (j.kept u b (j.graph.counter u)))
      (j.kept u b (j.graph.counter u) v) = j.earlier before v := by
  have hcounter : ∀ w : j.graph.Vertex, (j.rebind u b (j.graph.counter u)).graph.counter
      (j.kept u b (j.graph.counter u) w) = j.graph.counter w := by
    intro w
    rw [counter_kept]
    split
    · rename_i hwu
      rw [hwu]
    · rfl
  apply earlier_kept
  · intro w
    rw [hcounter, hcounter]
  · intro w _
    rw [node_kept]
    split
    · rename_i hwu
      rw [hwu]
      exact hbound
    · rfl

end JobGraph

end Provenance
