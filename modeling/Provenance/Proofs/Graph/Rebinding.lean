import Provenance.Proofs.Graph.DepthFirst

/-!
# Binding a node to something else

The walk through a job looks at dependencies only.  A map between the nodes of two graphs that
keeps nodes apart and keeps their dependencies therefore takes the one walk to the other
(`map_preorder`).  In particular a job lists the same positions, in the same order, whatever one of
its nodes is bound to (`flatten_rebind`).
-/

namespace Provenance

namespace Graph

variable {g h : Graph}

lemma map_foldl_preorder {f : g.Vertex → h.Vertex} {vs : List g.Vertex}
    (hvs : ∀ found, ∀ v ∈ vs, (g.preorder found v).map f = h.preorder (found.map f) (f v))
    (found : List g.Vertex) :
    (vs.foldl g.preorder found).map f = (vs.map f).foldl h.preorder (found.map f) := by
  induction vs generalizing found with
  | nil => rfl
  | cons v vs ih =>
      have hhead : (g.preorder found v).map f = h.preorder (found.map f) (f v) :=
        hvs found v List.mem_cons_self
      rw [List.foldl_cons, List.map_cons, List.foldl_cons, ← hhead]
      exact ih (fun found w hw => hvs found w (List.mem_cons_of_mem v hw)) (g.preorder found v)

/-- **The walk follows dependencies only.**  A map that keeps them takes one walk to the other. -/
lemma map_preorder {f : g.Vertex → h.Vertex} (hf : Function.Injective f)
    (hdeps : ∀ v, h.dependencies (f v) = (g.dependencies v).map f) (found : List g.Vertex)
    (v : g.Vertex) : (g.preorder found v).map f = h.preorder (found.map f) (f v) := by
  induction found, v using preorder.induct with
  | case1 found v hv =>
      rw [preorder_of_mem hv, preorder_of_mem (List.mem_map_of_mem hv)]
  | case2 found v hv ih =>
      have hnew : f v ∉ found.map f := by
        rwa [List.mem_map_of_injective hf]
      have hfold := map_foldl_preorder (fun found d hd => ih found ⟨d, hd⟩) (found ++ [v])
      rw [preorder_of_notMem hv, preorder_of_notMem hnew, hdeps, hfold, List.map_append,
        List.map_singleton]

end Graph

/-! ## One node bound anew -/

/-- The node with another binding, or none. -/
def Node.rebind (n : Node) (b : Option Binding) : Node :=
  { n with binding := b }

/-- The graph with another binding, or none, for a node, and with the counter of the source that the
node holds then. -/
def Graph.rebind (g : Graph) (u : g.Vertex) (b : Option Binding) (k : ℕ) : Graph where
  nodes := g.nodes.setIfInBounds u ((g.node u).rebind b)
  ordered i hi d hd := by
    have hlt : i < g.nodes.size := Array.size_setIfInBounds ▸ hi
    rw [Array.getElem_setIfInBounds hlt] at hd
    split at hd
    · rename_i hui
      exact hui ▸ g.ordered u u.isLt d hd
    · exact g.ordered i hlt d hd
  counter := Function.update g.counter u k

lemma Graph.size_rebind (g : Graph) (u : g.Vertex) (b : Option Binding) (k : ℕ) :
    (g.rebind u b k).nodes.size = g.nodes.size :=
  Array.size_setIfInBounds

namespace JobGraph

/-- The job with another binding, or none, for a node, whose source has the given counter. -/
def rebind (j : JobGraph) (u : j.graph.Vertex) (b : Option Binding) (k : ℕ) : JobGraph where
  graph := j.graph.rebind u b k
  root := ⟨j.root.val, (j.graph.size_rebind u b k).symm ▸ j.root.isLt⟩

/-- A node of the job, at the same position of the job in which one is bound anew. -/
def kept (j : JobGraph) (u : j.graph.Vertex) (b : Option Binding) (k : ℕ) (v : j.graph.Vertex) :
    (j.rebind u b k).graph.Vertex :=
  ⟨v.val, (j.graph.size_rebind u b k).symm ▸ v.isLt⟩

variable (j : JobGraph) (u : j.graph.Vertex) (b : Option Binding) (k : ℕ)

lemma kept_injective : Function.Injective (j.kept u b k) := by
  intro v w hvw
  have hval : (j.kept u b k v).val = (j.kept u b k w).val := congrArg Fin.val hvw
  exact Fin.ext hval

lemma node_kept (v : j.graph.Vertex) :
    (j.rebind u b k).graph.node (j.kept u b k v) =
      if v = u then (j.graph.node u).rebind b else j.graph.node v := by
  have hget : (j.rebind u b k).graph.node (j.kept u b k v) =
      if u.val = v.val then (j.graph.node u).rebind b else j.graph.node v :=
    Array.getElem_setIfInBounds v.isLt
  rw [hget]
  simp only [Fin.ext_iff, eq_comm]

lemma counter_kept (v : j.graph.Vertex) :
    (j.rebind u b k).graph.counter (j.kept u b k v) =
      if v = u then k else j.graph.counter v := by
  have hget : (j.rebind u b k).graph.counter (j.kept u b k v) =
      if v.val = u.val then k else j.graph.counter v :=
    Function.update_apply ..
  rw [hget]
  simp only [Fin.ext_iff]

lemma dependencies_kept (v : j.graph.Vertex) :
    (j.rebind u b k).graph.dependencies (j.kept u b k v) =
      (j.graph.dependencies v).map (j.kept u b k) := by
  have hnode : ((j.rebind u b k).graph.node (j.kept u b k v)).dependencies =
      (j.graph.node v).dependencies := by
    rw [node_kept]
    split
    · rename_i hvu
      rw [hvu]
      rfl
    · rfl
  have hvals : ((j.rebind u b k).graph.dependencies (j.kept u b k v)).map Fin.val =
      ((j.graph.dependencies v).map (j.kept u b k)).map Fin.val := by
    rw [Graph.map_val_dependencies, hnode, ← Graph.map_val_dependencies, List.map_map]
    rfl
  exact List.map_injective_iff.2 (fun _ _ => Fin.ext) hvals

/-- **The recursive walk takes the same way** through both jobs. -/
lemma preorder_rebind : (j.rebind u b k).graph.preorder [] (j.rebind u b k).root =
    (j.graph.preorder [] j.root).map (j.kept u b k) :=
  (Graph.map_preorder (j.kept_injective u b k) (j.dependencies_kept u b k) [] j.root).symm

/-- **Bindings do not change which nodes are listed, nor their order.** -/
lemma flatten_rebind : (j.rebind u b k).flatten = j.flatten.map (j.kept u b k) := by
  rw [flatten_eq_preorder, flatten_eq_preorder, preorder_rebind]

end JobGraph

end Provenance
