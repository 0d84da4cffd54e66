import Provenance.Graph

/-!
# The nodes of a job

`JobGraph.flatten` lists every node on which the result of a job depends, each of them once, in
depth-first order: a node in front of its dependencies, and the dependencies in the order in which
the node lists them.

The walk keeps its pending nodes on a list of its own, so a graph may be of any depth.  A node that
has been visited is not put on that list again, and it is passed over when it is taken from it: it
may have been put there several times before it was visited.  Each step either takes a node from
the list or visits one more node of the graph, which bounds the walk.
-/

namespace Provenance

/-- Visit the pending nodes and whatever they depend on, after those that have been `found`, the
latest first. -/
def Graph.walk (g : Graph) (visited : Vector Bool g.nodes.size) (found : List g.Vertex) :
    (pending : List g.Vertex) → List g.Vertex
  | [] => found.reverse
  | v :: pending =>
    if visited.get v then walk g visited found pending
    else
      let seen := visited.set v true v.isLt
      walk g seen (v :: found) ((g.dependencies v).filter (fun d => !seen.get d) ++ pending)
termination_by pending => (visited.count false, pending.length)
decreasing_by
  · exact Prod.Lex.right _ (by simp)
  · apply Prod.Lex.left
    rename_i h
    have hget : visited.get v = false := by simpa using h
    have h : visited[v.val] = false := hget
    have hpos : 0 < visited.count false :=
      Vector.count_pos_iff.2 (h ▸ Vector.getElem_mem v.isLt)
    have hset : (visited.set v true).count false = visited.count false - 1 := by
      simp [Vector.count_set, h]
    omega

/-- Every node on which the result of a job depends, the final node first. -/
def JobGraph.flatten (j : JobGraph) : List j.graph.Vertex :=
  j.graph.walk (.replicate _ false) [] [j.root]

end Provenance
