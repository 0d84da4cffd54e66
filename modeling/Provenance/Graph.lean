import Provenance.Configuration.Source

/-!
# Computation graphs

A *node* is one operation of a job, with the nodes whose results it uses as its dependencies.  A
node that reads or writes storage is bound to a configuration source through one of the host's
interfaces.

A graph lists its nodes so that each stands behind all of its dependencies, which are given by
their positions.  No such list has a cycle, and each operation of a job can be put at its end.  A
position is what identifies a node: the id of a node is a label, and two nodes may bear the same.

Several nodes may hold the same source.  A load for one of them is then a load for the others too,
which matters if the source gives something else the next time; so the graph also says of which
nodes the loads are counted together.
-/

namespace Provenance

/-- How a node is tied to storage. -/
structure Binding where
  interface : Configuration.Interface
  source : Configuration.Source

/-- One operation of a job. -/
structure Node where
  id : String
  operation : String
  binding : Option Binding
  /-- The positions of the nodes whose results the operation uses, in their order. -/
  dependencies : List Nat

/-- The name of a node's interface, or `none` for a node that is not bound. -/
def Node.bindingName (n : Node) : String :=
  match n.binding with
  | some b => b.interface.name
  | none => "none"

/-- The nodes of a job. -/
structure Graph where
  nodes : Array Node
  /-- A node stands behind its dependencies. -/
  ordered : ∀ i (h : i < nodes.size), ∀ d ∈ nodes[i].dependencies, d < i
  /-- By which counter the loads of a node's source are counted, by the position of the node.  Nodes
  that hold the same source have the same counter; if nothing is said about it, each node holds a
  source of its own. -/
  counter : Nat → Nat := id

namespace Graph

/-- A node of the graph, as its position. -/
abbrev Vertex (g : Graph) := Fin g.nodes.size

/-- The graph without nodes. -/
def empty : Graph where
  nodes := #[]
  ordered _ h := by simp at h

/-- The node at a position. -/
def node (g : Graph) (v : g.Vertex) : Node :=
  g.nodes[v]

/-- The dependencies of a node. -/
def dependencies (g : Graph) (v : g.Vertex) : List g.Vertex :=
  (g.node v).dependencies.attach.map fun d =>
    ⟨d.1, Nat.lt_trans (g.ordered v v.2 d.1 d.2) v.2⟩

/-- How often the source of a node has been loaded, if these are the nodes for which sources have
been loaded. -/
def loadCount (g : Graph) (loads : List g.Vertex) (v : g.Vertex) : Nat :=
  loads.countP fun w : g.Vertex => g.counter w == g.counter v

/-- Put a node at the end. -/
def add (g : Graph) (n : Node) (h : ∀ d ∈ n.dependencies, d < g.nodes.size) : Graph where
  nodes := g.nodes.push n
  counter := g.counter
  ordered i hi d hd := by
    rcases Nat.lt_or_eq_of_le (Nat.le_of_lt_succ (by simpa using hi)) with hlt | heq
    · rw [Array.getElem_push_lt hlt] at hd
      exact g.ordered i hlt d hd
    · subst heq
      rw [Array.getElem_push_eq] at hd
      exact h d hd

/-- Put a node at the end, unless it depends on a position that holds no node. -/
def add? (g : Graph) (n : Node) : Option Graph :=
  if h : ∀ d ∈ n.dependencies, d < g.nodes.size then some (g.add n h) else none

/-- The graph of a list of nodes, unless one of them depends on a node that is not in front of
it. -/
def ofNodes? (ns : List Node) : Option Graph :=
  ns.foldlM add? empty

end Graph

/-- A job: a graph and its final node, whose result is the result of the job. -/
structure JobGraph where
  graph : Graph
  root : graph.Vertex

end Provenance
