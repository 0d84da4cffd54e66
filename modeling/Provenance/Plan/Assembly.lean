import Provenance.Plan.Wiring

/-!
# From plans to graphs

`Plan.build` puts together the graph that a plan describes.  Only the nodes on which the final node
depends become part of it.

The nodes are built in post-order, from a list of tasks.  A node is *opened* when its first task
comes up: the tasks of its dependencies are put in front of a second one of its own, in which it is
built.  A node whose first task comes up again while it is open depends on itself.

The tasks are bounded by the nodes that are still unopened, since only opening a node adds tasks.
-/

namespace Provenance

namespace Plan

/-- What has become of a node of the plan. -/
inductive Mark where
  /-- It has not been opened. -/
  | fresh
  /-- It has been opened, and its dependencies are being built. -/
  | opened
  /-- It has been built at a position of the graph. -/
  | built (position : Nat)
  deriving Repr, DecidableEq

/-- The position at which a node has been built. -/
def Mark.position? : Mark → Option Nat
  | built position => some position
  | _ => none

/-- What is to be done about a node. -/
inductive Task (n : Nat) where
  /-- Open it, unless it has been built. -/
  | visit (i : Fin n)
  /-- Build it from its dependencies. -/
  | build (i : Fin n)
  deriving Repr, DecidableEq

/-- The storage of a node as the binding of a node in a graph. -/
def Storage.toBinding (s : Storage) : Binding :=
  ⟨s.interface, .ofConfiguration s.properties⟩

/-- The node of a graph that an item describes, its dependencies at the given positions. -/
def Item.toNode (item : Item) (dependencies : List Nat) : Node :=
  ⟨item.id, item.operation, item.storage.map Storage.toBinding, dependencies⟩

end Plan

/-- A graph that is being put together from a plan. -/
structure Assembly (w : Wiring) where
  graph : Graph
  marks : Vector Plan.Mark w.size

namespace Assembly

open Plan

variable {w : Wiring}

/-- The assembly in which nothing has been done. -/
def start (w : Wiring) : Assembly w where
  graph := .empty
  marks := .replicate _ .fresh

/-- The assembly with the node of an item at the end of its graph, unless one of the dependencies
has not been built. -/
def build? (a : Assembly w) (i : Fin w.size) : Option (Assembly w) := do
  let dependencies ← (w.targets i).mapM fun t => a.marks[t].position?
  let graph ← a.graph.add? ((w.item i).toNode dependencies)
  some ⟨graph, a.marks.set i (.built a.graph.nodes.size)⟩

/-- The number of nodes that have not been opened. -/
def freshCount (a : Assembly w) : Nat :=
  a.marks.count .fresh

/-- Opening a fresh node leaves one node less to be opened. -/
theorem count_fresh_set_opened {marks : Vector Mark n} {i : Nat} (hi : i < n)
    (h : marks[i] = .fresh) : (marks.set i .opened).count .fresh < marks.count .fresh := by
  have hpos : 0 < marks.count .fresh := Vector.count_pos_iff.2 (h ▸ Vector.getElem_mem hi)
  have hset : (marks.set i .opened).count .fresh = marks.count .fresh - 1 := by
    simp [Vector.count_set, h]
  omega

/-- Building a node does not make any node fresh. -/
theorem count_fresh_set_built {marks : Vector Mark n} {i : Nat} (hi : i < n) (k : Nat) :
    (marks.set i (.built k)).count .fresh ≤ marks.count .fresh := by
  rw [Vector.count_set]
  simp

theorem freshCount_build?_le {a b : Assembly w} {i : Fin w.size} (h : a.build? i = some b) :
    b.freshCount ≤ a.freshCount := by
  simp only [build?, Option.bind_eq_bind, Option.bind_eq_some_iff, Option.some.injEq] at h
  obtain ⟨_, _, _, _, rfl⟩ := h
  exact count_fresh_set_built i.isLt _

/-- Carry out the tasks, the first one first. -/
def run (a : Assembly w) : List (Task w.size) → Except Fault (Assembly w)
  | [] => .ok a
  | .build i :: tasks =>
    match h : a.build? i with
    | some b => run b tasks
    | none => .error (.unbuiltDependency (w.item i).id)
  | .visit i :: tasks =>
    match h : a.marks[i] with
    | .built _ => run a tasks
    | .opened => .error (.cycle (w.item i).id)
    | .fresh =>
      run { a with marks := a.marks.set i .opened }
        ((w.targets i).map .visit ++ .build i :: tasks)
termination_by tasks => (a.freshCount, tasks.length)
decreasing_by
  · rcases Nat.lt_or_eq_of_le (freshCount_build?_le h) with hlt | heq
    · exact Prod.Lex.left _ _ hlt
    · rw [heq]
      exact Prod.Lex.right _ (by simp)
  · exact Prod.Lex.right _ (by simp)
  · exact Prod.Lex.left _ _ (count_fresh_set_opened i.isLt h)

/-- The job whose final node is that of the plan. -/
def finish (a : Assembly w) : Except Fault JobGraph :=
  match a.marks[w.root].position? with
  | none => .error (.unbuiltRoot w.plan.root)
  | some position =>
    if h : position < a.graph.nodes.size then .ok ⟨a.graph, ⟨position, h⟩⟩
    else .error (.unbuiltRoot w.plan.root)

end Assembly

/-- The job that a plan describes. -/
def Plan.build (p : Plan) : Except Plan.Fault JobGraph := do
  let w ← p.wire
  let a ← (Assembly.start w).run [.visit w.root]
  a.finish

end Provenance
