import Provenance.Plan

/-!
# Wired plans

A plan is *wired* when no two of its nodes share an id and every id in it leads to a node.  From
then on a node is its position in the plan, and following a dependency cannot fail.
-/

namespace Provenance

namespace Plan

/-- The position of the node with an id. -/
def position? (p : Plan) (id : String) : Option (Fin p.items.length) :=
  p.items.findFinIdx? (·.id == id)

/-- The first id that a node in front of its own has already, given the ids that came before. -/
def firstRepetition? : (seen : List String) → List Item → Option String
  | _, [] => none
  | seen, item :: items =>
    if seen.contains item.id then some item.id else firstRepetition? (item.id :: seen) items

/-- The first id that two nodes of the plan have. -/
def repeatedId? (p : Plan) : Option String :=
  firstRepetition? [] p.items

/-- The first dependency that leads to no node, behind the id of the node that has it. -/
def unknownDependency? (p : Plan) : Option (String × String) :=
  p.items.findSome? fun item =>
    (item.dependencies.find? fun d => (p.position? d).isNone).map fun d => (item.id, d)

end Plan

/-- A plan whose ids all lead to nodes. -/
structure Wiring where
  plan : Plan
  root : Fin plan.items.length
  known : ∀ i : Fin plan.items.length, ∀ d ∈ plan.items[i].dependencies,
    (plan.position? d).isSome

namespace Wiring

/-- The number of nodes. -/
abbrev size (w : Wiring) : Nat := w.plan.items.length

/-- The node at a position. -/
def item (w : Wiring) (i : Fin w.size) : Plan.Item :=
  w.plan.items[i]

/-- The positions of the nodes on which a node depends, in their order. -/
def targets (w : Wiring) (i : Fin w.size) : List (Fin w.size) :=
  (w.item i).dependencies.attach.map fun d => (w.plan.position? d.1).get (w.known i d.1 d.2)

end Wiring

theorem Plan.known_of_unknownDependency?_eq_none {p : Plan} (h : p.unknownDependency? = none)
    (i : Fin p.items.length) (d : String) (hd : d ∈ p.items[i].dependencies) :
    (p.position? d).isSome := by
  have hitem := List.findSome?_eq_none_iff.1 h p.items[i] (List.getElem_mem i.isLt)
  have := List.find?_eq_none.1 (Option.map_eq_none_iff.1 hitem) d hd
  simpa [Option.isSome_iff_ne_none] using this

/-- The wiring of a plan, or the first fault in its ids: a repetition, then an unknown dependency,
then an unknown final node. -/
def Plan.wire (p : Plan) : Except Plan.Fault Wiring :=
  match p.repeatedId? with
  | some id => .error (.repeatedId id)
  | none =>
    match h : p.unknownDependency? with
    | some (node, missing) => .error (.unknownDependency node missing)
    | none =>
      match p.position? p.root with
      | none => .error (.unknownRoot p.root)
      | some root => .ok ⟨p, root, Plan.known_of_unknownDependency?_eq_none h⟩

end Provenance
