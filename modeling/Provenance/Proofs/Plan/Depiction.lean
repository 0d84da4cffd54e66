import Provenance.Proofs.Graph.DepthFirst
import Provenance.Proofs.Plan.Verdict

/-!
# The graph that a plan describes

A plan is a picture of a graph: `Plan.Depicts` says that the nodes of a job are, one for one, the
nodes of the plan on which the root depends, that each has the operation and the storage that the
plan gives it, and that it has its dependencies in the order and as often as the plan lists them.
A dependency that several nodes share is one node, since an id stands for one node only.

The order in which the job's nodes are listed can be told from the plan too: `Plan.Walk` is the
depth-first walk along ids.
-/

namespace Provenance

/-- The id of a node. -/
def Graph.idAt (g : Graph) (v : g.Vertex) : String :=
  (g.node v).id

namespace Plan

/-- A binding is as the storage of an item describes it: it goes through the same interface, and
whenever its configuration is loaded, this has the properties that are written out. -/
structure Storage.Describes (s : Storage) (b : Binding) : Prop where
  interface : b.interface = s.interface
  load : ∀ earlier, b.source.load earlier = .ok s.properties

/-- A node of a graph is as an item of a plan describes it: it is bound just if the item has
storage, and its dependencies have the ids that the item lists. -/
structure Item.Describes (item : Item) (g : Graph) (v : g.Vertex) : Prop where
  id : g.idAt v = item.id
  operation : (g.node v).operation = item.operation
  binding : Option.Rel Storage.Describes item.storage (g.node v).binding
  dependencies : (g.dependencies v).map g.idAt = item.dependencies

/-- The graph of a job is the part of a plan that its root reaches. -/
structure Depicts (p : Plan) (j : JobGraph) : Prop where
  root : j.graph.idAt j.root = p.root
  injective : ∀ v w, j.graph.idAt v = j.graph.idAt w → v = w
  reached_iff : ∀ id, (∃ v, j.graph.idAt v = id) ↔ p.Reaches p.root id
  described : ∀ v, ∃ item ∈ p.items, item.Describes j.graph v

/-- The depth-first walk through a plan: the ids that have been found, with those that are found
when the pending ones are walked to in their order.  An id is found once, in front of what it
depends on. -/
inductive Walk (p : Plan) : (found pending result : List String) → Prop
  | done {found : List String} : Walk p found [] found
  | pass {id : String} {found pending result : List String} : id ∈ found →
      Walk p found pending result → Walk p found (id :: pending) result
  | visit {item : Item} {found pending between result : List String} : item ∈ p.items →
      item.id ∉ found → Walk p (found ++ [item.id]) item.dependencies between →
      Walk p between pending result → Walk p found (item.id :: pending) result

end Plan

open Plan

/-! ## The graph of an assembly -/

lemma Plan.Storage.describes_toBinding (s : Storage) : s.Describes s.toBinding where
  interface := rfl
  load _ := rfl

/-- The node that is made of an item has the binding that the item describes. -/
lemma Plan.Item.rel_binding_toNode (item : Item) (ds : List ℕ) :
    Option.Rel Storage.Describes item.storage (item.toNode ds).binding := by
  unfold Item.toNode
  cases item.storage with
  | none => exact .none
  | some s => exact .some s.describes_toBinding

namespace Assembly

variable {w : Wiring} {a : Assembly w}

lemma Laid.idAt_eq (h : a.Laid) {i : Fin w.size} {v : a.graph.Vertex}
    (hi : a.marks.get i = .built v) : a.graph.idAt v = w.idAt i := by
  obtain ⟨ds, hnode, -⟩ := h.node_of_built i v hi
  have hnode : a.graph.node v = (w.item i).toNode ds := (Array.getElem?_eq_some_iff.1 hnode).2
  rw [Graph.idAt, hnode]
  rfl

/-- A node that has been built is as its item describes it. -/
lemma Laid.describes (h : a.Laid) {i : Fin w.size} {v : a.graph.Vertex}
    (hi : a.marks.get i = .built v) : (w.item i).Describes a.graph v := by
  obtain ⟨ds, hnode, hds⟩ := h.node_of_built i v hi
  have hnode : a.graph.node v = (w.item i).toNode ds := (Array.getElem?_eq_some_iff.1 hnode).2
  have hvals : ds = (a.graph.dependencies v).map Fin.val := by
    rw [Graph.map_val_dependencies, hnode]
    rfl
  refine ⟨h.idAt_eq hi, by rw [hnode]; rfl, hnode ▸ (w.item i).rel_binding_toNode ds, ?_⟩
  rw [hvals, List.forall₂_map_right_iff] at hds
  rw [← Wiring.map_idAt_targets, ← List.forall₂_eq_eq_eq, List.forall₂_map_left_iff,
    List.forall₂_map_right_iff]
  exact hds.flip.imp fun u t ht => h.idAt_eq ht

/-- A finished assembly holds a picture of its plan. -/
lemma Underway.depicts {r : a.graph.Vertex} (h : a.Underway []) (hids : w.plan.ids.Nodup)
    (hroot : w.idAt w.root = w.plan.root) (hr : a.marks.get w.root = .built r) :
    w.plan.Depicts ⟨a.graph, r⟩ where
  root := (h.laid.idAt_eq hr).trans hroot
  injective u v huv := by
    obtain ⟨i, hi, -⟩ := h.laid.built_of_lt u u.isLt
    obtain ⟨k, hk, -⟩ := h.laid.built_of_lt v v.isLt
    have hik : w.idAt i = w.idAt k :=
      (h.laid.idAt_eq hi).symm.trans (huv.trans (h.laid.idAt_eq hk))
    rw [Wiring.idAt_injective hids hik, hk] at hi
    exact Fin.ext (Mark.built.inj hi).symm
  reached_iff id := by
    rw [← hroot, Wiring.reaches_idAt_iff hids]
    constructor
    · rintro ⟨v, rfl⟩
      obtain ⟨i, hi, hreach⟩ := h.laid.built_of_lt v v.isLt
      exact ⟨i, hreach, (h.laid.idAt_eq hi).symm⟩
    · rintro ⟨i, hreach, rfl⟩
      obtain ⟨k, hk⟩ := h.laid.isBuilt_of_reaches ⟨_, hr⟩ hreach
      exact ⟨⟨k, h.laid.lt_size hk⟩, h.laid.idAt_eq hk⟩
  described v := by
    obtain ⟨i, hi, -⟩ := h.laid.built_of_lt v v.isLt
    exact ⟨w.item i, Wiring.item_mem i, h.laid.describes hi⟩

end Assembly

namespace Plan

variable {p : Plan} {j : JobGraph}

/-- **A job depicts the plan from which it is built.** -/
lemma depicts_of_build (h : p.build = .ok j) : p.Depicts j := by
  cases hw : p.wire with
  | error f =>
      rw [build, hw] at h
      cases h
  | ok w =>
      obtain ⟨rfl, hids, -, hroot⟩ := of_wire_eq_ok hw
      rcases build_of_wire_cases hw with ⟨a, r, hr, hdone, hmark⟩ | ⟨i, hi, -⟩
      · rw [hr] at h
        cases h
        exact hdone.depicts hids hroot hmark
      · rw [hi] at h
        cases h

/-! ## The order of the nodes -/

/-- A walk through a plan whose ids are told apart can only go one way. -/
lemma Walk.unique (hids : p.ids.Nodup) {found pending result other : List String}
    (h : p.Walk found pending result) (h' : p.Walk found pending other) : result = other := by
  induction h generalizing other with
  | done =>
      cases h'
      rfl
  | pass hid _ ih =>
      cases h' with
      | pass _ hrest => exact ih hrest
      | visit _ hnew _ _ => exact absurd hid hnew
  | @visit item found pending between result hitem hnew _ _ ihdeps ihrest =>
      generalize hhead : item.id = id at h'
      cases h' with
      | pass hid _ => exact absurd (hhead ▸ hid) hnew
      | @visit same _ _ between' _ hsame _ hdeps hrest =>
          obtain rfl : item = same := List.inj_on_of_nodup_map hids hitem hsame hhead
          obtain rfl : between = between' := ihdeps hdeps
          exact ihrest hrest

namespace Depicts

/-- What a node's id depends on are the ids of the nodes on which the node depends. -/
lemma depends_iff (h : p.Depicts j) (hids : p.ids.Nodup) {v : j.graph.Vertex} {id : String} :
    p.Depends (j.graph.idAt v) id ↔ ∃ d ∈ j.graph.dependencies v, j.graph.idAt d = id := by
  obtain ⟨item, hitem, hv⟩ := h.described v
  rw [← List.mem_map, hv.dependencies]
  constructor
  · rintro ⟨other, hother, hid, hd⟩
    have hsame : other = item := List.inj_on_of_nodup_map hids hother hitem (hid.trans hv.id)
    rwa [hsame] at hd
  · intro hd
    exact ⟨item, hitem, hv.id.symm, hd⟩

/-- Every node of the job is one that its final node reaches. -/
lemma reaches (h : p.Depicts j) (hids : p.ids.Nodup) (v : j.graph.Vertex) :
    j.graph.Reaches j.root v := by
  have hids' : ∀ id, p.Reaches p.root id →
      ∃ u, j.graph.Reaches j.root u ∧ j.graph.idAt u = id := by
    intro id hid
    induction hid with
    | refl => exact ⟨j.root, .refl, h.root⟩
    | tail _ hstep ih =>
        obtain ⟨u, hu, rfl⟩ := ih
        obtain ⟨d, hd, rfl⟩ := (h.depends_iff hids).1 hstep
        exact ⟨d, hu.tail hd, rfl⟩
  obtain ⟨u, hu, huv⟩ := hids' _ ((h.reached_iff _).1 ⟨v, rfl⟩)
  exact h.injective u v huv ▸ hu

/-- The walk along ids goes from a node's id to the ids of pending nodes as the walk along nodes
does. -/
def Follows (p : Plan) (g : Graph) (found : List g.Vertex) (v : g.Vertex) : Prop :=
  ∀ pending result, p.Walk ((g.preorder found v).map g.idAt) pending result →
    p.Walk (found.map g.idAt) (g.idAt v :: pending) result

lemma walk_foldl_preorder {g : Graph} {vs : List g.Vertex}
    (h : ∀ found, ∀ v ∈ vs, Follows p g found v) (found : List g.Vertex) :
    p.Walk (found.map g.idAt) (vs.map g.idAt) ((vs.foldl g.preorder found).map g.idAt) := by
  induction vs generalizing found with
  | nil => exact .done
  | cons v vs ih =>
      refine h found v List.mem_cons_self _ _ ?_
      exact ih (fun found u hu => h found u (List.mem_cons_of_mem v hu)) (g.preorder found v)

lemma follows (h : p.Depicts j) (found : List j.graph.Vertex) (v : j.graph.Vertex) :
    Follows p j.graph found v := by
  induction found, v using Graph.preorder.induct with
  | case1 found v hv =>
      intro pending result hwalk
      rw [Graph.preorder_of_mem hv] at hwalk
      exact .pass (List.mem_map_of_mem hv) hwalk
  | case2 found v hv ih =>
      intro pending result hwalk
      rw [Graph.preorder_of_notMem hv] at hwalk
      obtain ⟨item, hitem, hdesc⟩ := h.described v
      have hnew : item.id ∉ found.map j.graph.idAt := by
        rw [← hdesc.id, List.mem_map]
        rintro ⟨u, hu, huv⟩
        exact hv (h.injective u v huv ▸ hu)
      have hdeps := walk_foldl_preorder (fun found d hd => ih found ⟨d, hd⟩) (found ++ [v])
      rw [List.map_append, List.map_singleton, hdesc.id, hdesc.dependencies] at hdeps
      rw [hdesc.id]
      exact .visit hitem hnew hdeps hwalk

/-- **A job's nodes are listed in the depth-first order of the plan.** -/
lemma walk_flatten (h : p.Depicts j) :
    p.Walk [] [p.root] (j.flatten.map j.graph.idAt) := by
  have hwalk := h.follows [] j.root [] _ .done
  rwa [h.root, ← j.flatten_eq_preorder] at hwalk

lemma nodup_flatten (h : p.Depicts j) : (j.flatten.map j.graph.idAt).Nodup :=
  List.Nodup.map_on (fun v _ u _ huv => h.injective v u huv) j.nodup_flatten

lemma mem_flatten_iff (h : p.Depicts j) (hids : p.ids.Nodup) (id : String) :
    id ∈ j.flatten.map j.graph.idAt ↔ p.Reaches p.root id := by
  rw [List.mem_map, ← h.reached_iff]
  constructor
  · rintro ⟨v, -, hv⟩
    exact ⟨v, hv⟩
  · rintro ⟨v, hv⟩
    exact ⟨v, (j.mem_flatten_iff v).2 (h.reaches hids v), hv⟩

end Depicts

end Plan

end Provenance
