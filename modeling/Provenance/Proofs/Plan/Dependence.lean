import Mathlib.Data.List.Nodup
import Mathlib.Logic.Relation
import Provenance.Plan.Wiring

/-!
# What depends on what in a plan

A plan speaks of its nodes by their ids, so whether it describes a graph is a question about ids:
which of them occur, and which depends on which.  This module asks that question without following
any id to a node, for plans of all kinds, malformed and cyclic ones included.

`wire` then is what it takes to answer it.  It finds the first fault among the ids
(`shows_of_wire_eq_error`), and there is a wiring if and only if ids are told apart, every
dependency is known and the root is a node (`exists_wire_eq_ok_iff`).  In a wiring whose ids are
told apart, the positions depend on one another as their ids do (`depends_iff`).
-/

namespace Provenance

namespace Plan

/-! ## Ids -/

/-- The ids of the nodes, in their order. -/
def ids (p : Plan) : List String :=
  p.items.map (·.id)

/-- A node with the first id has the second one among its dependencies. -/
def Depends (p : Plan) (id dependency : String) : Prop :=
  ∃ item ∈ p.items, item.id = id ∧ dependency ∈ item.dependencies

/-- The second id is the first one, or one on which it depends, directly or through others. -/
def Reaches (p : Plan) : String → String → Prop :=
  Relation.ReflTransGen p.Depends

/-- The id depends on itself, directly or through others. -/
def OnCycle (p : Plan) (id : String) : Prop :=
  Relation.TransGen p.Depends id id

/-- Every dependency of every node is the id of a node. -/
def Closed (p : Plan) : Prop :=
  ∀ item ∈ p.items, ∀ d ∈ item.dependencies, d ∈ p.ids

/-- If levels fall along every dependency of what the root reaches, the root reaches no cycle.  The
ids at level zero are those that need not be looked at. -/
lemma not_onCycle_of_levels {p : Plan} {level : String → ℕ} (hroot : 0 < level p.root)
    (h : ∀ item ∈ p.items, 0 < level item.id → ∀ d ∈ item.dependencies,
      0 < level d ∧ level d < level item.id)
    {id : String} (hid : p.Reaches p.root id) : ¬p.OnCycle id := by
  have hfalls : ∀ {a d}, 0 < level a → p.Depends a d → 0 < level d ∧ level d < level a := by
    rintro a d ha ⟨item, hitem, rfl, hd⟩
    exact h item hitem ha d hd
  have hpos : 0 < level id := by
    induction hid with
    | refl => exact hroot
    | tail _ hd ih => exact (hfalls ih hd).1
  have hbelow : ∀ {d}, Relation.TransGen p.Depends id d → 0 < level d ∧ level d < level id := by
    intro d hd
    induction hd with
    | single hd => exact hfalls hpos hd
    | tail _ hd ih =>
        obtain ⟨hposd, hlt⟩ := hfalls ih.1 hd
        exact ⟨hposd, Nat.lt_trans hlt ih.2⟩
  intro hcycle
  exact Nat.lt_irrefl (level id) (hbelow hcycle).2

/-- What a plan of which a fault is reported is like.  None of the faults that are looked for
earlier is there, and of several faults of one kind it is the first in the order of the plan. -/
def Shows (p : Plan) : Fault → Prop
  | .repeatedId id =>
    ∃ before item after, p.items = before ++ item :: after ∧ item.id = id ∧
      (before.map (·.id)).Nodup ∧ id ∈ before.map (·.id)
  | .unknownDependency node missing =>
    p.ids.Nodup ∧ ∃ before item after, p.items = before ++ item :: after ∧ item.id = node ∧
      (∀ earlier ∈ before, ∀ d ∈ earlier.dependencies, d ∈ p.ids) ∧
      ∃ front back, item.dependencies = front ++ missing :: back ∧
        (∀ d ∈ front, d ∈ p.ids) ∧ missing ∉ p.ids
  | .unknownRoot root => p.ids.Nodup ∧ p.Closed ∧ root = p.root ∧ root ∉ p.ids
  | .cycle id => p.ids.Nodup ∧ p.Closed ∧ p.root ∈ p.ids ∧ p.Reaches p.root id ∧ p.OnCycle id
  | .unbuiltDependency _ => False
  | .unbuiltRoot _ => False

/-! ## Repeated ids -/

lemma firstRepetition?_eq_none_iff {seen : List String} {items : List Item} :
    firstRepetition? seen items = none ↔
      (items.map (·.id)).Nodup ∧ ∀ id ∈ seen, id ∉ items.map (·.id) := by
  induction items generalizing seen with
  | nil => simp [firstRepetition?]
  | cons item items ih =>
      by_cases h : item.id ∈ seen
      · simp only [firstRepetition?, List.contains_iff_mem, h, if_true, List.map_cons]
        constructor
        · intro hnone
          cases hnone
        · rintro ⟨-, hseen⟩
          exact absurd List.mem_cons_self (hseen _ h)
      · rw [firstRepetition?, if_neg (by simpa using h), ih]
        simp only [List.map_cons, List.nodup_cons, List.mem_cons, not_or]
        constructor
        · rintro ⟨hnodup, hfresh⟩
          exact ⟨⟨hfresh _ (.inl rfl), hnodup⟩,
            fun id hid => ⟨fun heq => h (heq ▸ hid), hfresh id (.inr hid)⟩⟩
        · rintro ⟨⟨hhead, hnodup⟩, hseen⟩
          exact ⟨hnodup,
            fun id hid => hid.elim (fun heq => heq ▸ hhead) fun hid => (hseen id hid).2⟩

/-- The id that is found is borne by the first node some earlier id of which is its own. -/
lemma exists_of_firstRepetition?_eq_some {seen : List String} {items : List Item} {id : String}
    (h : firstRepetition? seen items = some id) :
    ∃ before item after, items = before ++ item :: after ∧ item.id = id ∧
      (before.map (·.id)).Nodup ∧ (∀ k ∈ seen, k ∉ before.map (·.id)) ∧
      (id ∈ seen ∨ id ∈ before.map (·.id)) := by
  induction items generalizing seen with
  | nil => cases h
  | cons item items ih =>
      by_cases hseen : item.id ∈ seen
      · rw [firstRepetition?, if_pos (by simpa using hseen)] at h
        obtain rfl := Option.some.inj h
        exact ⟨[], item, items, rfl, rfl, List.nodup_nil, by simp, .inl hseen⟩
      · rw [firstRepetition?, if_neg (by simpa using hseen)] at h
        obtain ⟨before, x, after, rfl, hid, hnodup, hfresh, hmem⟩ := ih h
        obtain ⟨hhead, hfresh⟩ := List.forall_mem_cons.1 hfresh
        refine ⟨item :: before, x, after, rfl, hid, ?_, ?_, ?_⟩
        · exact List.nodup_cons.2 ⟨hhead, hnodup⟩
        · intro k hk hmem
          rcases List.mem_cons.1 hmem with rfl | hmem
          · exact hseen hk
          · exact hfresh k hk hmem
        · rw [List.map_cons, List.mem_cons]
          rcases hmem with hmem | hmem
          · exact (List.mem_cons.1 hmem).elim (fun heq => .inr (.inl heq)) .inl
          · exact .inr (.inr hmem)

lemma repeatedId?_eq_none_iff {p : Plan} : p.repeatedId? = none ↔ p.ids.Nodup := by
  rw [repeatedId?, firstRepetition?_eq_none_iff]
  simp [ids]

/-! ## Known ids -/

lemma isSome_position?_iff {p : Plan} {id : String} : (p.position? id).isSome ↔ id ∈ p.ids := by
  simp [position?, List.isSome_findFinIdx?, ids]

lemma id_of_position?_eq_some {p : Plan} {id : String} {i : Fin p.items.length}
    (h : p.position? id = some i) : (p.items.get i).id = id := by
  simpa using (List.findFinIdx?_eq_some_iff.1 h).1

lemma position?_eq_some_iff {p : Plan} (hp : p.ids.Nodup) {id : String}
    {i : Fin p.items.length} : p.position? id = some i ↔ (p.items.get i).id = id := by
  refine ⟨id_of_position?_eq_some, fun h => ?_⟩
  have hmem : id ∈ p.ids := h ▸ List.mem_map_of_mem (List.getElem_mem i.isLt)
  obtain ⟨k, hk⟩ := Option.isSome_iff_exists.1 (isSome_position?_iff.2 hmem)
  have hlt : k.val < p.ids.length := by simp [ids]
  have hsame : p.ids[k.val]? = p.ids[i.val]? := by
    simpa [ids] using (id_of_position?_eq_some hk).trans h.symm
  rw [hk, Fin.ext ((List.getElem?_inj hlt hp).1 hsame)]

lemma unknownDependency?_eq_none_iff {p : Plan} : p.unknownDependency? = none ↔ p.Closed := by
  simp only [unknownDependency?, List.findSome?_eq_none_iff, Option.map_eq_none_iff,
    List.find?_eq_none, Closed, ← isSome_position?_iff]
  simp [Option.isSome_iff_ne_none]

/-- The dependency that is found is the first unknown one of the first node that has any. -/
lemma exists_of_unknownDependency?_eq_some {p : Plan} {node missing : String}
    (h : p.unknownDependency? = some (node, missing)) :
    ∃ before item after, p.items = before ++ item :: after ∧ item.id = node ∧
      (∀ earlier ∈ before, ∀ d ∈ earlier.dependencies, d ∈ p.ids) ∧
      ∃ front back, item.dependencies = front ++ missing :: back ∧
        (∀ d ∈ front, d ∈ p.ids) ∧ missing ∉ p.ids := by
  obtain ⟨before, item, after, hitems, hitem, hbefore⟩ := List.findSome?_eq_some_iff.1 h
  obtain ⟨d, hd, heq⟩ := Option.map_eq_some_iff.1 hitem
  obtain ⟨rfl, rfl⟩ := Prod.mk.inj heq
  obtain ⟨hmissing, front, back, hdeps, hfront⟩ := List.find?_eq_some_iff_append.1 hd
  refine ⟨before, item, after, hitems, rfl, ?_, front, back, hdeps, ?_, ?_⟩
  · intro earlier hearlier e he
    have hnone := List.find?_eq_none.1 (Option.map_eq_none_iff.1 (hbefore earlier hearlier)) e he
    rw [← isSome_position?_iff]
    simpa [Option.isSome_iff_ne_none] using hnone
  · intro e he
    rw [← isSome_position?_iff]
    simpa [Option.isSome_iff_ne_none] using hfront e he
  · rw [← isSome_position?_iff]
    simpa using hmissing

/-! ## Wiring -/

/-- **The first fault among the ids** is the one that is reported. -/
lemma shows_of_wire_eq_error {p : Plan} {f : Fault} (h : p.wire = .error f) : p.Shows f := by
  unfold wire at h
  split at h
  · rename_i id hid
    cases h
    obtain ⟨before, item, after, hitems, heq, hnodup, -, hmem⟩ :=
      exists_of_firstRepetition?_eq_some hid
    exact ⟨before, item, after, hitems, heq, hnodup, by simpa using hmem⟩
  · rename_i hids
    split at h
    · rename_i node missing hunknown
      cases h
      exact ⟨repeatedId?_eq_none_iff.1 hids, exists_of_unknownDependency?_eq_some hunknown⟩
    · rename_i hknown
      split at h
      · rename_i hroot
        cases h
        refine ⟨repeatedId?_eq_none_iff.1 hids, unknownDependency?_eq_none_iff.1 hknown, rfl, ?_⟩
        rw [← isSome_position?_iff, hroot]
        simp
      · cases h

lemma of_wire_eq_ok {p : Plan} {w : Wiring} (h : p.wire = .ok w) :
    w.plan = p ∧ p.ids.Nodup ∧ p.Closed ∧ (w.item w.root).id = p.root := by
  unfold wire at h
  split at h
  · cases h
  · rename_i hids
    split at h
    · cases h
    · rename_i hknown
      split at h
      · cases h
      · rename_i root hroot
        cases h
        exact ⟨rfl, repeatedId?_eq_none_iff.1 hids, unknownDependency?_eq_none_iff.1 hknown,
          id_of_position?_eq_some hroot⟩

/-- A plan is wired if and only if its ids are told apart and all of them lead to nodes. -/
lemma exists_wire_eq_ok_iff {p : Plan} :
    (∃ w, p.wire = .ok w) ↔ p.ids.Nodup ∧ p.Closed ∧ p.root ∈ p.ids := by
  constructor
  · rintro ⟨w, h⟩
    obtain ⟨rfl, hids, hclosed, hroot⟩ := of_wire_eq_ok h
    exact ⟨hids, hclosed, hroot ▸ List.mem_map_of_mem (List.getElem_mem w.root.isLt)⟩
  · rintro ⟨hids, hclosed, hroot⟩
    unfold wire
    split
    · rename_i id hid
      rw [repeatedId?_eq_none_iff.2 hids] at hid
      cases hid
    · split
      · rename_i node missing hunknown
        rw [unknownDependency?_eq_none_iff.2 hclosed] at hunknown
        cases hunknown
      · split
        · rename_i hnone
          have hsome := isSome_position?_iff.2 hroot
          rw [hnone] at hsome
          cases hsome
        · exact ⟨_, rfl⟩

end Plan

/-! ## Positions -/

namespace Wiring

variable {w : Wiring}

/-- The id of the node at a position. -/
def idAt (w : Wiring) (i : Fin w.size) : String :=
  (w.item i).id

/-- The node at the first position has the one at the second among its dependencies. -/
def Depends (w : Wiring) (i t : Fin w.size) : Prop :=
  t ∈ w.targets i

/-- The node at the second position is the first one, or one on which that depends, directly or
through others. -/
def Reaches (w : Wiring) : Fin w.size → Fin w.size → Prop :=
  Relation.ReflTransGen w.Depends

lemma item_mem (i : Fin w.size) : w.item i ∈ w.plan.items :=
  List.getElem_mem i.isLt

lemma map_idAt_targets (i : Fin w.size) :
    (w.targets i).map w.idAt = (w.item i).dependencies := by
  have hid : ∀ d : { d // d ∈ (w.item i).dependencies },
      w.idAt ((w.plan.position? d.1).get (w.known i d.1 d.2)) = d.1 := fun d =>
    Plan.id_of_position?_eq_some (Option.some_get (w.known i d.1 d.2)).symm
  rw [targets, List.map_map]
  calc (w.item i).dependencies.attach.map _
      = (w.item i).dependencies.attach.map Subtype.val := List.map_congr_left fun d _ => hid d
    _ = (w.item i).dependencies := List.attach_map_subtype_val _

lemma idAt_injective (hw : w.plan.ids.Nodup) {i t : Fin w.size} (h : w.idAt i = w.idAt t) :
    i = t := by
  have hi : w.plan.position? (w.idAt i) = some i := (Plan.position?_eq_some_iff hw).2 rfl
  have ht : w.plan.position? (w.idAt i) = some t := (Plan.position?_eq_some_iff hw).2 h.symm
  exact Option.some.inj (hi.symm.trans ht)

lemma exists_idAt {item : Plan.Item} (h : item ∈ w.plan.items) : ∃ i, w.item i = item := by
  obtain ⟨n, hn, rfl⟩ := List.mem_iff_getElem.1 h
  exact ⟨⟨n, hn⟩, rfl⟩

/-- What a node's id depends on are the ids of the nodes on which it depends. -/
lemma depends_idAt_iff (hw : w.plan.ids.Nodup) {i : Fin w.size} {id : String} :
    w.plan.Depends (w.idAt i) id ↔ ∃ t, w.Depends i t ∧ w.idAt t = id := by
  have hmem : (∃ t, w.Depends i t ∧ w.idAt t = id) ↔ id ∈ (w.item i).dependencies := by
    rw [← map_idAt_targets, List.mem_map]
    rfl
  rw [hmem]
  constructor
  · rintro ⟨item, hitem, hid, hd⟩
    obtain ⟨k, rfl⟩ := exists_idAt hitem
    rwa [idAt_injective hw hid] at hd
  · intro hd
    exact ⟨w.item i, item_mem i, rfl, hd⟩

lemma depends_iff (hw : w.plan.ids.Nodup) {i t : Fin w.size} :
    w.plan.Depends (w.idAt i) (w.idAt t) ↔ w.Depends i t := by
  rw [depends_idAt_iff hw]
  constructor
  · rintro ⟨k, hk, heq⟩
    exact idAt_injective hw heq ▸ hk
  · intro h
    exact ⟨t, h, rfl⟩

lemma reaches_idAt_iff (hw : w.plan.ids.Nodup) {i : Fin w.size} {id : String} :
    w.plan.Reaches (w.idAt i) id ↔ ∃ t, w.Reaches i t ∧ w.idAt t = id := by
  constructor
  · intro h
    induction h with
    | refl => exact ⟨i, .refl, rfl⟩
    | tail _ hstep ih =>
        obtain ⟨t, ht, rfl⟩ := ih
        obtain ⟨k, hk, rfl⟩ := (depends_idAt_iff hw).1 hstep
        exact ⟨k, ht.tail hk, rfl⟩
  · rintro ⟨t, h, rfl⟩
    exact h.lift w.idAt fun _ _ => (depends_iff hw).2

lemma transGen_idAt_iff (hw : w.plan.ids.Nodup) {i t : Fin w.size} :
    Relation.TransGen w.plan.Depends (w.idAt i) (w.idAt t) ↔
      Relation.TransGen w.Depends i t := by
  constructor
  · intro h
    obtain ⟨id, hid, hstep⟩ := Relation.TransGen.tail'_iff.1 h
    obtain ⟨k, hk, rfl⟩ := (reaches_idAt_iff hw).1 hid
    exact Relation.TransGen.tail' hk ((depends_iff hw).1 hstep)
  · intro h
    exact h.lift w.idAt fun _ _ => (depends_iff hw).2

end Wiring

end Provenance
