import Provenance.Proofs.Plan.Depiction

/-!
# What a graph does not depend on

Two plans with the same root may list their nodes in different orders and may have different nodes
on which the root does not depend.  They describe the same graph all the same
(`Plan.build_eq_of_subset`): their assemblies go through the same tasks, each about the item that
the other one's task is about (`Wiring.Twins`), and a task that is carried out in both leaves the
same graph behind.
-/

namespace Provenance

open Plan

namespace Wiring

variable {w w' : Wiring}

/-- Two positions in different plans hold the same item, and the root of the first plan depends on
it. -/
structure Twins (w w' : Wiring) (i : Fin w.size) (i' : Fin w'.size) : Prop where
  reached : w.Reaches w.root i
  item : w.item i = w'.item i'

/-- The second plan has all items on which the root of the first depends, and the same root. -/
structure Covers (w w' : Wiring) : Prop where
  ids : w.plan.ids.Nodup
  ids' : w'.plan.ids.Nodup
  root : Twins w w' w.root w'.root
  exists_twin : ∀ i, w.Reaches w.root i → ∃ i', Twins w w' i i'

namespace Twins

variable {i k : Fin w.size} {i' k' : Fin w'.size}

lemma idAt_eq (h : Twins w w' i i') : w.idAt i = w'.idAt i' := by
  rw [idAt, h.item]
  rfl

lemma eq_iff (hw : Covers w w') (hi : Twins w w' i i') (hk : Twins w w' k k') :
    i = k ↔ i' = k' := by
  constructor
  · rintro rfl
    exact idAt_injective hw.ids' (hi.idAt_eq.symm.trans hk.idAt_eq)
  · rintro rfl
    exact idAt_injective hw.ids (hi.idAt_eq.trans hk.idAt_eq.symm)

/-- The dependencies of twins are twins, one by one. -/
lemma targets (hw : Covers w w') (h : Twins w w' i i') :
    List.Forall₂ (Twins w w') (w.targets i) (w'.targets i') := by
  have hids : (w.targets i).map w.idAt = (w'.targets i').map w'.idAt := by
    rw [map_idAt_targets, map_idAt_targets, h.item]
  rw [← List.forall₂_eq_eq_eq, List.forall₂_map_left_iff, List.forall₂_map_right_iff] at hids
  have hreached : ∀ t ∈ w.targets i, w.Reaches w.root t := fun t ht => h.reached.tail ht
  refine ((List.forall₂_and_left _ _).2 ⟨hreached, hids⟩).imp ?_
  rintro t t' ⟨ht, hid⟩
  obtain ⟨u, hu⟩ := hw.exists_twin t ht
  exact idAt_injective hw.ids' (hu.idAt_eq.symm.trans hid) ▸ hu

end Twins

end Wiring

/-! ## Two assemblies side by side -/

/-- Tasks of two assemblies that are of the same kind and about twins. -/
inductive Plan.Task.Twins (w w' : Wiring) : Task w.size → Task w'.size → Prop
  | visit {i : Fin w.size} {i' : Fin w'.size} : w.Twins w' i i' → Twins w w' (.visit i) (.visit i')
  | build {i : Fin w.size} {i' : Fin w'.size} : w.Twins w' i i' → Twins w w' (.build i) (.build i')

namespace Assembly

variable {w w' : Wiring} {a : Assembly w} {a' : Assembly w'}

/-- Two assemblies have the same graph and have done the same about twins. -/
structure Alike (a : Assembly w) (a' : Assembly w') : Prop where
  graph : a.graph = a'.graph
  marks : ∀ i i', w.Twins w' i i' → a.marks.get i = a'.marks.get i'

lemma alike_start : Alike (start w) (start w') where
  graph := rfl
  marks i i' _ := (get_start i).trans (get_start i').symm

/-- Marking twins alike keeps two assemblies alike. -/
lemma Alike.set (hw : w.Covers w') (h : Alike a a') {i : Fin w.size} {i' : Fin w'.size}
    (hi : w.Twins w' i i') (g : Graph) (m : Mark) :
    Alike ⟨g, a.marks.set i m i.isLt⟩ ⟨g, a'.marks.set i' m i'.isLt⟩ where
  graph := rfl
  marks k k' hk := by
    simp only [get_set, hi.eq_iff hw hk, h.marks k k' hk]

/-- Twins are built alike, or neither of them can be built. -/
lemma Alike.build? (hw : w.Covers w') (h : Alike a a') {i : Fin w.size} {i' : Fin w'.size}
    (hi : w.Twins w' i i') :
    a.build? i = none ∧ a'.build? i' = none ∨
      ∃ b b', a.build? i = some b ∧ a'.build? i' = some b' ∧ Alike b b' := by
  obtain ⟨g, marks⟩ := a
  obtain ⟨g', marks'⟩ := a'
  obtain rfl : g = g' := h.graph
  have hpositions : (w.targets i).mapM (fun t => marks[t].position?) =
      (w'.targets i').mapM fun t => marks'[t].position? :=
    Itemwise.mapM_congr
      ((hi.targets hw).imp fun t t' ht => congrArg Mark.position? (h.marks t t' ht))
  simp only [Assembly.build?, hpositions, hi.item]
  cases (w'.targets i').mapM fun t => marks'[t].position? with
  | none => exact .inl ⟨rfl, rfl⟩
  | some ds =>
      cases hadd : g.add? ((w'.item i').toNode ds) with
      | none => left; simp [hadd]
      | some g' =>
          right
          refine ⟨⟨g', _⟩, ⟨g', _⟩, ?_, ?_, h.set hw hi g' (.built g.nodes.size)⟩
          · simp [hadd]
          · simp [hadd]

lemma Alike.finish (hw : w.Covers w') (hroot : w.plan.root = w'.plan.root) (h : Alike a a') :
    a.finish = a'.finish := by
  obtain ⟨g, marks⟩ := a
  obtain ⟨g', marks'⟩ := a'
  obtain rfl : g = g' := h.graph
  have hmark : marks[w.root] = marks'[w'.root] := h.marks _ _ hw.root
  simp only [Assembly.finish, hmark, hroot]

/-- **Assemblies that are alike have the same result.** -/
lemma Alike.run (hw : w.Covers w') (hroot : w.plan.root = w'.plan.root) (a : Assembly w)
    (tasks : List (Task w.size)) (a' : Assembly w') (tasks' : List (Task w'.size))
    (h : Alike a a') (htasks : List.Forall₂ (Task.Twins w w') tasks tasks') :
    a.run tasks >>= Assembly.finish = a'.run tasks' >>= Assembly.finish := by
  induction a, tasks using Assembly.run.induct generalizing a' tasks' with
  | case1 a =>
      cases htasks
      rw [Assembly.run, Assembly.run]
      exact h.finish hw hroot
  | case2 a i tasks b hb ih =>
      obtain ⟨_, tasks', htask, hrest, rfl⟩ := List.forall₂_cons_left_iff.1 htasks
      cases htask with
      | build hi =>
          rcases h.build? hw hi with ⟨hnone, -⟩ | ⟨c, c', hc, hc', halike⟩
          · rw [hb] at hnone
            cases hnone
          · obtain rfl : b = c := Option.some.inj (hb.symm.trans hc)
            rw [run_build hb, run_build hc']
            exact ih c' tasks' halike hrest
  | case3 a i tasks hnone =>
      obtain ⟨_, tasks', htask, hrest, rfl⟩ := List.forall₂_cons_left_iff.1 htasks
      cases htask with
      | build hi =>
          rcases h.build? hw hi with ⟨-, hnone'⟩ | ⟨c, -, hc, -⟩
          · rw [run_build_of_none hnone, run_build_of_none hnone', hi.idAt_eq]
            rfl
          · rw [hnone] at hc
            cases hc
  | case4 a i tasks k hk ih =>
      obtain ⟨_, tasks', htask, hrest, rfl⟩ := List.forall₂_cons_left_iff.1 htasks
      cases htask with
      | visit hi =>
          rw [run_visit_of_built hk, run_visit_of_built ((h.marks _ _ hi).symm.trans hk)]
          exact ih a' tasks' h hrest
  | case5 a i tasks hk =>
      obtain ⟨_, tasks', htask, -, rfl⟩ := List.forall₂_cons_left_iff.1 htasks
      cases htask with
      | visit hi =>
          rw [run_visit_of_opened hk, run_visit_of_opened ((h.marks _ _ hi).symm.trans hk),
            hi.idAt_eq]
          rfl
  | case6 a i tasks hk ih =>
      obtain ⟨_, tasks', htask, hrest, rfl⟩ := List.forall₂_cons_left_iff.1 htasks
      cases htask with
      | @visit _ i' hi =>
          rw [run_visit_of_fresh hk, run_visit_of_fresh ((h.marks _ _ hi).symm.trans hk)]
          have hvisits : List.Forall₂ (Task.Twins w w') ((w.targets i).map .visit)
              ((w'.targets i').map .visit) := by
            rw [List.forall₂_map_left_iff, List.forall₂_map_right_iff]
            exact (hi.targets hw).imp fun _ _ => .visit
          refine ih _ _ ?_ (List.rel_append hvisits (.cons (.build hi) hrest))
          exact ⟨h.graph, (h.set hw hi a.graph .opened).marks⟩

end Assembly

namespace Plan

variable {p q : Plan}

/-- **Only what the root depends on matters.**  A plan that has all nodes on which the root of
another plan depends, and the same root, describes the same graph, or names the same node on a
cycle. -/
lemma build_eq_of_subset (hp : p.ids.Nodup ∧ p.Closed ∧ p.root ∈ p.ids)
    (hq : q.ids.Nodup ∧ q.Closed) (hroot : q.root = p.root)
    (hitems : ∀ item ∈ p.items, p.Reaches p.root item.id → item ∈ q.items) :
    q.build = p.build := by
  obtain ⟨w, hw⟩ := exists_wire_eq_ok_iff.2 hp
  have hroot' : q.root ∈ q.ids := by
    obtain ⟨item, hitem, hid⟩ := List.mem_map.1 hp.2.2
    rw [hroot, ← hid]
    exact List.mem_map_of_mem (hitems item hitem (hid ▸ .refl))
  obtain ⟨w', hw'⟩ := exists_wire_eq_ok_iff.2 ⟨hq.1, hq.2, hroot'⟩
  rw [build_of_wire hw, build_of_wire hw']
  obtain ⟨rfl, hids, -, hwroot⟩ := of_wire_eq_ok hw
  obtain ⟨rfl, hids', -, hwroot'⟩ := of_wire_eq_ok hw'
  have htwin : ∀ i, w.Reaches w.root i → ∃ i', w.Twins w' i i' := by
    intro i hi
    have hreach : w.plan.Reaches w.plan.root (w.idAt i) := by
      rw [← hwroot]
      exact (Wiring.reaches_idAt_iff hids).2 ⟨i, hi, rfl⟩
    obtain ⟨i', hi'⟩ := Wiring.exists_idAt (hitems _ (Wiring.item_mem i) hreach)
    exact ⟨i', hi, hi'.symm⟩
  have hcovers : w.Covers w' := by
    obtain ⟨r, hr⟩ := htwin w.root .refl
    have hid : w'.idAt r = w'.idAt w'.root :=
      hr.idAt_eq.symm.trans (hwroot.trans (hroot.symm.trans hwroot'.symm))
    have hsame : r = w'.root := Wiring.idAt_injective hids' hid
    exact ⟨hids, hids', hsame ▸ hr, htwin⟩
  exact (Assembly.Alike.run hcovers hroot.symm _ _ _ _ Assembly.alike_start
    (.cons (.visit hcovers.root) .nil)).symm

/-- **A job is the part of its plan that the root reaches.**  Its nodes are listed as the
depth-first walk through the plan finds their ids, each of them once.  Neither the order in which a
plan lists its nodes nor nodes on which the root does not depend make a difference to the graph. -/
theorem build_faithful (p : Plan) (j : JobGraph) (h : p.build = .ok j) :
    p.Depicts j ∧
      (∀ result, p.Walk [] [p.root] result ↔ result = j.flatten.map j.graph.idAt) ∧
      (j.flatten.map j.graph.idAt).Nodup ∧
      (∀ id, id ∈ j.flatten.map j.graph.idAt ↔ p.Reaches p.root id) ∧
      ∀ q : Plan, q.root = p.root → q.ids.Nodup → q.Closed →
        (∀ item ∈ p.items, p.Reaches p.root item.id → item ∈ q.items) → q.build = .ok j := by
  obtain ⟨hids, hclosed, hroot, -⟩ := exists_build_eq_ok_iff.1 ⟨j, h⟩
  have hdepicts : p.Depicts j := depicts_of_build h
  refine ⟨hdepicts, fun result => ?_, hdepicts.nodup_flatten, hdepicts.mem_flatten_iff hids, ?_⟩
  · constructor
    · intro hwalk
      exact hwalk.unique hids hdepicts.walk_flatten
    · rintro rfl
      exact hdepicts.walk_flatten
  · intro q hq hqids hqclosed hitems
    rw [build_eq_of_subset ⟨hids, hclosed, hroot⟩ ⟨hqids, hqclosed⟩ hq hitems, h]

/-- A plan in which two nodes share a dependency, with a node that is not needed. -/
def diamond : Plan where
  appName := none
  root := "write"
  items := [
    ⟨"read", "scan", [], some ⟨.legacy, .ofSettings [(Configuration.legacyInputKey, "/in")]⟩⟩,
    ⟨"idle", defaultOperation, ["idle"], none⟩,
    ⟨"clean", defaultOperation, ["read"], none⟩,
    ⟨"enrich", defaultOperation, ["read", "read"], none⟩,
    ⟨"write", "save", ["clean", "enrich"], none⟩]

/-- How many steps a node of the diamond is above "read", counted from one. -/
def diamondLevel (id : String) : ℕ :=
  match id with
  | "read" => 1
  | "clean" => 2
  | "enrich" => 2
  | "write" => 3
  | _ => 0

theorem build_faithful_diamond :
    ∃ j, diamond.build = .ok j ∧ diamond.Depicts j ∧
      diamond.Walk [] ["write"] (j.flatten.map j.graph.idAt) ∧
      { diamond with items := diamond.items.reverse }.build = .ok j := by
  have hids : diamond.ids.Nodup := by decide
  have hclosed : diamond.Closed := by simp [Closed, diamond, ids]
  have hlevels : ∀ item ∈ diamond.items, 0 < diamondLevel item.id → ∀ d ∈ item.dependencies,
      0 < diamondLevel d ∧ diamondLevel d < diamondLevel item.id := by
    simp [diamond, diamondLevel]
  obtain ⟨j, hj⟩ := exists_build_eq_ok_iff.2
    ⟨hids, hclosed, by decide, fun _ => not_onCycle_of_levels (by decide) hlevels⟩
  obtain ⟨hdepicts, hwalk, -, -, hbuild⟩ := build_faithful diamond j hj
  refine ⟨j, hj, hdepicts, (hwalk _).2 rfl, hbuild _ rfl (by decide) ?_ ?_⟩
  · simp [Closed, diamond, ids]
  · intro item hitem _
    exact List.mem_reverse.2 hitem

end Plan

end Provenance
