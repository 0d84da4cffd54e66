import Provenance.Plan.Assembly
import Provenance.Proofs.Itemwise
import Provenance.Proofs.Plan.Dependence

/-!
# How a graph is put together

The tasks of an assembly are a stack.  It holds a second task for each node that is open, in which
the node will be built, and above it the tasks of dependencies that are still to be looked at.
`Assembly.Underway` is what holds of an assembly and its tasks at every moment: a node is open if
and only if its second task is on the stack, whatever stands above that task depends on the node,
and by the time the task comes up everything that the node depends on has been built.

Three kinds of task keep it (`Underway.pass`, `Underway.visit`, `Underway.build`).  The fourth, a
visit to a node that is open, ends the assembly, and rightly so: the task stands above the node's
own second task, so the node depends on itself (`Underway.transGen_of_opened`).  Hence an assembly
comes to an end of one of two kinds (`Underway.run`): either its tasks are done, or it names a node
on a cycle.  No node is built too early, and no second visit to a node that has been built is taken
for a cycle.
-/

namespace Provenance

namespace Plan

/-- The node that a task is about. -/
def Task.node : Task n → Fin n
  | visit i => i
  | build i => i

end Plan

open Plan

/-! ## Dependencies in front -/

namespace Wiring

variable {w : Wiring} {done done' : Fin w.size → Prop} {tasks : List (Task w.size)}

/-- When the turn comes to build a node, each of its dependencies is `done` or has been the subject
of a task in front. -/
def Supplied (w : Wiring) : (done : Fin w.size → Prop) → List (Task w.size) → Prop
  | _, [] => True
  | done, t :: tasks =>
    (∀ i, t = .build i → ∀ d ∈ w.targets i, done d) ∧
      w.Supplied (fun d => done d ∨ d = t.node) tasks

lemma Supplied.mono (h : w.Supplied done tasks) (hle : ∀ d, done d → done' d) :
    w.Supplied done' tasks := by
  induction tasks generalizing done done' with
  | nil => trivial
  | cons t tasks ih =>
      obtain ⟨hhead, htail⟩ := h
      exact ⟨fun i hi d hd => hle d (hhead i hi d hd), ih htail fun d => Or.imp_left (hle d)⟩

lemma supplied_map_visit (ds : List (Fin w.size)) :
    w.Supplied done (ds.map .visit ++ tasks) ↔ w.Supplied (fun d => done d ∨ d ∈ ds) tasks := by
  induction ds generalizing done with
  | nil => simp
  | cons d ds ih =>
      have hvisit : ∀ i, Task.visit d = .build i → ∀ e ∈ w.targets i, done e := by
        intro i hi
        cases hi
      simp only [List.map_cons, List.cons_append, Supplied, ih, Task.node, List.mem_cons, or_assoc]
      exact and_iff_right hvisit

end Wiring

namespace Assembly

variable {w : Wiring} {a : Assembly w} {tasks : List (Task w.size)} {i : Fin w.size}

/-! ## Marks -/

/-- The node has been built. -/
def IsBuilt (a : Assembly w) (i : Fin w.size) : Prop :=
  ∃ k, a.marks.get i = .built k

lemma get_start (i : Fin w.size) : (start w).marks.get i = .fresh := by
  show (Vector.replicate w.size Mark.fresh)[i.val] = .fresh
  simp

lemma get_set (marks : Vector Mark n) (i j : Fin n) (m : Mark) :
    (marks.set i m i.isLt).get j = if i = j then m else marks.get j := by
  show (marks.set i m i.isLt)[j.val] = if i = j then m else marks[j.val]
  simp [Vector.getElem_set, Fin.ext_iff]

lemma set_opened_eq_opened_iff {marks : Vector Mark n} {i j : Fin n} :
    (marks.set i .opened i.isLt).get j = .opened ↔ i = j ∨ marks.get j = .opened := by
  rw [get_set]
  split <;> simp [*]

lemma set_opened_eq_built_iff {marks : Vector Mark n} {i j : Fin n} {k : ℕ}
    (h : marks.get i = .fresh) :
    (marks.set i .opened i.isLt).get j = .built k ↔ marks.get j = .built k := by
  rw [get_set]
  split
  · rename_i hij
    simp [← hij, h]
  · rfl

lemma set_built_eq_opened_iff {marks : Vector Mark n} {i j : Fin n} {k : ℕ} :
    (marks.set i (.built k) i.isLt).get j = .opened ↔ i ≠ j ∧ marks.get j = .opened := by
  rw [get_set]
  split <;> simp [*]

lemma set_built_eq_built_iff {marks : Vector Mark n} {i j : Fin n} {k l : ℕ} :
    (marks.set i (.built k) i.isLt).get j = .built l ↔
      i = j ∧ k = l ∨ i ≠ j ∧ marks.get j = .built l := by
  rw [get_set]
  split <;> simp [*]

/-! ## What has been built -/

/-- The graph holds the nodes that have been built, each at the position under which it is known
and in front of all that depend on it. -/
structure Laid (a : Assembly w) : Prop where
  node_of_built : ∀ i k, a.marks.get i = .built k → ∃ ds,
    a.graph.nodes[k]? = some ((w.item i).toNode ds) ∧
      List.Forall₂ (fun t d => a.marks.get t = .built d) (w.targets i) ds
  built_of_lt : ∀ k < a.graph.nodes.size, ∃ i, a.marks.get i = .built k ∧ w.Reaches w.root i

namespace Laid

lemma lt_size (h : a.Laid) {k : ℕ} (hi : a.marks.get i = .built k) : k < a.graph.nodes.size := by
  obtain ⟨ds, hnode, -⟩ := h.node_of_built i k hi
  exact (Array.getElem?_eq_some_iff.1 hnode).1

/-- A node that has been built stands behind its dependencies, which have been built too. -/
lemma exists_lt_of_depends (h : a.Laid) {k : ℕ} (hi : a.marks.get i = .built k) {t : Fin w.size}
    (ht : w.Depends i t) : ∃ d, a.marks.get t = .built d ∧ d < k := by
  obtain ⟨ds, hnode, hds⟩ := h.node_of_built i k hi
  obtain ⟨hk, hnode⟩ := Array.getElem?_eq_some_iff.1 hnode
  obtain ⟨m, hm, rfl⟩ := List.mem_iff_getElem.1 ht
  have hm' : m < ds.length := hds.length_eq ▸ hm
  have hd : a.marks.get ((w.targets i).get ⟨m, hm⟩) = .built (ds.get ⟨m, hm'⟩) := hds.get hm hm'
  refine ⟨ds[m], hd, a.graph.ordered k hk ds[m] ?_⟩
  rw [hnode]
  exact List.getElem_mem hm'

lemma exists_lt_of_transGen (h : a.Laid) {k : ℕ} (hi : a.marks.get i = .built k) {t : Fin w.size}
    (ht : Relation.TransGen w.Depends i t) : ∃ d, a.marks.get t = .built d ∧ d < k := by
  induction ht with
  | single ht => exact h.exists_lt_of_depends hi ht
  | tail _ hstep ih =>
      obtain ⟨d, hd, hlt⟩ := ih
      obtain ⟨e, he, hlt'⟩ := h.exists_lt_of_depends hd hstep
      exact ⟨e, he, Nat.lt_trans hlt' hlt⟩

/-- No node that has been built depends on itself. -/
lemma not_transGen_self (h : a.Laid) (hi : a.IsBuilt i) : ¬Relation.TransGen w.Depends i i := by
  obtain ⟨k, hk⟩ := hi
  intro hcycle
  obtain ⟨d, hd, hlt⟩ := h.exists_lt_of_transGen hk hcycle
  rw [hk] at hd
  exact absurd hlt (by simp [Mark.built.inj hd])

/-- What a node that has been built depends on has been built. -/
lemma isBuilt_of_reaches (h : a.Laid) (hi : a.IsBuilt i) {t : Fin w.size} (ht : w.Reaches i t) :
    a.IsBuilt t := by
  obtain ⟨k, hk⟩ := hi
  rcases Relation.reflTransGen_iff_eq_or_transGen.1 ht with rfl | ht
  · exact ⟨k, hk⟩
  · obtain ⟨d, hd, -⟩ := h.exists_lt_of_transGen hk ht
    exact ⟨d, hd⟩

/-- Opening a node builds nothing. -/
lemma set_opened (h : a.Laid) (hi : a.marks.get i = .fresh) :
    Laid { a with marks := a.marks.set i .opened i.isLt } where
  node_of_built j k hj := by
    obtain ⟨ds, hnode, hds⟩ := h.node_of_built j k ((set_opened_eq_built_iff hi).1 hj)
    exact ⟨ds, hnode, hds.imp fun _ _ => (set_opened_eq_built_iff hi).2⟩
  built_of_lt k hk := by
    obtain ⟨j, hj, hroot⟩ := h.built_of_lt k hk
    exact ⟨j, (set_opened_eq_built_iff hi).2 hj, hroot⟩

/-- A node whose dependencies have been built can be built, at the end of the graph. -/
lemma build (h : a.Laid) (hi : a.marks.get i = .opened) (hroot : w.Reaches w.root i)
    (hdone : ∀ d ∈ w.targets i, a.IsBuilt d) :
    ∃ g : Graph, a.build? i = some ⟨g, a.marks.set i (.built a.graph.nodes.size) i.isLt⟩ ∧
      Laid ⟨g, a.marks.set i (.built a.graph.nodes.size) i.isLt⟩ := by
  let ds := (w.targets i).map fun t => (a.marks.get t).position?.getD 0
  have hds : List.Forall₂ (fun t d => a.marks.get t = .built d) (w.targets i) ds := by
    refine List.forall₂_map_right_iff.2 (List.forall₂_same.2 fun t ht => ?_)
    obtain ⟨d, hd⟩ := hdone t ht
    simp [hd, Mark.position?]
  have hlt : ∀ d ∈ ds, d < a.graph.nodes.size := by
    intro d hd
    obtain ⟨t, ht, rfl⟩ := List.mem_map.1 hd
    obtain ⟨d, hd⟩ := hdone t ht
    simpa [hd, Mark.position?] using h.lt_size hd
  have hpositions : (w.targets i).mapM (fun t => a.marks[t].position?) = some ds := by
    refine Itemwise.mapM_eq_some_of_forall₂ (hds.imp fun t d hd => ?_)
    have hd : a.marks[t] = .built d := hd
    rw [hd]
    rfl
  have hkeep : ∀ (t : Fin w.size) (d : ℕ), a.marks.get t = .built d →
      (a.marks.set i (.built a.graph.nodes.size) i.isLt).get t = .built d := by
    intro t d hd
    refine set_built_eq_built_iff.2 (.inr ⟨?_, hd⟩)
    rintro rfl
    rw [hi] at hd
    cases hd
  refine ⟨a.graph.add ((w.item i).toNode ds) hlt, ?_, ?_, ?_⟩
  · have hadd : a.graph.add? ((w.item i).toNode ds) =
        some (a.graph.add ((w.item i).toNode ds) hlt) := dif_pos hlt
    rw [build?, hpositions, Option.bind_eq_bind, Option.bind_some, hadd]
    rfl
  · intro j k hj
    rcases set_built_eq_built_iff.1 hj with ⟨rfl, rfl⟩ | ⟨-, hj⟩
    · exact ⟨ds, by simp [Graph.add], hds.imp hkeep⟩
    · obtain ⟨es, hnode, hes⟩ := h.node_of_built j k hj
      refine ⟨es, ?_, hes.imp hkeep⟩
      rw [← hnode, Array.getElem?_eq_getElem (h.lt_size hj)]
      exact Array.getElem?_push_lt (h.lt_size hj)
  · intro k hk
    have hk : k < a.graph.nodes.size + 1 := by simpa [Graph.add] using hk
    rcases Nat.lt_or_eq_of_le (Nat.le_of_lt_succ hk) with hk | rfl
    · obtain ⟨j, hj, hj'⟩ := h.built_of_lt k hk
      exact ⟨j, hkeep j k hj, hj'⟩
    · exact ⟨i, set_built_eq_built_iff.2 (.inl ⟨rfl, rfl⟩), hroot⟩

end Laid

/-! ## Single tasks -/

lemma run_build {b : Assembly w} (h : a.build? i = some b) :
    a.run (.build i :: tasks) = b.run tasks := by
  rw [run]
  split
  · rename_i b' hb'
    rw [Option.some.inj (h.symm.trans hb')]
  · rename_i hnone
    rw [h] at hnone
    cases hnone

lemma run_build_of_none (h : a.build? i = none) :
    a.run (.build i :: tasks) = .error (.unbuiltDependency (w.idAt i)) := by
  rw [run]
  split
  · rename_i b hb
    rw [h] at hb
    cases hb
  · rfl

lemma run_visit_of_built {k : ℕ} (h : a.marks.get i = .built k) :
    a.run (.visit i :: tasks) = a.run tasks := by
  have h : a.marks[i] = .built k := h
  rw [run]
  split <;> simp_all

lemma run_visit_of_opened (h : a.marks.get i = .opened) :
    a.run (.visit i :: tasks) = .error (.cycle (w.idAt i)) := by
  have h : a.marks[i] = .opened := h
  rw [run]
  split <;> simp_all [Wiring.idAt]

lemma run_visit_of_fresh (h : a.marks.get i = .fresh) :
    a.run (.visit i :: tasks) = run { a with marks := a.marks.set i .opened i.isLt }
      ((w.targets i).map .visit ++ .build i :: tasks) := by
  have h : a.marks[i] = .fresh := h
  rw [run]
  split <;> simp_all

/-! ## The invariant -/

/-- The invariant of an assembly and the tasks that are still to be carried out. -/
structure Underway (a : Assembly w) (tasks : List (Task w.size)) : Prop where
  opened_iff : ∀ i, a.marks.get i = .opened ↔ .build i ∈ tasks
  once : tasks.Pairwise fun t u => ∀ i, t = .build i → u ≠ .build i
  behind : tasks.Pairwise fun t u => ∀ i, u = .build i → Relation.TransGen w.Depends i t.node
  reached : ∀ t ∈ tasks, w.Reaches w.root t.node
  supplied : w.Supplied a.IsBuilt tasks
  covers_root : a.IsBuilt w.root ∨ ∃ t ∈ tasks, t.node = w.root
  laid : a.Laid

namespace Underway

lemma start (w : Wiring) : Underway (Assembly.start w) [.visit w.root] where
  opened_iff i := by simp [get_start]
  once := List.pairwise_singleton _ _
  behind := List.pairwise_singleton _ _
  reached t ht := by
    obtain rfl := List.mem_singleton.1 ht
    exact .refl
  supplied := by
    refine ⟨fun i hi => ?_, trivial⟩
    cases hi
  covers_root := .inr ⟨.visit w.root, List.mem_singleton_self _, rfl⟩
  laid := {
    node_of_built := fun i k hi => by simp [get_start] at hi
    built_of_lt := fun k hk => by simp [Assembly.start, Graph.empty] at hk }

/-- A visit to a node that has been built changes nothing. -/
lemma pass (h : Underway a (.visit i :: tasks)) (hi : a.IsBuilt i) : Underway a tasks where
  opened_iff j := by simpa using h.opened_iff j
  once := h.once.of_cons
  behind := h.behind.of_cons
  reached t ht := h.reached t (List.mem_cons_of_mem _ ht)
  supplied := h.supplied.2.mono fun d hd => hd.elim id fun heq => heq ▸ hi
  covers_root := by
    rcases h.covers_root with hroot | ⟨t, ht, hroot⟩
    · exact .inl hroot
    · rcases List.mem_cons.1 ht with rfl | ht
      · exact .inl (hroot ▸ hi)
      · exact .inr ⟨t, ht, hroot⟩
  laid := h.laid

/-- A visit to a fresh node opens it: its dependencies are to be visited, and then it is to be
built. -/
lemma visit (h : Underway a (.visit i :: tasks)) (hi : a.marks.get i = .fresh) :
    Underway { a with marks := a.marks.set i .opened i.isLt }
      ((w.targets i).map .visit ++ .build i :: tasks) where
  opened_iff j := by
    have hj : a.marks.get j = .opened ↔ .build j ∈ tasks := by simpa using h.opened_iff j
    rw [set_opened_eq_opened_iff, hj]
    simp [eq_comm]
  once := by
    have hnot : .build i ∉ tasks := fun hmem => by
      have hopened : a.marks.get i = .opened := (h.opened_iff i).2 (List.mem_cons_of_mem _ hmem)
      rw [hi] at hopened
      cases hopened
    refine List.pairwise_append.2 ⟨?_, List.pairwise_cons.2 ⟨?_, h.once.of_cons⟩, ?_⟩
    · refine List.pairwise_map.2 (List.pairwise_of_forall fun _ _ k hk => ?_)
      cases hk
    · rintro t ht k hk rfl
      exact hnot (Task.build.inj hk ▸ ht)
    · intro t ht u _ k hk
      obtain ⟨d, -, rfl⟩ := List.mem_map.1 ht
      cases hk
  behind := by
    obtain ⟨hhead, htail⟩ := List.pairwise_cons.1 h.behind
    refine List.pairwise_append.2 ⟨?_, List.pairwise_cons.2 ⟨hhead, htail⟩, ?_⟩
    · refine List.pairwise_map.2 (List.pairwise_of_forall fun _ _ k hk => ?_)
      cases hk
    · intro t ht u hu k hk
      obtain ⟨d, hd, rfl⟩ := List.mem_map.1 ht
      rcases List.mem_cons.1 hu with rfl | hu
      · cases hk
        exact .single hd
      · exact (hhead u hu k hk).tail hd
  reached t ht := by
    have hroot : w.Reaches w.root i := h.reached (.visit i) List.mem_cons_self
    rcases List.mem_append.1 ht with ht | ht
    · obtain ⟨d, hd, rfl⟩ := List.mem_map.1 ht
      exact hroot.tail hd
    · rcases List.mem_cons.1 ht with rfl | ht
      · exact hroot
      · exact h.reached t (List.mem_cons_of_mem _ ht)
  supplied := by
    have hbuilt : ∀ d, a.IsBuilt d → IsBuilt { a with marks := a.marks.set i .opened i.isLt } d :=
      fun d ⟨k, hk⟩ => ⟨k, (set_opened_eq_built_iff hi).2 hk⟩
    refine (Wiring.supplied_map_visit _).2 ⟨?_, h.supplied.2.mono ?_⟩
    · intro j hj d hd
      cases hj
      exact .inr hd
    · exact fun d hd => hd.imp (fun hd => .inl (hbuilt d hd)) id
  covers_root := by
    rcases h.covers_root with ⟨k, hk⟩ | ⟨t, ht, hroot⟩
    · exact .inl ⟨k, (set_opened_eq_built_iff hi).2 hk⟩
    · rcases List.mem_cons.1 ht with rfl | ht
      · exact .inr ⟨.build i, List.mem_append_right _ List.mem_cons_self, hroot⟩
      · exact .inr ⟨t, List.mem_append_right _ (List.mem_cons_of_mem _ ht), hroot⟩
  laid := h.laid.set_opened hi

/-- **No node is built too early.**  When the turn comes to build a node it can be built. -/
lemma build (h : Underway a (.build i :: tasks)) : ∃ b, a.build? i = some b ∧ Underway b tasks := by
  have hi : a.marks.get i = .opened := (h.opened_iff i).2 List.mem_cons_self
  obtain ⟨g, hbuild, hlaid⟩ :=
    h.laid.build hi (h.reached (.build i) List.mem_cons_self) (h.supplied.1 i rfl)
  have hbuilt : ∀ d, a.IsBuilt d ∨ d = i →
      IsBuilt ⟨g, a.marks.set i (.built a.graph.nodes.size) i.isLt⟩ d := by
    rintro d (⟨k, hk⟩ | rfl)
    · refine ⟨k, set_built_eq_built_iff.2 (.inr ⟨?_, hk⟩)⟩
      rintro rfl
      rw [hi] at hk
      cases hk
    · exact ⟨_, set_built_eq_built_iff.2 (.inl ⟨rfl, rfl⟩)⟩
  refine ⟨_, hbuild, ?_, h.once.of_cons, h.behind.of_cons, ?_, h.supplied.2.mono hbuilt, ?_, hlaid⟩
  · intro j
    have hj : a.marks.get j = .opened ↔ j = i ∨ .build j ∈ tasks := by
      rw [h.opened_iff j, List.mem_cons, Task.build.injEq]
    have hnot : .build i ∉ tasks := fun hmem => (List.pairwise_cons.1 h.once).1 _ hmem i rfl rfl
    rw [set_built_eq_opened_iff, hj]
    constructor
    · rintro ⟨hne, heq | hmem⟩
      · exact absurd heq.symm hne
      · exact hmem
    · intro hmem
      refine ⟨?_, .inr hmem⟩
      rintro rfl
      exact hnot hmem
  · exact fun t ht => h.reached t (List.mem_cons_of_mem _ ht)
  · rcases h.covers_root with hroot | ⟨t, ht, hroot⟩
    · exact .inl (hbuilt _ (.inl hroot))
    · rcases List.mem_cons.1 ht with rfl | ht
      · exact .inl (hbuilt _ (.inr hroot.symm))
      · exact .inr ⟨t, ht, hroot⟩

/-- **No false cycle.**  A node that is open when it is visited depends on itself. -/
lemma transGen_of_opened (h : Underway a (.visit i :: tasks)) (hi : a.marks.get i = .opened) :
    Relation.TransGen w.Depends i i := by
  have hmem : .build i ∈ tasks := by simpa using (h.opened_iff i).1 hi
  exact (List.pairwise_cons.1 h.behind).1 (.build i) hmem i rfl

/-! ## The end of an assembly -/

/-- **An assembly comes to an end.**  Its tasks are done, or it names a node that the final node
reaches and that depends on itself. -/
lemma run (a : Assembly w) (tasks : List (Task w.size)) (h : Underway a tasks) :
    (∃ b, a.run tasks = .ok b ∧ Underway b []) ∨
      ∃ i, a.run tasks = .error (.cycle (w.idAt i)) ∧ w.Reaches w.root i ∧
        Relation.TransGen w.Depends i i := by
  induction a, tasks using Assembly.run.induct with
  | case1 a => exact .inl ⟨a, by rw [Assembly.run], h⟩
  | case2 a i tasks b hb ih =>
      obtain ⟨b', hb', hunderway⟩ := h.build
      obtain rfl : b = b' := Option.some.inj (hb.symm.trans hb')
      rw [run_build hb]
      exact ih hunderway
  | case3 a i tasks hnone =>
      obtain ⟨b, hb, -⟩ := h.build
      rw [hnone] at hb
      cases hb
  | case4 a i tasks k hi ih =>
      rw [run_visit_of_built hi]
      exact ih (h.pass ⟨k, hi⟩)
  | case5 a i tasks hi =>
      right
      exact ⟨i, run_visit_of_opened hi, h.reached (.visit i) List.mem_cons_self,
        h.transGen_of_opened hi⟩
  | case6 a i tasks hi ih =>
      rw [run_visit_of_fresh hi]
      exact ih (h.visit hi)

/-- When the tasks are done the final node has been built. -/
lemma finish (h : Underway a []) :
    ∃ r : a.graph.Vertex, a.finish = .ok ⟨a.graph, r⟩ ∧ a.marks.get w.root = .built r := by
  obtain ⟨k, hk⟩ : a.IsBuilt w.root := by simpa using h.covers_root
  have hlt : k < a.graph.nodes.size := h.laid.lt_size hk
  refine ⟨⟨k, hlt⟩, ?_, hk⟩
  have hk : a.marks[w.root] = .built k := hk
  simp only [Assembly.finish, hk, Mark.position?, dif_pos hlt]

end Underway

end Assembly

end Provenance
