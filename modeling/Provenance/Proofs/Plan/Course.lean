import Provenance.Proofs.Plan.Verdict

/-!
# The course of an assembly

An assembly looks nodes up by their ids: the node of each task, and the nodes that a node depends on
when it is to be built.  This module follows an assembly from its first task to its last and shows
that what is looked up is always there.

A *moment* of an assembly is what has been put together and what is still to be done after some of
its tasks (`Wiring.Moment`).  Every task leads from one moment to the next, or it ends the assembly
because a node depends on itself (`Moment.exists_last`); from each moment on the assembly comes to
what it comes to from the start (`Moment.run_eq`).  Since a node is fresh until it is opened and
never again, no node is opened twice (`Moment.nodup_opened`).
-/

namespace Provenance

open Plan

/-- Where in the graph the node with an id has been built. -/
def Assembly.builtAt? {w : Wiring} (a : Assembly w) (id : String) : Option ℕ :=
  (w.plan.position? id).bind fun i => (a.marks.get i).position?

/-- Building a node marks it as built, at the end of the graph. -/
lemma Assembly.marks_of_build? {w : Wiring} {a b : Assembly w} {i : Fin w.size}
    (h : a.build? i = some b) :
    b.marks = a.marks.set i (.built a.graph.nodes.size) i.isLt := by
  simp only [build?, Option.bind_eq_bind, Option.bind_eq_some_iff, Option.some.injEq] at h
  obtain ⟨_, _, _, _, rfl⟩ := h
  rfl

namespace Wiring

/-- The moments of an assembly: what has been put together when the tasks are still to be carried
out, and which nodes have been opened until then, the latest first. -/
inductive Moment (w : Wiring) : (opened : List (Fin w.size)) → Assembly w →
    (tasks : List (Task w.size)) → Prop
  /-- In the beginning the final node is to be visited. -/
  | start : Moment w [] (.start w) [.visit w.root]
  /-- A node that has been built is passed over. -/
  | pass {opened : List (Fin w.size)} {a : Assembly w} {i : Fin w.size}
      {tasks : List (Task w.size)} :
      Moment w opened a (.visit i :: tasks) → a.IsBuilt i → Moment w opened a tasks
  /-- A fresh node is opened. -/
  | visit {opened : List (Fin w.size)} {a : Assembly w} {i : Fin w.size}
      {tasks : List (Task w.size)} :
      Moment w opened a (.visit i :: tasks) → a.marks.get i = .fresh →
      Moment w (i :: opened) { a with marks := a.marks.set i .opened i.isLt }
        ((w.targets i).map .visit ++ .build i :: tasks)
  /-- A node is built. -/
  | build {opened : List (Fin w.size)} {a b : Assembly w} {i : Fin w.size}
      {tasks : List (Task w.size)} :
      Moment w opened a (.build i :: tasks) → a.build? i = some b → Moment w opened b tasks

namespace Moment

variable {w : Wiring} {opened : List (Fin w.size)} {a : Assembly w} {tasks : List (Task w.size)}

lemma underway (h : w.Moment opened a tasks) : a.Underway tasks := by
  induction h with
  | start => exact .start w
  | pass _ hi ih => exact ih.pass hi
  | visit _ hi ih => exact ih.visit hi
  | build _ hb ih =>
      obtain ⟨b', hb', hunderway⟩ := ih.build
      rw [hb] at hb'
      exact Option.some.inj hb' ▸ hunderway

/-- From every moment on an assembly comes to the same. -/
lemma run_eq (h : w.Moment opened a tasks) :
    a.run tasks = (Assembly.start w).run [.visit w.root] := by
  induction h with
  | start => rfl
  | pass _ hi ih =>
      obtain ⟨k, hk⟩ := hi
      rw [← ih, Assembly.run_visit_of_built hk]
  | visit _ hi ih => rw [← ih, Assembly.run_visit_of_fresh hi]
  | build _ hb ih => rw [← ih, Assembly.run_build hb]

/-! ## Opening nodes -/

/-- The nodes that are not fresh any more are those that have been opened. -/
lemma mem_opened_iff (h : w.Moment opened a tasks) {j : Fin w.size} :
    j ∈ opened ↔ a.marks.get j ≠ .fresh := by
  induction h with
  | start => simp [Assembly.get_start]
  | pass _ _ ih => exact ih
  | @visit opened a i tasks _ hi ih =>
      rw [List.mem_cons, ih, Assembly.get_set]
      by_cases hij : i = j
      · simp [hij]
      · simp [hij, Ne.symm hij]
  | @build opened a b i tasks hmoment hb ih =>
      have hi : a.marks.get i = .opened := (hmoment.underway.opened_iff i).2 List.mem_cons_self
      rw [ih, Assembly.marks_of_build? hb, Assembly.get_set]
      by_cases hij : i = j
      · simp [← hij, hi]
      · simp [hij]

/-- **No node is opened twice.** -/
lemma nodup_opened (h : w.Moment opened a tasks) : opened.Nodup := by
  induction h with
  | start => exact List.nodup_nil
  | pass _ _ ih => exact ih
  | visit hmoment hi ih =>
      refine List.nodup_cons.2 ⟨?_, ih⟩
      intro hmem
      exact hmoment.mem_opened_iff.1 hmem hi
  | build _ _ ih => exact ih

/-! ## The last moment -/

/-- The assembly has come to its end: there are no tasks left, or the next one visits a node that is
open, which is the error that is reported. -/
inductive IsLast (w : Wiring) : Assembly w → List (Task w.size) → Prop
  | done {a : Assembly w} : (Assembly.start w).run [.visit w.root] = .ok a → IsLast w a []
  | cycle {a : Assembly w} {i : Fin w.size} {tasks : List (Task w.size)} :
      a.marks.get i = .opened →
      (Assembly.start w).run [.visit w.root] = .error (.cycle (w.idAt i)) →
      IsLast w a (.visit i :: tasks)

/-- **Every moment leads to a last one.** -/
lemma exists_last (a : Assembly w) (tasks : List (Task w.size)) {opened : List (Fin w.size)}
    (h : w.Moment opened a tasks) : ∃ opened' b rest, w.Moment opened' b rest ∧ IsLast w b rest := by
  induction a, tasks using Assembly.run.induct generalizing opened with
  | case1 a =>
      have hrun : a.run [] = .ok a := by rw [Assembly.run]
      exact ⟨opened, a, [], h, .done (h.run_eq.symm.trans hrun)⟩
  | case2 a i tasks b hb ih => exact ih (h.build hb)
  | case3 a i tasks hnone =>
      obtain ⟨b, hb, -⟩ := h.underway.build
      rw [hnone] at hb
      cases hb
  | case4 a i tasks k hi ih => exact ih (h.pass ⟨k, hi⟩)
  | case5 a i tasks hi =>
      have hrun : a.run (.visit i :: tasks) = .error (.cycle (w.idAt i)) :=
        Assembly.run_visit_of_opened hi
      exact ⟨opened, a, .visit i :: tasks, h, .cycle hi (h.run_eq.symm.trans hrun)⟩
  | case6 a i tasks hi ih => exact ih (h.visit hi)

end Moment

/-! ## Looking nodes up -/

/-- What an assembly looks up at a moment is there. -/
structure LooksUp (w : Wiring) (opened : List (Fin w.size)) (a : Assembly w)
    (tasks : List (Task w.size)) : Prop where
  /-- The id of a task's node is known, and leads to this node. -/
  known : ∀ t ∈ tasks, w.plan.position? (w.idAt t.node) = some t.node
  /-- The node that is to be built next is open, so it has not been built before; everything on
  which it depends has been built, so it can be built. -/
  supplied : ∀ i rest, tasks = .build i :: rest → a.marks.get i = .opened ∧
    (∀ d ∈ (w.item i).dependencies, ∃ k, a.builtAt? d = some k) ∧ ∃ b, a.build? i = some b
  /-- No id has been opened twice. -/
  once : (opened.map w.idAt).Nodup
  /-- When no task is left the final node has been built, and the job is finished. -/
  finished : tasks = [] → ∃ r : a.graph.Vertex, a.builtAt? w.plan.root = some r.val ∧
    a.finish = .ok ⟨a.graph, r⟩

variable {w : Wiring} {opened : List (Fin w.size)} {a : Assembly w} {tasks : List (Task w.size)}

lemma position?_idAt (hids : w.plan.ids.Nodup) (i : Fin w.size) :
    w.plan.position? (w.idAt i) = some i :=
  (Plan.position?_eq_some_iff hids).2 rfl

lemma builtAt?_idAt (hids : w.plan.ids.Nodup) {i : Fin w.size} {k : ℕ}
    (h : a.marks.get i = .built k) : a.builtAt? (w.idAt i) = some k := by
  rw [Assembly.builtAt?, position?_idAt hids, Option.bind_some, h]
  rfl

/-- **At no moment is anything missing.** -/
lemma Moment.looksUp (h : w.Moment opened a tasks) (hids : w.plan.ids.Nodup)
    (hroot : w.idAt w.root = w.plan.root) : w.LooksUp opened a tasks where
  known t _ := position?_idAt hids t.node
  supplied i rest htasks := by
    subst htasks
    refine ⟨(h.underway.opened_iff i).2 List.mem_cons_self, fun d hd => ?_, ?_⟩
    · rw [← map_idAt_targets] at hd
      obtain ⟨t, ht, rfl⟩ := List.mem_map.1 hd
      obtain ⟨k, hk⟩ := h.underway.supplied.1 i rfl t ht
      exact ⟨k, builtAt?_idAt hids hk⟩
    · obtain ⟨b, hb, -⟩ := h.underway.build
      exact ⟨b, hb⟩
  once := h.nodup_opened.map fun _ _ => idAt_injective hids
  finished htasks := by
    subst htasks
    obtain ⟨r, hfinish, hr⟩ := h.underway.finish
    refine ⟨r, ?_, hfinish⟩
    rw [← hroot]
    exact builtAt?_idAt hids hr

end Wiring

namespace Plan

/-- **Nothing that is looked up is missing when a graph is put together.**  At every moment of an
assembly the ids of the tasks are known, a node is built when everything on which it depends has
been built, and no node is opened a second time.  Every assembly comes to a last moment, in which
either a cycle is reported or the final node has been built.  So neither of the faults that speak of
a node that has not been built is ever reported, whatever the plan. -/
theorem build_looksUp (p : Plan) :
    (∀ w, p.wire = .ok w →
      (∀ opened a tasks, w.Moment opened a tasks →
        w.LooksUp opened a tasks ∧ a.run tasks >>= Assembly.finish = p.build) ∧
      ∃ opened a tasks, w.Moment opened a tasks ∧ Wiring.Moment.IsLast w a tasks) ∧
    (∀ node, p.build ≠ .error (.unbuiltDependency node)) ∧
    ∀ root, p.build ≠ .error (.unbuiltRoot root) := by
  refine ⟨fun w hw => ⟨fun opened a tasks h => ⟨?_, ?_⟩, ?_⟩, fun node => ?_, fun root => ?_⟩
  · obtain ⟨rfl, hids, -, hroot⟩ := of_wire_eq_ok hw
    exact h.looksUp hids hroot
  · rw [h.run_eq, build_of_wire hw]
  · exact Wiring.Moment.exists_last _ _ .start
  · exact shows_of_build_eq_error
  · exact shows_of_build_eq_error

end Plan

end Provenance
