import Provenance.Proofs.Plan.Underway

/-!
# Which plans describe a graph

`Plan.build` looks at the ids of a plan first and then follows its dependencies.  This module says
what it makes of a plan in terms of the plan alone: it builds a graph if and only if no id is given
twice, every dependency and the root are ids of nodes, and nothing on which the root depends lies on
a cycle; and otherwise it reports the first of these that fails (`build_verdict`).
-/

namespace Provenance.Plan

variable {p : Plan}

/-- The assembly of a plan whose ids are in order. -/
lemma build_of_wire {w : Wiring} (h : p.wire = .ok w) :
    p.build = (Assembly.start w).run [.visit w.root] >>= Assembly.finish := by
  rw [build, h]
  rfl

/-- A wired plan is built, by an assembly that is done, or a node is named that depends on
itself. -/
lemma build_of_wire_cases {w : Wiring} (h : p.wire = .ok w) :
    (∃ (a : Assembly w) (r : a.graph.Vertex), p.build = .ok ⟨a.graph, r⟩ ∧ a.Underway [] ∧
        a.marks.get w.root = .built r) ∨
      ∃ i, p.build = .error (.cycle (w.idAt i)) ∧ w.Reaches w.root i ∧
        Relation.TransGen w.Depends i i := by
  rw [build_of_wire h]
  rcases Assembly.Underway.run _ _ (.start w) with ⟨a, ha, hdone⟩ | ⟨i, hi, hreach, hcycle⟩
  · obtain ⟨r, hr, hroot⟩ := hdone.finish
    left
    refine ⟨a, r, ?_, hdone, hroot⟩
    rw [ha]
    exact hr
  · right
    refine ⟨i, ?_, hreach, hcycle⟩
    rw [hi]
    rfl

/-- Nothing that a finished assembly has built lies on a cycle. -/
lemma not_onCycle_of_underway {w : Wiring} {a : Assembly w} (hids : w.plan.ids.Nodup)
    (h : a.Underway []) {id : String} (hid : w.plan.Reaches (w.idAt w.root) id) :
    ¬w.plan.OnCycle id := by
  obtain ⟨i, hi, rfl⟩ := (Wiring.reaches_idAt_iff hids).1 hid
  have hroot : a.IsBuilt w.root := by simpa using h.covers_root
  rw [OnCycle, Wiring.transGen_idAt_iff hids]
  exact h.laid.not_transGen_self (h.laid.isBuilt_of_reaches hroot hi)

/-- A node that depends on itself, as a wiring shows it, is one in the plan. -/
lemma shows_cycle {w : Wiring} {i : Fin w.size} (h : p.wire = .ok w) (hreach : w.Reaches w.root i)
    (hcycle : Relation.TransGen w.Depends i i) : p.Shows (.cycle (w.idAt i)) := by
  have hmem : p.root ∈ p.ids := (exists_wire_eq_ok_iff.1 ⟨w, h⟩).2.2
  obtain ⟨rfl, hids, hclosed, hroot⟩ := of_wire_eq_ok h
  refine ⟨hids, hclosed, hmem, ?_, (Wiring.transGen_idAt_iff hids).2 hcycle⟩
  rw [← hroot]
  exact (Wiring.reaches_idAt_iff hids).2 ⟨i, hreach, rfl⟩

/-- A plan that is not built shows the fault that is reported of it. -/
lemma shows_of_build_eq_error {f : Fault} (h : p.build = .error f) : p.Shows f := by
  cases hw : p.wire with
  | error g =>
      rw [build, hw] at h
      cases h
      exact shows_of_wire_eq_error hw
  | ok w =>
      rcases build_of_wire_cases hw with ⟨a, r, hr, -, -⟩ | ⟨i, hi, hreach, hcycle⟩
      · rw [hr] at h
        cases h
      · rw [hi] at h
        cases h
        exact shows_cycle hw hreach hcycle

/-- A plan is built if and only if its ids are in order and its root leads to no cycle. -/
lemma exists_build_eq_ok_iff : (∃ j, p.build = .ok j) ↔
    p.ids.Nodup ∧ p.Closed ∧ p.root ∈ p.ids ∧ ∀ id, p.Reaches p.root id → ¬p.OnCycle id := by
  cases hw : p.wire with
  | error f =>
      have hno : ¬(p.ids.Nodup ∧ p.Closed ∧ p.root ∈ p.ids) := by
        rw [← exists_wire_eq_ok_iff, hw]
        simp
      constructor
      · rintro ⟨j, hj⟩
        rw [build, hw] at hj
        cases hj
      · rintro ⟨hids, hclosed, hroot, -⟩
        exact absurd ⟨hids, hclosed, hroot⟩ hno
  | ok w =>
      have hmem : p.root ∈ p.ids := (exists_wire_eq_ok_iff.1 ⟨w, hw⟩).2.2
      rcases build_of_wire_cases hw with ⟨a, r, hr, hdone, -⟩ | ⟨i, hi, hreach, hcycle⟩
      · obtain ⟨rfl, hids, hclosed, hroot⟩ := of_wire_eq_ok hw
        refine ⟨fun _ => ⟨hids, hclosed, hmem, fun id hid => ?_⟩, fun _ => ⟨_, hr⟩⟩
        rw [← hroot] at hid
        exact not_onCycle_of_underway hids hdone hid
      · obtain ⟨-, -, -, hroot, honCycle⟩ := shows_cycle hw hreach hcycle
        constructor
        · rintro ⟨j, hj⟩
          rw [hi] at hj
          cases hj
        · rintro ⟨-, -, -, hacyclic⟩
          exact absurd honCycle (hacyclic _ hroot)

/-- **When a plan describes a graph, and what is wrong with it otherwise.**  A cycle that the root
does not reach is no fault, and a fault is reported as a cycle only if its node does depend on
itself: not because two nodes share a dependency or a node lists one twice. -/
theorem build_verdict (p : Plan) :
    ((∃ j, p.build = .ok j) ↔
      p.ids.Nodup ∧ p.Closed ∧ p.root ∈ p.ids ∧ ∀ id, p.Reaches p.root id → ¬p.OnCycle id) ∧
    ∀ f, p.build = .error f → p.Shows f :=
  ⟨exists_build_eq_ok_iff, fun _ => shows_of_build_eq_error⟩

end Provenance.Plan
