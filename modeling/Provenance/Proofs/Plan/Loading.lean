import Provenance.Plan.Load
import Provenance.Proofs.Stepwise

/-!
# Plans that are loaded

A plan is loaded if every step succeeds: its file is read, the text spells a plan, and the plan
describes a job.
-/

namespace Provenance.Plan

variable {h : Host} {path : String} {p : Plan} {j : JobGraph}

lemma ofText_eq_ok_iff {text : String} : ofText text = .ok p ↔ read? text = some p := by
  unfold ofText
  cases read? text <;> simp

/-- **The plans that are loaded**, with their jobs. -/
lemma load_eq_ok_iff : load h path = .ok (p, j) ↔
    (∃ text, h.read path = .ok text ∧ read? text = some p) ∧ p.build = .ok j := by
  have hfile : ofFile h path = .ok p ↔ ∃ text, h.read path = .ok text ∧ read? text = some p := by
    refine Except.bind_eq_ok_iff.trans ?_
    simp only [Except.mapError_eq_ok_iff, ofText_eq_ok_iff]
  rw [← hfile]
  refine Except.bind_eq_ok_iff.trans ?_
  constructor
  · rintro ⟨q, hq, hrest⟩
    obtain ⟨k, hk, hpair⟩ := Except.bind_eq_ok_iff.1 hrest
    cases hpair
    exact ⟨hq, Except.mapError_eq_ok_iff.1 hk⟩
  · rintro ⟨hp, hj⟩
    exact ⟨p, hp, Except.bind_eq_ok_iff.2 ⟨j, Except.mapError_eq_ok_iff.2 hj, rfl⟩⟩

end Provenance.Plan
