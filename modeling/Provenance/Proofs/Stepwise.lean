import Mathlib.Tactic.Lemma

/-!
# Computations that are made step by step

Loading, checking and parsing end at the first step that fails.  They succeed if each step does, and
giving a failure another name does not change what succeeds.
-/

namespace Provenance.Except

variable {α : Type u} {β : Type v} {ε : Type w} {ε' : Type x}

/-- Two steps succeed if the first one does, and the second one with what the first one gives. -/
lemma bind_eq_ok_iff {r : Except ε α} {f : α → Except ε β} {b : β} :
    r.bind f = .ok b ↔ ∃ a, r = .ok a ∧ f a = .ok b := by
  cases r <;> simp [Except.bind]

/-- What a step gives may be made into something else. -/
lemma map_eq_ok_iff {r : Except ε α} {f : α → β} {b : β} :
    r.map f = .ok b ↔ ∃ a, r = .ok a ∧ f a = b := by
  cases r <;> simp [Except.map]

/-- A failure is not made a success by naming it. -/
lemma mapError_eq_ok_iff {r : Except ε α} {f : ε → ε'} {a : α} :
    r.mapError f = .ok a ↔ r = .ok a := by
  cases r with
  | error e => exact ⟨nofun, nofun⟩
  | ok b =>
      constructor
      · intro h
        cases h
        rfl
      · intro h
        cases h
        rfl

end Provenance.Except
