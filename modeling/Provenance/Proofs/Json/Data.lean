import Mathlib.Data.Nat.Notation
import Mathlib.Tactic.Lemma
import Provenance.Json.Data

/-!
# Data, written and read

A value that is written means its canonical value (`value?_ofJson`), so data, which is canonical,
means itself wherever its depth is allowed (`Data.ofWritten?_ofJson`).
-/

namespace Provenance.Json

lemma canonical_object_of_sorted {fs : List (String × Json)} (hsorted : Entries.Sorted fs)
    (hvalues : ∀ f ∈ fs, f.2.canonical = f.2) : (object fs).canonical = object fs := by
  rw [canonical, canonicalFields_eq_self hvalues, Entries.ofSettings_of_sorted hsorted]

namespace Written

mutual

/-- **A value that is written means its canonical value.** -/
lemma value?_ofJson : ∀ v : Json, (ofJson v).value? = some v.canonical
  | .null => rfl
  | .bool _ => rfl
  | .number _ => rfl
  | .text _ => rfl
  | .array items => by
      rw [ofJson, value?, values?_ofItems items, canonical]
      rfl
  | .object fields => by
      rw [ofJson, value?, entries?_ofFields fields, canonical]
      rfl

lemma values?_ofItems : ∀ vs : List Json, values? (ofItems vs) = some (canonicalItems vs)
  | [] => rfl
  | v :: vs => by
      rw [ofItems, values?, value?_ofJson v, values?_ofItems vs]
      rfl

lemma entries?_ofFields :
    ∀ fs : List (String × Json), entries? (ofFields fs) = some (canonicalFields fs)
  | [] => rfl
  | (k, v) :: fs => by
      rw [ofFields, entries?, value?_ofJson v, entries?_ofFields fs]
      rfl

end

end Written

namespace Data

open Written

lemma ofWritten?_ofJson {d : Data} {enclosing : ℕ}
    (h : (ofJson d.value).depth + enclosing ≤ depthLimit) :
    Data.ofWritten? enclosing (ofJson d.value) = some d := by
  have hof : Data.of d.value = d := by
    obtain ⟨v, hv⟩ := d
    simp only [Data.of, hv]
  have hfits : (ofJson d.value).fitsWithin enclosing = true := by
    simpa [fitsWithin] using h
  rw [ofWritten?, if_pos hfits, value?_ofJson, d.canonical, Option.map_some, hof]

end Data

end Provenance.Json
