import Provenance.Json.Written

/-!
# JSON as data

A JSON value that is data of its own, such as an extra run facet, is canonical: it is what is left
of a value when every object in it has become a dictionary.  `Json.Data` is the type of these
values.  Making a value canonical a second time changes nothing, so every value has a canonical one
and every canonical value is one of those.
-/

namespace Provenance.Json

mutual

/-- A canonical value is its own canonical value. -/
theorem canonical_canonical : ∀ v : Json, v.canonical.canonical = v.canonical
  | array items => by rw [canonical, canonical, canonicalItems_canonicalItems items]
  | object fields => by
    rw [canonical, canonical,
      canonicalFields_eq_self fun e he => canonical_of_mem fields (Entries.mem_ofSettings he),
      Entries.ofSettings_of_sorted (Entries.sorted_ofSettings _)]
  | null => rfl
  | bool _ => rfl
  | number _ => rfl
  | text _ => rfl

theorem canonicalItems_canonicalItems :
    ∀ vs : List Json, canonicalItems (canonicalItems vs) = canonicalItems vs
  | [] => rfl
  | v :: vs => by
    rw [canonicalItems, canonicalItems, canonical_canonical v, canonicalItems_canonicalItems vs]

theorem canonical_of_mem :
    ∀ (fs : List (String × Json)) {e : String × Json}, e ∈ canonicalFields fs →
      e.2.canonical = e.2
  | (k, v) :: fs, e, h => by
    rw [canonicalFields] at h
    rcases List.mem_cons.1 h with rfl | h
    · exact canonical_canonical v
    · exact canonical_of_mem fs h

theorem canonicalFields_eq_self :
    ∀ {fs : List (String × Json)}, (∀ e ∈ fs, e.2.canonical = e.2) → canonicalFields fs = fs
  | [], _ => rfl
  | (k, v) :: fs, h => by
    rw [canonicalFields, h (k, v) List.mem_cons_self,
      canonicalFields_eq_self fun e he => h e (List.mem_cons_of_mem _ he)]

end

/-- A canonical JSON value. -/
structure Data where
  value : Json
  canonical : value.canonical = value

namespace Data

/-- The data that a value stands for. -/
def of (v : Json) : Data :=
  ⟨v.canonical, v.canonical_canonical⟩

instance : Inhabited Data := ⟨of .null⟩

/-- The data that is written, inside `enclosing` arrays and objects. -/
def ofWritten? (enclosing : Nat) (w : Written) : Option Data :=
  if w.fitsWithin enclosing then w.value?.map of else none

end Data

end Provenance.Json
