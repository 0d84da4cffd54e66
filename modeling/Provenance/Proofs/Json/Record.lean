import Provenance.Json.Record
import Provenance.Proofs.Itemwise

/-!
# Records, written and read

What the slots and lists of a record hold when the record has been written by this library: the
fields in their order, and the items one for one.
-/

namespace Provenance.Json.Written

lemma ofItems_eq_map (vs : List Json) : ofItems vs = vs.map ofJson := by
  induction vs with
  | nil => rfl
  | cons v vs ih => rw [ofItems, ih, List.map_cons]

lemma ofFields_eq_map (fs : List (String × Json)) :
    ofFields fs = fs.map fun f => (some f.1, ofJson f.2) := by
  induction fs with
  | nil => rfl
  | cons f fs ih => rw [ofFields, ih, List.map_cons]

/-- No field of an object has a key that the object does not have. -/
lemma filter_ofFields_eq_nil {fs : List (String × Json)} {name : String}
    (h : name ∉ fs.map (·.1)) : (ofFields fs).filter (·.1 == some name) = [] := by
  rw [ofFields_eq_map, List.filter_eq_nil_iff]
  intro e he
  obtain ⟨f, hf, rfl⟩ := List.mem_map.1 he
  have hne : f.1 ≠ name := fun heq => h (heq ▸ List.mem_map_of_mem hf)
  simpa using hne

/-- The slot of a field holds what the object has under its name. -/
lemma slot?_ofFields {fs : List (String × Json)} (h : (fs.map (·.1)).Nodup) (name : String) :
    slot? (ofFields fs) name = some ((fs.lookup name).map ofJson) := by
  induction fs with
  | nil => rfl
  | cons f fs ih =>
      obtain ⟨k, v⟩ := f
      obtain ⟨hnew, hrest⟩ := List.nodup_cons.1 h
      rw [ofFields, slot?]
      by_cases hk : k = name
      · subst hk
        rw [List.filter_cons_of_pos (by simp), filter_ofFields_eq_nil hnew]
        simp
      · have hlookup : ((k, v) :: fs).lookup name = fs.lookup name := by
          have hne : (name == k) = false := by simpa using Ne.symm hk
          simp [List.lookup_cons, hne]
        rw [List.filter_cons_of_neg (by simpa using hk), hlookup]
        exact ih hrest

/-- A field that is named a second time has no slot. -/
lemma slot?_ofFields_eq_none {k : String} {fs : List (String × Json)} (h : k ∈ fs.map (·.1))
    (v : Json) : slot? (ofFields ((k, v) :: fs)) k = none := by
  obtain ⟨field, hmem, hk⟩ := List.mem_map.1 h
  have hagain : (some k, ofJson field.2) ∈ (ofFields fs).filter (·.1 == some k) := by
    refine List.mem_filter.2 ⟨?_, by simp⟩
    rw [ofFields_eq_map, ← hk]
    exact List.mem_map.2 ⟨field, hmem, rfl⟩
  obtain ⟨a, as, has⟩ := List.exists_cons_of_ne_nil (List.ne_nil_of_mem hagain)
  rw [ofFields, slot?, List.filter_cons_of_pos (by simp), has]

/-- **A record is read field by field.**  It may leave some of the declared fields out. -/
lemma slots?_ofJson {fs : List (String × Json)} (h : (fs.map (·.1)).Nodup) (names : List String) :
    (ofJson (.object fs)).slots? names false =
      some (names.map fun name => (fs.lookup name).map ofJson) := by
  have hslots : List.Forall₂ (fun name w => slot? (ofFields fs) name = some w) names
      (names.map fun name => (fs.lookup name).map ofJson) := by
    rw [List.forall₂_map_right_iff, List.forall₂_same]
    exact fun name _ => slot?_ofFields h name
  rw [ofJson, slots?, if_pos]
  · exact Itemwise.mapM_eq_some_of_forall₂ hslots
  · rw [ofFields_eq_map, List.all_map]
    simp

/-- A list is read as it was written if each of its items is. -/
lemma list?_ofJson {α : Type} {f : Written → Option α} {g : α → Json}
    (h : ∀ a, f (ofJson (g a)) = some a) (as : List α) :
    list? f (ofJson (.array (as.map g))) = some as := by
  have hitems : List.Forall₂ (fun w a => f w = some a) ((as.map g).map ofJson) as := by
    rw [List.forall₂_map_left_iff, List.forall₂_map_left_iff, List.forall₂_same]
    exact fun a _ => h a
  rw [ofJson, ofItems_eq_map]
  exact Itemwise.mapM_eq_some_of_forall₂ hitems

end Provenance.Json.Written
