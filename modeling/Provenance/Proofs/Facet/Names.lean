import Provenance.Proofs.Facet.Reader
import Provenance.Proofs.Json.Reader

/-!
# The facets of a run by name

The facets beside the parent stand next to it in one object, each under its own name.  Nothing
keeps one of them from being called like the parent.  If none is, the names tell the facets apart
(`RunFacets.nodup_fields_iff`) and they are read as they were written; if one is, the object names
the parent twice and is refused (`RunFacets.read?_render`).

The error facet is one of them, under a name that is not the parent's.  Attaching it replaces
whatever is kept under that name and touches nothing else.
-/

namespace Provenance

open Json Json.Written

namespace RunFacets

variable {f : RunFacets} {enclosing : ℕ}

/-! ## Names -/

lemma toJson_eq (f : RunFacets) : f.toJson = .object f.fields := rfl

lemma map_fst_fields (f : RunFacets) : f.fields.map (·.1) = "parent" :: f.additional.keys := by
  rw [fields, List.map_cons, List.map_map]
  rfl

/-- The names of the facets are different if and only if none of them is called like the parent. -/
lemma nodup_fields_iff (f : RunFacets) :
    (f.fields.map (·.1)).Nodup ↔ f.additional.contains "parent" = false := by
  have hkeys : f.additional.keys.Nodup := f.additional.sorted.nodup_keys
  rw [map_fst_fields, List.nodup_cons, ← Dictionary.contains_iff, Bool.not_eq_true,
    and_iff_left hkeys]

lemma lookup_fields_parent (f : RunFacets) :
    f.fields.lookup "parent" = some f.parent.toJson := by
  simp [fields]

/-- A facet stands under its own name. -/
lemma lookup_fields {name : String} (h : name ≠ "parent") (f : RunFacets) :
    f.fields.lookup name = (f.additional.get? name).map Data.value := by
  have hentries : ∀ es : List (String × Data),
      (es.map fun e => (e.1, e.2.value)).lookup name = (es.lookup name).map Data.value := by
    intro es
    induction es with
    | nil => rfl
    | cons e es ih =>
        rw [List.map_cons, List.lookup_cons, List.lookup_cons, ih]
        split <;> rfl
  have hne : (name == "parent") = false := by simpa using h
  rw [fields, List.lookup_cons, hne, hentries, Entries.lookup_eq_find?]
  rfl

/-! ## Facets as text -/

/-- An object that names the parent twice is refused. -/
lemma ofWritten?_toJson_of_contains (h : f.additional.contains "parent" = true) :
    RunFacets.ofWritten? enclosing (ofJson f.toJson) = none := by
  have hagain : "parent" ∈ (f.additional.entries.map fun e => (e.1, e.2.value)).map (·.1) := by
    rw [List.map_map]
    exact (Dictionary.contains_iff _ _).1 h
  have hslot : slot? (ofFields f.fields) "parent" = none := slot?_ofFields_eq_none hagain _
  rw [toJson_eq, ofJson, RunFacets.ofWritten?]
  simp only [hslot]

/-- The facets of a run are read from their text if and only if they can be told apart. -/
lemma read?_render (hintegral : ∀ e ∈ f.additional.entries, e.2.value.IsIntegral)
    (hdepth : ∀ e ∈ f.additional.entries,
      (ofJson e.2.value).depth + (enclosing + 1) ≤ depthLimit) :
    (Written.read? f.toJson.render).bind (RunFacets.ofWritten? enclosing) =
      if f.additional.contains "parent" then none else some f := by
  rw [Json.read?_render (isIntegral_toJson hintegral), Option.bind_some]
  by_cases h : f.additional.contains "parent" = true
  · rw [if_pos h, ofWritten?_toJson_of_contains h]
  · have hne : ∀ e ∈ f.additional.entries, e.1 ≠ "parent" := by
      intro e he heq
      exact h ((Dictionary.contains_iff _ _).2 (List.mem_map.2 ⟨e, he, heq⟩))
    have hportable : f.IsPortable enclosing := ⟨hne, hintegral, hdepth⟩
    rw [if_neg h, hportable.ofWritten?_toJson]

/-! ## The error facet among the others -/

lemma get?_withError {name : String} (h : name ≠ ErrorFacet.key) (f : RunFacets)
    (e : ErrorFacet) : (f.withError e).additional.get? name = f.additional.get? name := by
  rw [withError, attach, Dictionary.get?_insert, if_neg (Ne.symm h)]

/-- **The facets of a run are told apart by their names** if and only if none of the others is
called like the parent.  Each stands under its own name, and attaching an error facet changes
nothing about that.  They are read as they were written, if their numbers are integers and they do
not nest too deeply; but if one is called like the parent, the object names the parent twice and is
refused. -/
theorem toJson_distinct_iff (f : RunFacets) :
    f.toJson = .object f.fields ∧
    ((f.fields.map (·.1)).Nodup ↔ f.additional.contains "parent" = false) ∧
    f.fields.lookup "parent" = some f.parent.toJson ∧
    (∀ name, name ≠ "parent" →
      f.fields.lookup name = (f.additional.get? name).map Data.value) ∧
    (∀ e : ErrorFacet,
      (((f.withError e).fields.map (·.1)).Nodup ↔ (f.fields.map (·.1)).Nodup) ∧
      (f.withError e).fields.lookup "spark.exception" = some e.toJson) ∧
    ∀ enclosing : ℕ, (∀ x ∈ f.additional.entries, x.2.value.IsIntegral) →
      (∀ x ∈ f.additional.entries, (ofJson x.2.value).depth + (enclosing + 1) ≤ depthLimit) →
      (Written.read? f.toJson.render).bind (RunFacets.ofWritten? enclosing) =
        (if f.additional.contains "parent" then none else some f) ∧
      ∀ e : ErrorFacet, enclosing + 4 ≤ depthLimit →
        (Written.read? (f.withError e).toJson.render).bind (RunFacets.ofWritten? enclosing) =
          if f.additional.contains "parent" then none else some (f.withError e) := by
  have hcontains : ∀ e : ErrorFacet, (f.withError e).additional.contains "parent" =
      f.additional.contains "parent" :=
    fun e => congrArg Option.isSome (get?_withError (by decide) f e)
  refine ⟨rfl, f.nodup_fields_iff, f.lookup_fields_parent, fun name hname => lookup_fields hname f,
    fun e => ⟨?_, ?_⟩, fun enclosing hintegral hdepth =>
      ⟨read?_render hintegral hdepth, fun e henclosing => ?_⟩⟩
  · rw [nodup_fields_iff, nodup_fields_iff, hcontains]
  · have hfound : (f.withError e).additional.get? "spark.exception" = some (.of e.toJson) :=
      Dictionary.get?_insert_self _ _ _
    rw [lookup_fields (by decide), hfound, Option.map_some, e.value_of_toJson]
  · have hle : (ofJson e.toJson).depth ≤ 3 := e.depth_toJson_le
    have hintegral' : ∀ x ∈ (f.withError e).additional.entries, x.2.value.IsIntegral :=
      forall_withError (fun _ v => v.IsIntegral) hintegral e.isIntegral_toJson
    have hdepth' : ∀ x ∈ (f.withError e).additional.entries,
        (ofJson x.2.value).depth + (enclosing + 1) ≤ depthLimit :=
      forall_withError (fun _ v => (ofJson v).depth + (enclosing + 1) ≤ depthLimit) hdepth
        (by omega)
    rw [read?_render hintegral' hdepth', hcontains]

/-- Facets of which none is called like the parent, though one nearly is. -/
def unlike : RunFacets :=
  (RunFacets.of (.of "run" ⟨"etl", "nightly"⟩)).attach "Parent" (.of (.text "clash"))

theorem toJson_distinct_iff_unlike :
    (unlike.fields.map (·.1)).Nodup ∧
      unlike.fields.lookup "Parent" = some (.text "clash") ∧
      (Written.read? unlike.toJson.render).bind (RunFacets.ofWritten? 0) = some unlike := by
  have hentries : unlike.additional.entries = [("Parent", .of (.text "clash"))] := rfl
  have hcontains : unlike.additional.contains "parent" = false := by decide
  obtain ⟨-, hnodup, -, hlookup, -, hreads⟩ := toJson_distinct_iff unlike
  obtain ⟨hread, -⟩ := hreads 0
    (by simp [hentries, Data.of, Json.canonical, Json.IsIntegral])
    (by simp [hentries, Data.of, Json.canonical, ofJson, Written.depth, depthLimit])
  refine ⟨hnodup.2 hcontains, ?_, ?_⟩
  · rw [hlookup "Parent" (by decide)]
    rfl
  · rw [hread, hcontains]
    rfl

/-- Facets of which one is called like the parent. -/
def clashing : RunFacets :=
  (RunFacets.of (.of "run" ⟨"etl", "nightly"⟩)).attach "parent" (.of (.text "clash"))

/-- Names that clash: the object names the parent twice, and is refused. -/
theorem clashing_not_distinct :
    (∀ x ∈ clashing.additional.entries, x.2.value.IsIntegral ∧
        (ofJson x.2.value).depth + 1 ≤ depthLimit) ∧
      clashing.fields.map (·.1) = ["parent", "parent"] ∧
      ¬(clashing.fields.map (·.1)).Nodup ∧
      (Written.read? clashing.toJson.render).bind (RunFacets.ofWritten? 0) = none := by
  have hentries : clashing.additional.entries = [("parent", .of (.text "clash"))] := rfl
  have hintegral : ∀ x ∈ clashing.additional.entries, x.2.value.IsIntegral := by
    simp [hentries, Data.of, Json.canonical, Json.IsIntegral]
  have hdepth : ∀ x ∈ clashing.additional.entries,
      (ofJson x.2.value).depth + 1 ≤ depthLimit := by
    simp [hentries, Data.of, Json.canonical, ofJson, Written.depth, depthLimit]
  refine ⟨fun x hx => ⟨hintegral x hx, hdepth x hx⟩, by decide, by decide, ?_⟩
  rw [Json.read?_render (isIntegral_toJson hintegral), Option.bind_some]
  exact ofWritten?_toJson_of_contains (by decide)

/-! ## Attaching an error facet -/

/-- **Attaching an error facet** replaces what is kept under its name, whatever it is, and nothing
else: the facet is found as it was attached, the parent and all facets under other names stay as
they are, and of two error facets the second remains. -/
theorem withError_exact (f : RunFacets) (e e' : ErrorFacet) :
    (f.withError e).error? = some e ∧
    (∀ x : JobException, (f.withError (.of x)).error?.map ErrorFacet.exception = some x) ∧
    (f.withError e).parent = f.parent ∧
    (∀ name, name ≠ "spark.exception" →
      (f.withError e).additional.get? name = f.additional.get? name) ∧
    (f.withError e).additional.entries.filter (·.1 != "spark.exception") =
      f.additional.entries.filter (·.1 != "spark.exception") ∧
    (f.withError e).additional.entries.filter (·.1 == "spark.exception") =
      [("spark.exception", .of e.toJson)] ∧
    (f.withError e).withError e' = f.withError e' := by
  refine ⟨f.error?_withError e, fun x => ?_, rfl, fun name hname => get?_withError hname f e, ?_,
    ?_, ?_⟩
  · rw [error?_withError]
    rfl
  · exact Entries.filter_ne_insert "spark.exception" (.of e.toJson) f.additional.entries
  · have hfound : Entries.find? "spark.exception" (f.withError e).additional.entries =
        some (.of e.toJson) := Entries.find?_insert_self _ _ _
    rw [(f.withError e).additional.sorted.filter_eq, hfound]
    rfl
  · simp only [withError, attach, Dictionary.insert_insert]

/-- Facets with a text in place of an error facet, and another facet. -/
def malformedError : RunFacets :=
  unlike.attach ErrorFacet.key (.of (.text "boom"))

theorem withError_exact_malformedError :
    malformedError.error? = none ∧
      (malformedError.withError (.of ⟨"IOException", "", ["a", "b"]⟩)).error?.map
        ErrorFacet.exception = some ⟨"IOException", "", ["a", "b"]⟩ ∧
      (malformedError.withError (.of ⟨"IOException", "", ["a", "b"]⟩)).additional.get? "Parent" =
        some (.of (.text "clash")) := by
  obtain ⟨-, hfound, -, hothers, -⟩ := withError_exact malformedError
    (.of ⟨"IOException", "", ["a", "b"]⟩) (.of ⟨"", "", []⟩)
  refine ⟨rfl, hfound _, ?_⟩
  rw [hothers "Parent" (by decide)]
  rfl

end RunFacets

end Provenance
