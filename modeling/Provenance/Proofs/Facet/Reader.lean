import Provenance.Facet.Reader
import Provenance.Proofs.Dictionary
import Provenance.Proofs.Json.Data
import Provenance.Proofs.Json.Record
import Provenance.Proofs.Json.Token

/-!
# Facets, written and read

Each record of a facet is written with all its fields under their own names, so it is read as it
was written; a stack trace without frames is left out and comes back as the default of its slot.

Run facets have names of their own beside the parent's.  They come back if none of them is called
like the parent and if their data is *portable*: numbers are integers, and nothing is nested deeper
than data may be.
-/

namespace Provenance

open Json Json.Written

/-! ## Records -/

/-- Jobs and datasets are written alike. -/
lemma Json.Written.slots?_name (namespaceName name : String) :
    (ofJson (.object [("namespace", .text namespaceName), ("name", .text name)])).slots?
        ["namespace", "name"] false =
      some [some (.text (some namespaceName)), some (.text (some name))] := by
  rw [slots?_ofJson (by simp)]
  simp [ofJson, List.lookup_cons]

lemma Job.ofWritten?_toJson (j : Job) : Job.ofWritten? (ofJson j.toJson) = some j := by
  rw [Job.ofWritten?, Job.toJson, slots?_name]
  rfl

lemma ParentFacet.ofWritten?_toJson (f : ParentFacet) :
    ParentFacet.ofWritten? (ofJson f.toJson) = some f := by
  have hslots : (ofJson f.toJson).slots? ["_producer", "_schemaURL", "run", "job"] false =
      some [some (.text (some f.producer)), some (.text (some f.schemaURL)),
        some (ofJson (.object [("runId", .text f.runId)])), some (ofJson f.job.toJson)] := by
    rw [ParentFacet.toJson, slots?_ofJson (by simp)]
    simp [ofJson, List.lookup_cons]
  have hrun : (ofJson (.object [("runId", .text f.runId)])).slots? ["runId"] false =
      some [some (.text (some f.runId))] := by
    rw [slots?_ofJson (by simp)]
    simp [ofJson, List.lookup_cons]
  rw [ParentFacet.ofWritten?, hslots]
  simp only [Option.bind_eq_bind, Option.bind_some, hrun, text?, Job.ofWritten?_toJson]

lemma JobException.ofWritten?_toJson (e : JobException) :
    JobException.ofWritten? (ofJson e.toJson) = some e := by
  have hframes : list? text? (ofJson (.array (e.stackTrace.map .text))) = some e.stackTrace :=
    list?_ofJson (fun _ => rfl) e.stackTrace
  cases htrace : e.stackTrace with
  | nil =>
      have hslots : (ofJson e.toJson).slots? ["className", "message", "stackTrace"] false =
          some [some (.text (some e.className)), some (.text (some e.message)), none] := by
        rw [JobException.toJson, htrace, slots?_ofJson (by simp)]
        simp [ofJson, List.lookup_cons]
      rw [JobException.ofWritten?, hslots]
      simp only [Option.bind_eq_bind, Option.bind_some, text?, orElse?, ← htrace]
  | cons frame frames =>
      have hslots : (ofJson e.toJson).slots? ["className", "message", "stackTrace"] false =
          some [some (.text (some e.className)), some (.text (some e.message)),
            some (ofJson (.array (e.stackTrace.map .text)))] := by
        rw [JobException.toJson, htrace, slots?_ofJson (by simp)]
        simp [ofJson, List.lookup_cons]
      rw [JobException.ofWritten?, hslots]
      simp only [Option.bind_eq_bind, Option.bind_some, text?, orElse?, hframes]

/-- **An error facet is read as it was written**, with or without a stack trace. -/
lemma ErrorFacet.ofWritten?_toJson (f : ErrorFacet) :
    ErrorFacet.ofWritten? (ofJson f.toJson) = some f := by
  have hslots : (ofJson f.toJson).slots? ["_producer", "_schemaURL", "exception"] false =
      some [some (.text (some f.producer)), some (.text (some f.schemaURL)),
        some (ofJson f.exception.toJson)] := by
    rw [ErrorFacet.toJson, slots?_ofJson (by simp)]
    simp [ofJson, List.lookup_cons]
  rw [ErrorFacet.ofWritten?, hslots]
  simp only [Option.bind_eq_bind, Option.bind_some, text?, JobException.ofWritten?_toJson]

/-! ## The facets of a run -/

/-- The facets can be told apart when they are read inside `enclosing` arrays and objects, and none
of them loses anything. -/
structure RunFacets.IsPortable (f : RunFacets) (enclosing : ℕ) : Prop where
  ne_parent : ∀ e ∈ f.additional.entries, e.1 ≠ "parent"
  integral : ∀ e ∈ f.additional.entries, e.2.value.IsIntegral
  depth : ∀ e ∈ f.additional.entries, (ofJson e.2.value).depth + (enclosing + 1) ≤ depthLimit

namespace RunFacets

variable {f : RunFacets} {enclosing : ℕ}

/-- The fields of run facets as they are written. -/
def fields (f : RunFacets) : List (String × Json) :=
  ("parent", f.parent.toJson) :: f.additional.entries.map fun e => (e.1, e.2.value)

lemma IsPortable.nodup_fields (h : f.IsPortable enclosing) : (f.fields.map (·.1)).Nodup := by
  rw [fields, List.map_cons, List.map_map, List.nodup_cons]
  refine ⟨?_, f.additional.sorted.nodup_keys⟩
  intro hmem
  obtain ⟨e, he, hparent⟩ := List.mem_map.1 hmem
  exact h.ne_parent e he hparent

/-- What stands beside the parent are the other facets. -/
lemma IsPortable.filter_fields (h : f.IsPortable enclosing) :
    (ofFields f.fields).filter (·.1 != some "parent") =
      f.additional.entries.map fun e => (some e.1, ofJson e.2.value) := by
  have hothers : ∀ e ∈ f.additional.entries, (some e.1 != some "parent") = true := by
    intro e he
    simpa using h.ne_parent e he
  rw [ofFields_eq_map, fields, List.map_cons, List.map_map,
    List.filter_cons_of_neg (by simp), List.filter_eq_self.2]
  · rfl
  · intro field hfield
    obtain ⟨e, he, rfl⟩ := List.mem_map.1 hfield
    exact hothers e he

/-- The other facets are read as data, one by one. -/
lemma IsPortable.settings? (h : f.IsPortable enclosing) :
    Written.settings? (Data.ofWritten? (enclosing + 1))
        (.object (f.additional.entries.map fun e => (some e.1, ofJson e.2.value))) =
      some f.additional.entries := by
  rw [Written.settings?]
  refine Itemwise.mapM_eq_some_of_forall₂ ?_
  rw [List.forall₂_map_left_iff, List.forall₂_same]
  intro e he
  have hdata : Data.ofWritten? (enclosing + 1) (ofJson e.2.value) = some e.2 :=
    Data.ofWritten?_ofJson (h.depth e he)
  simp only [Option.bind_eq_bind, Option.bind_some, hdata]

/-- **Run facets are read as they were written**, if they are portable. -/
lemma IsPortable.ofWritten?_toJson (h : f.IsPortable enclosing) :
    RunFacets.ofWritten? enclosing (ofJson f.toJson) = some f := by
  have hobject : ofJson f.toJson = .object (ofFields f.fields) := rfl
  have hparent : slot? (ofFields f.fields) "parent" = some (some (ofJson f.parent.toJson)) := by
    rw [slot?_ofFields h.nodup_fields]
    simp [fields]
  rw [hobject, RunFacets.ofWritten?]
  simp only [hparent, Option.bind_eq_bind, Option.bind_some, h.filter_fields, h.settings?,
    ParentFacet.ofWritten?_toJson, Dictionary.ofSettings_entries]

lemma isIntegral_toJson (h : ∀ e ∈ f.additional.entries, e.2.value.IsIntegral) :
    f.toJson.IsIntegral := by
  have hparent : f.parent.toJson.IsIntegral := by
    simp [ParentFacet.toJson, Job.toJson, Json.IsIntegral, HaveIntegral]
  refine ⟨hparent, haveIntegral_iff.2 fun field hfield => ?_⟩
  obtain ⟨e, he, rfl⟩ := List.mem_map.1 hfield
  exact h e he

end RunFacets

/-! ## Error facets as data -/

section Texts

variable (ts : List String)

lemma canonicalItems_texts : canonicalItems (ts.map .text) = ts.map .text := by
  induction ts with
  | nil => rfl
  | cons t ts ih => rw [List.map_cons, canonicalItems, ih, canonical]

lemma areIntegral_texts : AreIntegral (ts.map .text) := by
  rw [areIntegral_iff]
  intro v hv
  obtain ⟨t, -, rfl⟩ := List.mem_map.1 hv
  trivial

lemma depthItems_texts : depthItems (ofItems (ts.map .text)) = 0 := by
  induction ts with
  | nil => rfl
  | cons t ts ih =>
      rw [List.map_cons, ofItems, depthItems, ih]
      rfl

end Texts

/-- An exception is written with its fields in the order of their names. -/
lemma JobException.canonical_toJson (e : JobException) : e.toJson.canonical = e.toJson := by
  have hshort : ["className", "message"].Pairwise (· < ·) := by decide
  have hlong : ["className", "message", "stackTrace"].Pairwise (· < ·) := by decide
  unfold JobException.toJson
  cases e.stackTrace with
  | nil =>
      refine canonical_object_of_sorted (Entries.sorted_of_keys rfl hshort) ?_
      simp [canonical]
  | cons frame frames =>
      refine canonical_object_of_sorted (Entries.sorted_of_keys rfl hlong) ?_
      simp [canonical, canonicalItems, canonicalItems_texts]

namespace ErrorFacet

variable (e : ErrorFacet)

/-- So is an error facet. -/
lemma canonical_toJson : e.toJson.canonical = e.toJson := by
  have hkeys : ["_producer", "_schemaURL", "exception"].Pairwise (· < ·) := by decide
  refine canonical_object_of_sorted (Entries.sorted_of_keys rfl hkeys) ?_
  simp [canonical, e.exception.canonical_toJson]

lemma isIntegral_toJson : e.toJson.IsIntegral := by
  have hframes : AreIntegral (e.exception.stackTrace.map .text) := areIntegral_texts _
  unfold toJson JobException.toJson
  split <;> simp [Json.IsIntegral, HaveIntegral, hframes]

/-- Nothing of an error facet is lost when it becomes data. -/
lemma value_of_toJson : (Data.of e.toJson).value = e.toJson :=
  e.canonical_toJson

lemma depth_toJson_le : (ofJson e.toJson).depth ≤ 3 := by
  have hframes : depthItems (ofItems (e.exception.stackTrace.map .text)) = 0 := depthItems_texts _
  unfold toJson JobException.toJson
  split <;> simp [ofJson, ofFields, depth, depthFields, hframes]

end ErrorFacet

namespace RunFacets

variable {f : RunFacets} {enclosing : ℕ}

/-- What holds of all facets beside the parent and of an error facet holds of all of them when it
has been attached. -/
lemma forall_withError (p : String → Json → Prop) {e : ErrorFacet}
    (h : ∀ x ∈ f.additional.entries, p x.1 x.2.value) (he : p ErrorFacet.key e.toJson) :
    ∀ x ∈ (f.withError e).additional.entries, p x.1 x.2.value := by
  intro x hx
  rcases Dictionary.mem_entries_insert hx with rfl | hx
  · rwa [e.value_of_toJson]
  · exact h x hx

/-- **Attaching an error facet** to portable facets leaves them portable. -/
lemma IsPortable.withError (h : f.IsPortable enclosing) (hdepth : enclosing + 4 ≤ depthLimit)
    (e : ErrorFacet) : (f.withError e).IsPortable enclosing := by
  have hle : (ofJson e.toJson).depth ≤ 3 := e.depth_toJson_le
  constructor
  · exact forall_withError (fun name _ => name ≠ "parent") h.ne_parent (by decide)
  · exact forall_withError (fun _ v => v.IsIntegral) h.integral e.isIntegral_toJson
  · exact forall_withError (fun _ v => (ofJson v).depth + (enclosing + 1) ≤ depthLimit) h.depth
      (by omega)

/-- **The error facet that has been attached is found.** -/
lemma error?_withError (f : RunFacets) (e : ErrorFacet) : (f.withError e).error? = some e := by
  rw [error?, RunFacets.withError, attach, Dictionary.get?_insert_self, Option.bind_some,
    e.value_of_toJson]
  exact e.ofWritten?_toJson

end RunFacets

end Provenance
