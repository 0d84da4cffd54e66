import Provenance.Event.Reader
import Provenance.Proofs.Facet.Reader
import Provenance.Proofs.Json.Reader
import Provenance.Proofs.RunId
import Provenance.Proofs.Time.Timestamp

/-!
# Events, written and read

An event goes through its text unharmed: the text is cut into tokens, the tokens are put together
to the value that was written, and every record finds its fields in it.  What an event can lose it
loses in two places only.  An instant that is not well formed has no text of its own, and facets
that are not portable come back changed or not at all; the facets of a run stand inside two
objects, those of the event and of the run.
-/

namespace Provenance

open Json Json.Written

/-! ## Records -/

lemma EventType.ofWritten?_name (type : EventType) :
    EventType.ofWritten? (.text (some type.name)) = some type := by
  cases type <;> decide

lemma Dataset.ofWritten?_toJson (d : Dataset) : Dataset.ofWritten? (ofJson d.toJson) = some d := by
  rw [Dataset.ofWritten?, Dataset.toJson, slots?_name]
  rfl

lemma Run.ofWritten?_toJson {r : Run} {enclosing : ℕ} (h : r.facets.IsPortable (enclosing + 1)) :
    Run.ofWritten? enclosing (ofJson r.toJson) = some r := by
  have hslots : (ofJson r.toJson).slots? ["runId", "facets"] false =
      some [some (.text (some r.id.toText)), some (ofJson r.facets.toJson)] := by
    rw [Run.toJson, slots?_ofJson (by simp)]
    simp [ofJson, List.lookup_cons]
  rw [Run.ofWritten?, hslots]
  simp only [Option.bind_eq_bind, Option.bind_some, text?, RunId.ofText?_toText,
    h.ofWritten?_toJson]

/-- What an event must not lose on its way through a text. -/
structure Event.IsPortable (e : Event) : Prop where
  time : e.time.IsWellFormed
  facets : e.run.facets.IsPortable 2

namespace Event

variable {e : Event}

lemma IsPortable.ofWritten?_toJson (h : e.IsPortable) :
    Event.ofWritten? (ofJson e.toJson) = some e := by
  have hslots : (ofJson e.toJson).slots?
      ["eventType", "eventTime", "producer", "job", "run", "inputs", "outputs"] false =
      some [some (.text (some e.type.name)), some (.text (some e.time.toText)),
        some (.text (some e.producer)), some (ofJson e.job.toJson), some (ofJson e.run.toJson),
        some (ofJson (.array (e.inputs.map Dataset.toJson))),
        some (ofJson (.array (e.outputs.map Dataset.toJson)))] := by
    rw [Event.toJson, slots?_ofJson (by simp)]
    simp [ofJson, List.lookup_cons]
  have hinputs : list? Dataset.ofWritten? (ofJson (.array (e.inputs.map Dataset.toJson))) =
      some e.inputs := list?_ofJson Dataset.ofWritten?_toJson e.inputs
  have houtputs : list? Dataset.ofWritten? (ofJson (.array (e.outputs.map Dataset.toJson))) =
      some e.outputs := list?_ofJson Dataset.ofWritten?_toJson e.outputs
  rw [Event.ofWritten?, hslots]
  simp only [Option.bind_eq_bind, Option.bind_some, text?, EventType.ofWritten?_name,
    Timestamp.instant?_toText h.time, Job.ofWritten?_toJson, Run.ofWritten?_toJson h.facets,
    hinputs, houtputs]

/-! ## The text of an event -/

lemma areIntegral_datasets (ds : List Dataset) : AreIntegral (ds.map Dataset.toJson) := by
  rw [areIntegral_iff]
  intro v hv
  obtain ⟨d, -, rfl⟩ := List.mem_map.1 hv
  simp [Dataset.toJson, Json.IsIntegral, HaveIntegral]

lemma isIntegral_toJson (h : ∀ x ∈ e.run.facets.additional.entries, x.2.value.IsIntegral) :
    e.toJson.IsIntegral := by
  have hfacets : e.run.facets.toJson.IsIntegral := RunFacets.isIntegral_toJson h
  have hinputs : AreIntegral (e.inputs.map Dataset.toJson) := areIntegral_datasets e.inputs
  have houtputs : AreIntegral (e.outputs.map Dataset.toJson) := areIntegral_datasets e.outputs
  simp [Event.toJson, Run.toJson, Job.toJson, Json.IsIntegral, HaveIntegral, hfacets, hinputs,
    houtputs]

/-- **A portable event is read as it was written.** -/
lemma IsPortable.read?_toText (h : e.IsPortable) : Event.read? e.toText = some e := by
  rw [Event.read?, Event.toText, read?_render (isIntegral_toJson h.facets.integral)]
  exact h.ofWritten?_toJson

/-- **A report of this producer is read as it was written**, whatever texts are in it, at every
time of the host that is representable and with all facets that are portable.  If an error facet is
attached, it is found again in what has been read, with or without a stack trace. -/
theorem read?_toText_build (type : EventType) {millis : Int} {time : Instant}
    (htime : Instant.ofMillis? millis = some time) (job : Job) (id : RunId) {facets : RunFacets}
    (hfacets : facets.IsPortable 2) (inputs outputs : List Dataset) :
    Event.read? (Event.build type time job ⟨id, facets⟩ inputs outputs).toText =
        some (Event.build type time job ⟨id, facets⟩ inputs outputs) ∧
      ∀ error : ErrorFacet, ∃ e : Event,
        Event.read? (Event.build type time job ⟨id, facets.withError error⟩ inputs outputs).toText =
          some e ∧
        e = Event.build type time job ⟨id, facets.withError error⟩ inputs outputs ∧
        e.run.facets.error? = some error := by
  have hwell : time.IsWellFormed := Instant.isWellFormed_of_ofMillis? htime
  have hplain : (Event.build type time job ⟨id, facets⟩ inputs outputs).IsPortable :=
    ⟨hwell, hfacets⟩
  refine ⟨hplain.read?_toText, fun error => ?_⟩
  have hfailed :
      (Event.build type time job ⟨id, facets.withError error⟩ inputs outputs).IsPortable :=
    ⟨hwell, hfacets.withError (by decide) error⟩
  exact ⟨_, hfailed.read?_toText, rfl, facets.error?_withError error⟩

/-- Facets beside the parent under an unusual name, with the extreme integers in their data. -/
def unusualFacets : RunFacets :=
  (RunFacets.of (.of "run \"0\"" ⟨"ns", "line\nbreak"⟩)).attach "\u00e9\u0000"
    (.of (.array [.number (.natural 18446744073709551615), .number (.negative 9223372036854775808),
      .object [("b", .array []), ("a", .null)]]))

lemma isPortable_unusualFacets : unusualFacets.IsPortable 2 := by
  have hentry : ∀ e ∈ unusualFacets.additional.entries, e.1 = "\u00e9\u0000" ∧
      e.2.value = .array [.number (.natural 18446744073709551615),
        .number (.negative 9223372036854775808), .object [("a", .null), ("b", .array [])]] := by
    intro e he
    obtain rfl := List.mem_singleton.1 he
    exact ⟨rfl, rfl⟩
  refine ⟨fun e he => ?_, fun e he => ?_, fun e he => ?_⟩
  · rw [(hentry e he).1]
    decide
  · rw [(hentry e he).2]
    simp [Json.IsIntegral, AreIntegral, HaveIntegral, Number.IsInteger, UInt64.size]
  · rw [(hentry e he).2]
    decide

theorem read?_toText_unusual :
    Instant.ofMillis? (-62198755200001) = some ⟨-62198755201, 999000000⟩ ∧
      unusualFacets.IsPortable 2 ∧
      ∃ e : Event,
        Event.read? (Event.build .fail ⟨-62198755201, 999000000⟩ ⟨"", "\t"⟩
          ⟨⟨0⟩, unusualFacets.withError (.of ⟨"E", "\\", []⟩)⟩ [⟨"n", "\u007f"⟩] []).toText =
            some e ∧
        e.run.facets.error? = some (.of ⟨"E", "\\", []⟩) := by
  have htime : Instant.ofMillis? (-62198755200001) = some ⟨-62198755201, 999000000⟩ := by decide
  obtain ⟨-, herror⟩ := read?_toText_build .fail htime ⟨"", "\t"⟩ ⟨0⟩ isPortable_unusualFacets
    [⟨"n", "\u007f"⟩] []
  obtain ⟨e, hread, -, hfound⟩ := herror (.of ⟨"E", "\\", []⟩)
  exact ⟨htime, isPortable_unusualFacets, e, hread, hfound⟩

end Event

end Provenance
