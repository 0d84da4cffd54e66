import Provenance.Proofs.Event.Reader
import Provenance.Proofs.Json.Meaning

/-!
# The normal form of an event's text

One event has many texts: fields stand in any order, records are arrays, times are given at any
offset from UTC, identifiers and characters are spelled in several ways, a facet is given more than
once, and fields that nothing reads stand anywhere.  Writing the event that such a text spells
chooses one of them.

An event that has been read is *portable*.  Its time is well formed, since every timestamp denotes a
well-formed instant; none of the other facets is called like the parent, since the parent is taken
out before the others become data; and data is nested no deeper than it was written.  What remains
to be asked for is that the numbers in the other facets are integers, and these are exactly the
numbers that are written plainly (`Event.HasPlainFacets`).  So the text that is chosen is read as
the event again, and chosen again.
-/

namespace Provenance

open Json Json.Written

/-! ## Facets that are read -/

/-- What has been read as data means what was written, and keeps to the depth limit. -/
lemma Json.Data.means_of_ofWritten? {enclosing : ℕ} {w : Written} {d : Data}
    (h : Data.ofWritten? enclosing w = some d) :
    Means w d.value ∧ w.depth + enclosing ≤ depthLimit := by
  simp only [Data.ofWritten?, Option.ite_none_right_eq_some, fitsWithin, decide_eq_true_eq] at h
  obtain ⟨hdepth, h⟩ := h
  obtain ⟨v, hv, rfl⟩ := Option.map_eq_some_iff.1 h
  have hmeans : Means w v := means_of_value? w hv
  refine ⟨?_, hdepth⟩
  show Means w v.canonical
  rw [hmeans.canonical]
  exact hmeans

lemma Json.Written.isPlain_of_mem {fields : List (Option String × Written)}
    (h : havePlain fields = true) : ∀ field ∈ fields, field.2.isPlain = true := by
  induction fields with
  | nil => simp
  | cons field fields ih =>
      obtain ⟨hfield, hfields⟩ := Bool.and_eq_true_iff.1 h
      exact List.forall_mem_cons.2 ⟨hfield, ih hfields⟩

namespace RunFacets

/-- What is written beside the parent in the facets of a run. -/
def othersWritten : Written → List (Option String × Written)
  | .object fields => fields.filter (·.1 != some "parent")
  | _ => []

variable {enclosing : ℕ} {w : Written} {f : RunFacets}

/-- Each of the other facets has been read from one of the other fields. -/
lemma exists_othersWritten (h : ofWritten? enclosing w = some f) :
    ∀ e ∈ f.additional.entries, ∃ x, (some e.1, x) ∈ othersWritten w ∧
      Data.ofWritten? (enclosing + 1) x = some e.2 := by
  intro e he
  rw [ofWritten?.eq_def] at h
  split at h
  case h_2 => cases h
  split at h
  case h_2 => cases h
  simp only [Option.bind_eq_bind, Option.bind_eq_some_iff, Option.some.injEq] at h
  obtain ⟨settings, hsettings, parent, -, rfl⟩ := h
  have hmem : e ∈ settings := by
    rw [Dictionary.entries_ofSettings] at he
    exact Entries.mem_ofSettings he
  obtain ⟨⟨key, x⟩, hfield, hone⟩ := Itemwise.exists_of_mem_mapM hsettings hmem
  simp only [Option.bind_eq_bind, Option.bind_eq_some_iff, Option.some.injEq] at hone
  obtain ⟨name, rfl, data, hdata, rfl⟩ := hone
  exact ⟨x, hfield, hdata⟩

/-- None of the other facets is called like the parent. -/
lemma ne_parent_of_ofWritten? (h : ofWritten? enclosing w = some f) :
    ∀ e ∈ f.additional.entries, e.1 ≠ "parent" := by
  intro e he
  obtain ⟨x, hx, -⟩ := exists_othersWritten h e he
  cases w with
  | object fields => simpa using (List.mem_filter.1 hx).2
  | _ => cases hx

/-- **Facets that have been read are portable**, if all numbers in them are plain. -/
lemma isPortable_of_ofWritten? (h : ofWritten? enclosing w = some f)
    (hplain : havePlain (othersWritten w) = true) : f.IsPortable enclosing := by
  refine ⟨ne_parent_of_ofWritten? h, fun e he => ?_, fun e he => ?_⟩
  · obtain ⟨x, hx, hdata⟩ := exists_othersWritten h e he
    have hmeans : Means x e.2.value := (Data.means_of_ofWritten? hdata).1
    exact hmeans.integral (isPlain_of_mem hplain _ hx)
  · obtain ⟨x, -, hdata⟩ := exists_othersWritten h e he
    obtain ⟨hmeans, hdepth⟩ := Data.means_of_ofWritten? hdata
    exact Nat.le_trans (Nat.add_le_add_right hmeans.depth_le _) hdepth

end RunFacets

/-! ## Events that are read -/

/-- What is written beside the parent in the facets of a run. -/
def Run.otherFacets (w : Written) : List (Option String × Written) :=
  match w.slots? ["runId", "facets"] false with
  | some [_, some facets] => RunFacets.othersWritten facets
  | _ => []

lemma Run.exists_facets_of_ofWritten? {enclosing : ℕ} {w : Written} {r : Run}
    (h : Run.ofWritten? enclosing w = some r) : ∃ x,
      RunFacets.ofWritten? (enclosing + 1) x = some r.facets ∧
      Run.otherFacets w = RunFacets.othersWritten x := by
  obtain ⟨slots, hslots, h⟩ := Option.bind_eq_some_iff.1 h
  split at h
  case h_2 => cases h
  simp only [Option.bind_eq_bind, Option.bind_eq_some_iff, Option.some.injEq] at h
  obtain ⟨id, -, facets, hfacets, rfl⟩ := h
  refine ⟨_, hfacets, ?_⟩
  rw [Run.otherFacets, hslots]

namespace Event

/-- What is written beside the parent in the facets of an event's run. -/
def otherFacets (w : Written) : List (Option String × Written) :=
  match w.slots? ["eventType", "eventTime", "producer", "job", "run", "inputs", "outputs"] false with
  | some [_, _, _, _, some run, _, _] => Run.otherFacets run
  | _ => []

/-- Whether all numbers in the facets beside the parent are written plainly, which their literals
tell (`Written.isPlain_number_iff`). -/
def hasPlainFacets (s : String) : Bool :=
  (Written.read? s).all fun w => havePlain (otherFacets w)

variable {s : String} {e : Event}

/-- The time of an event that has been read is that of a timestamp, and its facets are those of an
object inside the event and its run. -/
lemma exists_parts_of_read? (h : read? s = some e) :
    (∃ text, Timestamp.instant? text = some e.time) ∧
      ∃ x, RunFacets.ofWritten? 2 x = some e.run.facets ∧
        (hasPlainFacets s = true → havePlain (RunFacets.othersWritten x) = true) := by
  obtain ⟨w, hw, h⟩ := Option.bind_eq_some_iff.1 h
  obtain ⟨slots, hslots, h⟩ := Option.bind_eq_some_iff.1 h
  split at h
  case h_2 => cases h
  simp only [Option.bind_eq_bind, Option.bind_eq_some_iff, Option.some.injEq] at h
  obtain ⟨type, -, time, ⟨text, -, htime⟩, producer, -, job, -, run, hrun, inputs, -, outputs, -,
    rfl⟩ := h
  obtain ⟨x, hx, hothers⟩ := Run.exists_facets_of_ofWritten? hrun
  refine ⟨⟨text, htime⟩, x, hx, fun hplain => ?_⟩
  rw [hasPlainFacets, hw, Option.all_some, otherFacets, hslots] at hplain
  rw [← hothers]
  exact hplain

/-- **The normal form of an event's text.**  Whatever text an event has been read from, none of its
other facets is called like the parent; and if the numbers in them were written plainly, the text
that is written for the event is read as the same event and written again as the same text. -/
theorem read?_toText_of_read? (hread : read? s = some e) :
    e.run.facets.additional.contains "parent" = false ∧
      (hasPlainFacets s = true →
        ∃ e', read? e.toText = some e' ∧ e' = e ∧ e'.toText = e.toText) := by
  obtain ⟨⟨text, htime⟩, x, hx, hplain⟩ := exists_parts_of_read? hread
  refine ⟨?_, fun h => ?_⟩
  · exact Dictionary.contains_eq_false (RunFacets.ne_parent_of_ofWritten? hx)
  · have hportable : e.IsPortable :=
      ⟨Timestamp.isWellFormed_of_instant? htime, RunFacets.isPortable_of_ofWritten? hx (hplain h)⟩
    exact ⟨e, hportable.read?_toText, rfl, rfl⟩

/-- A text of an event with nearly all the freedom that there is: records as arrays, fields out of
order, one field that nothing reads and that has no meaning, a facet that is given twice and a key
that is, a leap second far from UTC. -/
def unusualText : String :=
  String.ofList <| List.flatMap String.toList [
    "\x7b\"run\": \x7b\"facets\": \x7b\"b\": [18446744073709551615, -1], ",
    "\"a\": 1, \"\\u0061\": \x7b\"z\": 0, \"y\": [], \"z\": true\x7d,\n",
    "\"parent\": [\"p\", \"\\/\", [\"\"], [\"n\", \"\\ud83d\\ude00\"]]\x7d,\n",
    "\t\"runId\": \"URN:UUID:0191F0CE-0000-7000-8000-00000000000A\"\x7d,\n",
    "\"inputs\": [], \"later\": [1e999, -0, \"\\ud800\"],\n",
    "\"eventTime\": \"2016-12-31t22:59:60.5-01:00\",\n",
    "\"producer\": \"p\", \"eventType\": \x7b\"FAIL\": null\x7d,\n",
    "\"outputs\": [[\"n\", \"m\"]], \"job\": [\"n\", \"j\"]\x7d\r\n"]

theorem read?_toText_of_unusualText : ∃ e, read? unusualText = some e ∧
    hasPlainFacets unusualText = true ∧ e.run.facets.additional.contains "parent" = false ∧
    ∃ e', read? e.toText = some e' ∧ e' = e ∧ e'.toText = e.toText := by
  have hread : (∃ e, read? unusualText = some e) ∧ hasPlainFacets unusualText = true := by
    unfold hasPlainFacets read? Written.read? unusualText
    -- the characters as they are, since taking a long text apart is slow
    simp only [← Option.isSome_iff_exists, String.toList_ofList]
    decide +kernel
  obtain ⟨⟨e, he⟩, hplain⟩ := hread
  obtain ⟨hparent, hnormal⟩ := read?_toText_of_read? he
  exact ⟨e, he, hplain, hparent, hnormal hplain⟩

end Event

end Provenance
