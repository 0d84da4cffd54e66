import Provenance.Configuration
import Provenance.Proofs.Dictionary
import Provenance.Proofs.Json.Reader
import Provenance.Proofs.Json.Record
import Provenance.Proofs.Text.Blank

/-!
# Configurations by their history

A configuration comes about by settings, one after the other, of which it keeps the last one of each
key.  What it answers, how many properties it has and what its text says can be told from these last
settings alone (`Records`), so whatever else happened on the way is forgotten: two histories with the
same last settings make the same configuration with the same text, and no others do
(`ofSettings_canonical`).

A blank value is a value like any other, except that a look-up passes over it.
-/

namespace Provenance.Configuration

open Entries (LastSets)
open Json (Written)

/-- Set properties one after the other. -/
def setAll (c : Configuration) (settings : List (String × String)) : Configuration :=
  settings.foldl (fun c s => c.set s.1 s.2) c

/-- A configuration records a history of settings. -/
structure Records (c : Configuration) (settings : List (String × String)) : Prop where
  /-- A look-up finds the last value of a property without the blanks around it, or nothing if the
  value is blank. -/
  get?_of_lastSets : ∀ key value, LastSets settings key value →
    c.get? key = if Text.isBlankText value then none else some (Text.trim value)
  /-- A look-up finds nothing under a key that has never been set. -/
  get?_of_unset : ∀ key, key ∉ settings.map (·.1) → c.get? key = none
  /-- Each key that has been set counts once, whatever its value. -/
  size : c.size = (settings.map (·.1)).dedup.length
  /-- The text is a JSON object of the last settings, by increasing key. -/
  text : ∃ fields : List (String × String),
    fields.Pairwise (fun a b => a.1.toList.map Char.toNat < b.1.toList.map Char.toNat) ∧
      (∀ key value, (key, value) ∈ fields ↔ LastSets settings key value) ∧
      c.toText = (Json.object (fields.map fun e => (e.1, .text e.2))).render ∧
      Written.read? c.toText =
        some (.object (fields.map fun e => (some e.1, .text (some e.2))))
  /-- The text is read as the configuration. -/
  read? : read? c.toText = some c

variable {c d : Configuration} {settings : List (String × String)}

/-! ## Histories -/

lemma eq_of_properties_eq (h : c.properties = d.properties) : c = d := by
  cases c
  cases d
  exact congrArg Configuration.mk h

lemma properties_setAll (c : Configuration) (settings : List (String × String)) :
    (c.setAll settings).properties =
      settings.foldl (fun d s => d.insert s.1 s.2) c.properties := by
  induction settings generalizing c with
  | nil => rfl
  | cons s settings ih => exact ih (c.set s.1 s.2)

/-- Settings that are made later go on with the history. -/
lemma setAll_ofSettings (earlier later : List (String × String)) :
    (ofSettings earlier).setAll later = ofSettings (earlier ++ later) := by
  apply eq_of_properties_eq
  rw [properties_setAll]
  exact (List.foldl_append ..).symm

lemma ofSettings_properties_entries (c : Configuration) :
    ofSettings c.properties.entries = c :=
  eq_of_properties_eq c.properties.ofSettings_entries

lemma get?_eq (c : Configuration) (key : String) : c.get? key =
    (c.properties.get? key).bind fun value =>
      if Text.isBlankText value then none else some (Text.trim value) := by
  simp only [get?, Text.isEmpty_trim]

/-! ## Text -/

lemma isIntegral_toJson (c : Configuration) : c.toJson.IsIntegral := by
  rw [toJson, Json.IsIntegral, Json.haveIntegral_iff]
  intro f hf
  obtain ⟨e, -, rfl⟩ := List.mem_map.1 hf
  trivial

/-- **What the text says**: the properties, in their order. -/
lemma written_toText (c : Configuration) : Written.read? c.toText =
    some (.object (c.properties.entries.map fun e => (some e.1, .text (some e.2)))) := by
  rw [toText, Json.read?_render c.isIntegral_toJson, toJson, Written.ofJson,
    Written.ofFields_eq_map, List.map_map]
  rfl

/-- **The text of a configuration is read as the configuration.** -/
lemma read?_toText (c : Configuration) : read? c.toText = some c := by
  have hsettings : Written.settings? Written.text?
      (.object (c.properties.entries.map fun e => (some e.1, .text (some e.2)))) =
        some c.properties.entries := by
    apply Itemwise.mapM_eq_some_of_forall₂
    rw [List.forall₂_map_left_iff, List.forall₂_same]
    exact fun e _ => rfl
  rw [read?, written_toText, Option.bind_eq_bind, Option.bind_some, ofWritten?, hsettings,
    Option.map_some, ofSettings_properties_entries]

lemma toText_eq_iff : c.toText = d.toText ↔ c = d := by
  refine ⟨fun h => ?_, congrArg toText⟩
  have hread : read? c.toText = some d := h ▸ d.read?_toText
  exact Option.some.inj (c.read?_toText.symm.trans hread)

/-! ## What is recorded -/

lemma records_ofSettings (settings : List (String × String)) :
    (ofSettings settings).Records settings where
  get?_of_lastSets key value h := by
    have hvalue : (ofSettings settings).properties.get? key = some value :=
      Dictionary.get?_ofSettings_eq_some_iff.2 h
    rw [get?_eq, hvalue, Option.bind_some]
  get?_of_unset key h := by
    have hnone : (ofSettings settings).properties.get? key = none :=
      Dictionary.get?_ofSettings_eq_none_iff.2 h
    rw [get?_eq, hnone, Option.bind_none]
  size := Dictionary.size_ofSettings settings
  text := by
    refine ⟨(ofSettings settings).properties.entries, ?_, fun key value => ?_, ?_,
      written_toText _⟩
    · exact (ofSettings settings).properties.sorted.imp Text.lt_iff_codePoints.1
    · rw [Dictionary.mem_entries_iff]
      exact Dictionary.get?_ofSettings_eq_some_iff
    · rfl
  read? := read?_toText _

lemma ofSettings_eq_iff {other : List (String × String)} : ofSettings settings = ofSettings other ↔
    ∀ key value, LastSets settings key value ↔ LastSets other key value := by
  rw [← Dictionary.ofSettings_eq_iff]
  exact ⟨congrArg properties, eq_of_properties_eq⟩

/-- **A configuration is its last settings.**  It does not matter whether they are made at once or
one after the other, nor in which order keys are set for the last time: configurations are equal,
and have the same text, if and only if each key has the same last value. -/
theorem ofSettings_canonical (settings : List (String × String)) :
    (ofSettings settings).Records settings ∧
      (∀ earlier later, settings = earlier ++ later →
        (ofSettings earlier).setAll later = ofSettings settings) ∧
      ∀ other,
        ((∀ key value, LastSets settings key value ↔ LastSets other key value) ↔
          ofSettings settings = ofSettings other) ∧
        ((∀ key value, LastSets settings key value ↔ LastSets other key value) ↔
          (ofSettings settings).toText = (ofSettings other).toText) := by
  refine ⟨records_ofSettings settings, ?_, fun other => ⟨ofSettings_eq_iff.symm, ?_⟩⟩
  · rintro earlier later rfl
    exact setAll_ofSettings earlier later
  · rw [toText_eq_iff, ofSettings_eq_iff]

example : (ofSettings [("b", "x"), ("a", " "), ("b", " y ")]).toText =
    "\x7b\"a\":\" \",\"b\":\" y \"\x7d" := by
  decide

end Provenance.Configuration
