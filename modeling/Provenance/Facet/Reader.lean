import Provenance.Facet
import Provenance.Json.Record

/-!
# Reading facets

The parts of a facet are records with fixed fields; only the stack trace of an exception may be
missing.  The facets of a run are an object in any case: the parent stands in it under its name,
once, and everything else is data, of which the last of several under one name counts.
-/

namespace Provenance

open Json (Written)

/-- The job that a record spells. -/
def Job.ofWritten? (w : Written) : Option Job := do
  let [some namespaceName, some name] ← w.slots? ["namespace", "name"] false | none
  some ⟨← namespaceName.text?, ← name.text?⟩

/-- The parent facet that a record spells. -/
def ParentFacet.ofWritten? (w : Written) : Option ParentFacet := do
  let [some producer, some schemaURL, some run, some job] ←
    w.slots? ["_producer", "_schemaURL", "run", "job"] false | none
  let [some runId] ← run.slots? ["runId"] false | none
  some ⟨← producer.text?, ← schemaURL.text?, ← runId.text?, ← Job.ofWritten? job⟩

/-- The exception that a record spells. -/
def JobException.ofWritten? (w : Written) : Option JobException := do
  let [some className, some message, stackTrace] ←
    w.slots? ["className", "message", "stackTrace"] false | none
  some ⟨← className.text?, ← message.text?,
    ← Written.orElse? (Written.list? Written.text?) [] stackTrace⟩

/-- The error facet that a record spells. -/
def ErrorFacet.ofWritten? (w : Written) : Option ErrorFacet := do
  let [some producer, some schemaURL, some exception] ←
    w.slots? ["_producer", "_schemaURL", "exception"] false | none
  some ⟨← producer.text?, ← schemaURL.text?, ← JobException.ofWritten? exception⟩

/-- The error facet of a run, if what is kept under its name spells one. -/
def RunFacets.error? (f : RunFacets) : Option ErrorFacet :=
  (f.additional.get? ErrorFacet.key).bind fun data => ErrorFacet.ofWritten? (.ofJson data.value)

/-- The facets that an object spells, itself inside `enclosing` arrays and objects. -/
def RunFacets.ofWritten? (enclosing : Nat) (w : Written) : Option RunFacets := do
  let .object fields := w | none
  let some (some parent) := Written.slot? fields "parent" | none
  let others := fields.filter (·.1 != some "parent")
  let settings ← Written.settings? (Json.Data.ofWritten? (enclosing + 1)) (.object others)
  some ⟨← ParentFacet.ofWritten? parent, .ofSettings settings⟩

end Provenance
