import Provenance.Json.Data

/-!
# Run facets

A *facet* adds a piece of information to a run.  Every run has a parent facet, which refers to the
run that orchestrates the application; the run of a failed job has an error facet if the host
caught an exception; and a run may have further facets, about which nothing is known but that they
are JSON data under names of their own.

The error facet is kept among the further ones, under a name that is fixed.  Whatever else may
stand there, such as what another producer wrote, is data as well, and `RunFacets.error?` finds an
error facet in it only if it can be read as one.
-/

namespace Provenance

/-- The version of the producer of events. -/
def version : String := "0.1.0"

/-- The address that identifies the producer of events. -/
def producer : String := "https://github.com/lineage-rs/lineage/tree/" ++ version

/-- The address of a facet's definition. -/
def definitionURL (name : String) : String :=
  "https://openlineage.io/spec/1-0-0/OpenLineage.json#/definitions/" ++ name

/-- The identity under which a job is reported. -/
structure Job where
  namespaceName : String
  name : String
  deriving Repr, DecidableEq

/-! ## The parent facet -/

/-- A reference to the run one level up. -/
structure ParentFacet where
  producer : String
  schemaURL : String
  runId : String
  job : Job
  deriving Repr, DecidableEq

/-- The reference to a run of a job. -/
def ParentFacet.of (runId : String) (job : Job) : ParentFacet :=
  ⟨Provenance.producer, definitionURL "ParentRunFacet", runId, job⟩

/-! ## The error facet -/

/-- An exception that the host caught, passed on as it is. -/
structure JobException where
  className : String
  message : String
  stackTrace : List String
  deriving Repr, DecidableEq

/-- The exception that ended a run. -/
structure ErrorFacet where
  producer : String
  schemaURL : String
  exception : JobException
  deriving Repr, DecidableEq

/-- The facet of an exception. -/
def ErrorFacet.of (e : JobException) : ErrorFacet :=
  ⟨Provenance.producer, definitionURL "ErrorFacet", e⟩

/-- The name under which an error facet is kept. -/
def ErrorFacet.key : String := "spark.exception"

/-! ## All facets of a run -/

/-- The facets of a run. -/
structure RunFacets where
  parent : ParentFacet
  additional : Dictionary Json.Data

/-- The facets of a run that has nothing but a parent. -/
def RunFacets.of (parent : ParentFacet) : RunFacets :=
  ⟨parent, .empty⟩

/-! ## Writing -/

/-- A job as JSON. -/
def Job.toJson (j : Job) : Json :=
  .object [("namespace", .text j.namespaceName), ("name", .text j.name)]

/-- A parent facet as JSON. -/
def ParentFacet.toJson (f : ParentFacet) : Json :=
  .object [
    ("_producer", .text f.producer), ("_schemaURL", .text f.schemaURL),
    ("run", .object [("runId", .text f.runId)]), ("job", f.job.toJson)]

/-- An exception as JSON; a stack trace without frames is left out. -/
def JobException.toJson (e : JobException) : Json :=
  let trace := if e.stackTrace.isEmpty then []
    else [("stackTrace", Json.array (e.stackTrace.map .text))]
  .object ([("className", .text e.className), ("message", .text e.message)] ++ trace)

/-- An error facet as JSON. -/
def ErrorFacet.toJson (f : ErrorFacet) : Json :=
  .object [
    ("_producer", .text f.producer), ("_schemaURL", .text f.schemaURL),
    ("exception", f.exception.toJson)]

/-- The facets of a run as JSON: the parent, and the others in the order of their names. -/
def RunFacets.toJson (f : RunFacets) : Json :=
  .object (("parent", f.parent.toJson) :: f.additional.entries.map fun e => (e.1, e.2.value))

/-! ## Attaching -/

/-- Attach a facet under a name, in place of one that may be there. -/
def RunFacets.attach (f : RunFacets) (name : String) (data : Json.Data) : RunFacets :=
  { f with additional := f.additional.insert name data }

/-- Attach an error facet, in place of whatever may be kept under its name. -/
def RunFacets.withError (f : RunFacets) (e : ErrorFacet) : RunFacets :=
  f.attach ErrorFacet.key (.of e.toJson)

end Provenance
