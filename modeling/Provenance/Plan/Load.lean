import Provenance.Host
import Provenance.Plan.Assembly
import Provenance.Plan.Reader

/-!
# Loading plans

A plan in a file becomes a job in three steps: the file is read, its text spells a plan, and the
plan describes a graph.  The first step that fails says why there is no job.
-/

namespace Provenance.Plan

/-- Why there is no job. -/
inductive LoadError where
  /-- The file cannot be read. -/
  | unreadable (path : String) (e : FileError)
  /-- The file is no record of a plan. -/
  | illFormed
  /-- The plan does not describe a graph. -/
  | faulty (f : Fault)
  deriving Repr, DecidableEq

/-- The wording of an error. -/
def LoadError.message : LoadError → String
  | unreadable path e => "invalid job plan: " ++ path ++ ": " ++ e.message
  | illFormed => "invalid job plan: not a record of a plan"
  | faulty f => "invalid job plan: " ++ f.message

/-- The plan that a YAML stream spells. -/
def ofText (s : String) : Except LoadError Plan :=
  match read? s with
  | some p => .ok p
  | none => .error .illFormed

/-- The plan in a file. -/
def ofFile (h : Host) (path : String) : Except LoadError Plan := do
  ofText (← (h.read path).mapError (.unreadable path))

/-- The plan in a file, and the job that it describes. -/
def load (h : Host) (path : String) : Except LoadError (Plan × JobGraph) := do
  let p ← ofFile h path
  let j ← p.build.mapError .faulty
  .ok (p, j)

end Provenance.Plan
