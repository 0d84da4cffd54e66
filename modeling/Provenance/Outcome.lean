import Provenance.Event

/-!
# Outcomes of jobs

When a job ends the host says how: it succeeded, it failed, for which it may have caught an
exception, or it was cancelled.  A run completes if and only if its job succeeded; everything else
is a failure, and only a failure with an exception has an error facet.
-/

namespace Provenance

/-- How a job ended. -/
inductive Outcome where
  | succeeded
  | failed (exception : Option JobException)
  | cancelled
  deriving Repr, DecidableEq

namespace Outcome

/-- The type of event that reports the end. -/
def eventType : Outcome → EventType
  | succeeded => .complete
  | failed _ => .fail
  | cancelled => .fail

/-- The error facet of the run. -/
def error? : Outcome → Option ErrorFacet
  | failed exception => exception.map ErrorFacet.of
  | _ => none

end Outcome

end Provenance
