import Provenance.Configuration
import Provenance.Location

/-!
# Configuration sources

What a host attaches to a node need not be a configuration already: it may be a job file or a value
kept by a cluster, which is loaded when it is needed.  Loading can fail, and the same source may
give one configuration today and another tomorrow.  A *source* therefore says what each load gives,
by the number of loads that went before, for whichever node they were.
-/

namespace Provenance

/-- Why the storage of a node could not be resolved. -/
inductive ResolutionError where
  /-- The configuration could not be loaded. -/
  | unavailable (cause : String)
  /-- A text that should be a location is not one. -/
  | malformed (e : Location.Malformed)
  deriving DecidableEq

/-- The wording of the error. -/
def ResolutionError.message : ResolutionError → String
  | unavailable cause => "configuration unavailable: " ++ cause
  | malformed e => e.message

namespace Configuration

/-- What the loads of a configuration give, by the number of loads of this source that went
before. -/
structure Source where
  load : (earlier : Nat) → Except ResolutionError Configuration

/-- A configuration is a source that gives itself. -/
def Source.ofConfiguration (c : Configuration) : Source where
  load _ := .ok c

end Configuration

end Provenance
