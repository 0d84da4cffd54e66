/-!
# Notices

Nothing that goes wrong with a job's lineage may disturb the job, so it is put into the diagnostic
log and otherwise passed over.  A *notice* is an entry of that log: a message that says what was
done about it, and the circumstances as fields with names.
-/

namespace Provenance

/-- An entry of the diagnostic log. -/
structure Notice where
  message : String
  fields : List (String × String)
  deriving Repr, DecidableEq

end Provenance
