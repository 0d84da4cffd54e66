import Provenance.Dictionary
import Provenance.Json.Record
import Provenance.Text.Blank

/-!
# Job configurations

A *configuration* is what a host attaches to a node that reads or writes storage: a flat dictionary
of properties.  Four keys name storage, two for each of the host's interfaces, the legacy and the
modern one.

A property whose value is blank counts in the size of a configuration and appears in its text, but
a look-up does not find it; a look-up that succeeds returns the value without the blanks around it.
-/

namespace Provenance

/-- The properties of a job. -/
structure Configuration where
  properties : Dictionary String
  deriving DecidableEq

namespace Configuration

/-! ## The keys that name storage -/

/-- The list of input directories in the legacy interface. -/
def legacyInputKey : String := "mapred.input.dir"

/-- The output directory in the legacy interface. -/
def legacyOutputKey : String := "mapred.output.dir"

/-- The list of input directories in the modern interface. -/
def modernInputKey : String := "mapreduce.input.fileinputformat.inputdir"

/-- The output directory in the modern interface. -/
def modernOutputKey : String := "mapreduce.output.fileoutputformat.outputdir"

/-- One of the host's two interfaces. -/
inductive Interface where
  | legacy
  | modern
  deriving Repr, DecidableEq

/-- The name of an interface. -/
def Interface.name : Interface → String
  | legacy => "legacy"
  | modern => "modern"

/-- The key under which an interface lists input directories. -/
def Interface.inputKey : Interface → String
  | legacy => legacyInputKey
  | modern => modernInputKey

/-! ## Properties -/

/-- The configuration without properties. -/
def empty : Configuration := ⟨.empty⟩

/-- Set a property in place of a value that it may have had. -/
def set (c : Configuration) (key value : String) : Configuration :=
  ⟨c.properties.insert key value⟩

/-- The configuration of a list of settings, of which a later one overrides an earlier one. -/
def ofSettings (settings : List (String × String)) : Configuration :=
  ⟨.ofSettings settings⟩

/-- The value of a property without the blanks around it, unless nothing is left. -/
def get? (c : Configuration) (key : String) : Option String :=
  (c.properties.get? key).bind fun value =>
    let trimmed := Text.trim value
    if trimmed.isEmpty then none else some trimmed

/-- How many properties are set. -/
def size (c : Configuration) : Nat :=
  c.properties.size

/-- Whether no property is set. -/
def isEmpty (c : Configuration) : Bool :=
  c.properties.isEmpty

/-! ## Text -/

/-- The configuration as a JSON object. -/
def toJson (c : Configuration) : Json :=
  .object (c.properties.entries.map fun e => (e.1, .text e.2))

/-- The configuration as JSON text. -/
def toText (c : Configuration) : String :=
  c.toJson.render

/-- The configuration that a JSON object spells. -/
def ofWritten? (w : Json.Written) : Option Configuration :=
  (w.settings? Json.Written.text?).map ofSettings

/-- The configuration that a JSON text spells. -/
def read? (s : String) : Option Configuration :=
  Json.Written.read? s >>= ofWritten?

end Configuration

end Provenance
