/-!
# Tokens of YAML

The tokens of a stream are its scalars, aliases, anchors, tags and directives, the marks of its
documents and flow collections, and the beginnings and ends of blocks, which are not written but
follow from the indentation.  A key token stands in front of every key, also where no question mark
is written.
-/

namespace Provenance.Yaml

/-- How a scalar is written. -/
inductive Style where
  | plain
  | quoted
  | block
  deriving Repr, DecidableEq

/-- A tag as it is written: the handle of a tag directive, and what follows it.  A tag that is
written out has no handle. -/
structure WrittenTag where
  handle : List Char
  suffix : List Char
  deriving Repr, DecidableEq

/-- A token. -/
inductive Token where
  | versionDirective
  | tagDirective (handle lead : List Char)
  | documentStart
  | documentEnd
  | blockSequenceStart
  | blockMappingStart
  | blockEnd
  | flowSequenceStart
  | flowSequenceEnd
  | flowMappingStart
  | flowMappingEnd
  | blockEntry
  | flowEntry
  | key
  | value
  | reference (name : List Char)
  | anchor (name : List Char)
  | tag (t : WrittenTag)
  | scalar (text : List Char) (style : Style)
  deriving Repr, DecidableEq

end Provenance.Yaml
