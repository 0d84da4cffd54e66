import Provenance.Yaml.Cursor

/-!
# Folding

A line break inside a scalar is *folded*: one break stands for a space, and of several breaks the
first one is left out.  A line or paragraph separator is never left out.
-/

namespace Provenance.Yaml

/-- What successive breaks stand for inside a scalar. -/
def fold : List Char → List Char
  | [] => []
  | b :: bs =>
    if b = '\n' then (if bs.isEmpty then [' '] else bs)
    else b :: bs

end Provenance.Yaml
