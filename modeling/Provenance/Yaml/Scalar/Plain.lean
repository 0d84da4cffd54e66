import Provenance.Yaml.Scalar.Fold

/-!
# Plain scalars

A plain scalar is written without quotes.  It ends in front of a colon that ends a word, in front
of a comment, and inside a flow collection in front of a comma or a bracket.  It goes on in the
next lines as long as they are indented far enough, line breaks being folded.
-/

namespace Provenance.Yaml

/-- A scalar that has been read. -/
structure Scanned where
  text : List Char
  cursor : Cursor
  /-- Whether a line break has been passed since the last character. -/
  broken : Bool

namespace Plain

/-- Whether a character begins or ends something in a flow collection. -/
def isFlowIndicator (c : Char) : Bool :=
  c == ',' || c == '[' || c == ']' || c == '{' || c == '}'

/-- Whether a colon in a flow collection has one of these behind it, which is not allowed inside a
plain scalar. -/
def isColonClash : List Char → Bool
  | ':' :: c :: _ => isFlowIndicator c || c == '?'
  | _ => false

/-- Whether a plain scalar ends in front of what follows. -/
def endsHere (flow : Bool) : List Char → Bool
  | ':' :: cs => endsWord cs
  | c :: _ => flow && isFlowIndicator c
  | [] => true

/-- The part of a plain scalar in one line, after blanks that belong to it only if more follows;
the result also has what is left of the line. -/
def takeLine (flow : Bool) (blanks : List Char) : List Char → Option (List Char × List Char)
  | [] => some ([], [])
  | c :: cs =>
    if isBlank c then takeLine flow (blanks ++ [c]) cs
    else if c = '#' ∧ blanks ≠ [] then some ([], c :: cs)
    else if flow && isColonClash (c :: cs) then none
    else if endsHere flow (c :: cs) then some ([], c :: cs)
    else do
      let (text, rest) ← takeLine flow [] cs
      some (blanks ++ c :: text, rest)

/-- The part of a plain scalar in the lines below, after the given breaks; lines that are not
indented to a column below `indent` do not belong to it outside of flow collections. -/
def takeBelow (flow : Bool) (indent : Nat) (breaks : List Char) (line column : Nat) :
    (below : List (Char × List Char)) → Option Scanned
  | [] => some ⟨[], ⟨line, column, [], []⟩, !breaks.isEmpty⟩
  | (b, l) :: below =>
    let breaks := breaks ++ [b]
    let (blanks, rest) := l.span isBlank
    let here : Cursor := ⟨line + 1, blanks.length, rest, below⟩
    if (blanks.take indent).contains '\t' then none
    else if rest.isEmpty then takeBelow flow indent breaks (line + 1) blanks.length below
    else if (!flow && blanks.length < indent) || here.atDocumentMarker
        || rest.head? = some '#' then
      some ⟨[], here, true⟩
    else do
      let (text, rest') ← takeLine flow [] rest
      let there := here.goTo rest'
      if text.isEmpty then some ⟨[], here, true⟩
      else if rest'.isEmpty then
        let more ← takeBelow flow indent [] there.line there.column below
        some { more with text := fold breaks ++ text ++ more.text }
      else some ⟨fold breaks ++ text, there, false⟩

/-- The plain scalar at the cursor. -/
def scan (flow : Bool) (indent : Nat) (c : Cursor) : Option Scanned := do
  let (text, rest) ← takeLine flow [] c.rest
  let there := c.goTo rest
  if rest.isEmpty then
    let more ← takeBelow flow indent [] there.line there.column c.below
    some { more with text := text ++ more.text }
  else some ⟨text, there, false⟩

end Plain

end Provenance.Yaml
