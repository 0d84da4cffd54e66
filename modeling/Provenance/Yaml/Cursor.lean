import Provenance.Text.CodePoints

/-!
# Lines of a YAML stream

A YAML stream is read line by line.  A *cursor* stands at a column of a line; it holds what is left
of that line and the lines below, each with the break in front of it.  Tabs count as one column.

A byte order mark may begin any line between tokens, as in streams that have been put together
from several; elsewhere it is an ordinary character.  Control characters may not occur in a stream.
The breaks that systems write in different ways are all read as line feeds; the line and paragraph
separators are breaks that stay what they are.
-/

namespace Provenance.Yaml

/-! ## Characters -/

/-- The code points that may occur in a stream. -/
def allowedRuns : List CodePoints.Run := [
  ⟨0x0009, 0x000A, 1⟩, ⟨0x000D, 0x000D, 1⟩, ⟨0x0020, 0x007E, 1⟩, ⟨0x0085, 0x0085, 1⟩,
  ⟨0x00A0, 0xD7FF, 1⟩, ⟨0xE000, 0xFFFD, 1⟩, ⟨0x10000, 0x10FFFF, 1⟩]

/-- Whether a character may occur in a stream. -/
def isAllowed (c : Char) : Bool :=
  CodePoints.contains allowedRuns c.toNat

/-- Whether a character separates parts of a line. -/
def isBlank (c : Char) : Bool :=
  c == ' ' || c == '\t'

/-- Whether a character ends a line, once all kinds of line ends are line feeds. -/
def isBreak (c : Char) : Bool :=
  c == '\n' || c == '\u2028' || c == '\u2029'

/-- Whether a character can stand in the name of an anchor or of a tag handle. -/
def isWordChar (c : Char) : Bool :=
  c.isAlphanum || c == '_' || c == '-'

/-- Whether nothing or a blank follows. -/
def endsWord : List Char → Bool
  | [] => true
  | c :: _ => isBlank c

/-! ## Lines -/

/-- A stream with all kinds of line ends read as line feeds. -/
def unifyBreaks : List Char → List Char
  | '\r' :: '\n' :: cs => '\n' :: unifyBreaks cs
  | c :: cs => (if c = '\r' ∨ c = '\u0085' then '\n' else c) :: unifyBreaks cs
  | [] => []

/-- The first line of a stream, and the others, each with the break in front of it. -/
def lines : List Char → List Char × List (Char × List Char)
  | [] => ([], [])
  | c :: cs =>
    let (first, below) := lines cs
    if isBreak c then ([], (c, first) :: below) else (c :: first, below)

/-- A place in a stream. -/
structure Cursor where
  line : Nat
  column : Nat
  /-- What is left of the line. -/
  rest : List Char
  /-- The lines below. -/
  below : List (Char × List Char)

namespace Cursor

/-- The start of a stream. -/
def start (cs : List Char) : Cursor :=
  let (first, below) := lines (unifyBreaks cs)
  ⟨0, 0, first, below⟩

/-- Pass over characters of the line. -/
def skip (c : Cursor) (n : Nat) : Cursor :=
  { c with column := c.column + n, rest := c.rest.drop n }

/-- Pass over what is left of the line. -/
def skipLine (c : Cursor) : Cursor :=
  c.skip c.rest.length

/-- Go to the start of the next line, or to the end of this one if it is the last. -/
def skipBreak (c : Cursor) : Cursor :=
  match c.below with
  | [] => c.skipLine
  | (_, l) :: below => ⟨c.line + 1, 0, l, below⟩

/-- Pass over characters of the line as long as they satisfy `p`. -/
def skipWhile (c : Cursor) (p : Char → Bool) : Cursor :=
  c.skip (c.rest.takeWhile p).length

/-- Pass over a byte order mark that begins the line; it takes a column like any character. -/
def skipMark (c : Cursor) : Cursor :=
  if c.column = 0 ∧ c.rest.head? = some '\ufeff' then c.skip 1 else c

/-- Pass over what separates tokens in a line: a byte order mark that begins it, blanks, of which
tabs only count if `tabs` says so, and a comment. -/
def skipPadding (tabs : Bool) (c : Cursor) : Cursor :=
  let c := c.skipMark.skipWhile (if tabs then isBlank else (· == ' '))
  if c.rest.head? = some '#' then c.skipLine else c

/-- Go on with `rest`, which is what is left of the line farther on. -/
def goTo (c : Cursor) (rest : List Char) : Cursor :=
  { c with column := c.column + (c.rest.length - rest.length), rest := rest }

/-- Whether the line begins with a character three times and then ends or goes on with a blank. -/
def atMarker (c : Cursor) (marker : Char) : Bool :=
  c.column == 0 && c.rest.take 3 == [marker, marker, marker] && endsWord (c.rest.drop 3)

/-- Whether a document begins or ends here. -/
def atDocumentMarker (c : Cursor) : Bool :=
  c.atMarker '-' || c.atMarker '.'

end Cursor

end Provenance.Yaml
