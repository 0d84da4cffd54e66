import Provenance.Yaml.Scalar.Fold

/-!
# Block scalars

A block scalar consists of the lines below its header that are indented to a certain column.  In a
literal one every line break stands for itself; in a folded one a break between two lines that
begin with no blank is folded.  The header says which indentation counts, unless it is that of the
first line, and what becomes of the breaks at the end: all but the first are dropped, or all of
them, or none.
-/

namespace Provenance.Yaml.Block

/-- What becomes of the breaks at the end of a block scalar. -/
inductive Chomping where
  | clip
  | strip
  | keep
  deriving DecidableEq

/-- The header of a block scalar. -/
structure Header where
  chomping : Chomping
  /-- How much farther than the surrounding block its lines are indented, if that is given. -/
  indentation : Option Nat

/-! ## The header -/

/-- The chomping that an indicator stands for. -/
def chomping? : Char → Option Chomping
  | '-' => some .strip
  | '+' => some .keep
  | _ => none

/-- The chomping indicator at the start of a text, if there is one. -/
def takeChomping (cs : List Char) : Chomping × List Char :=
  match cs with
  | c :: rest => match chomping? c with
    | some chomping => (chomping, rest)
    | none => (.clip, cs)
  | [] => (.clip, [])

/-- The indentation indicator at the start of a text, if there is one; it is no zero. -/
def takeIndentation (cs : List Char) : Option (Option Nat × List Char) :=
  match cs with
  | c :: rest =>
    if c = '0' then none
    else if c.isDigit then some (some (c.toNat - '0'.toNat), rest)
    else some (none, cs)
  | [] => some (none, [])

/-- The header behind the indicator of a block scalar, which fills the line but for a comment. -/
def header? (cs : List Char) : Option Header := do
  let (first, rest) := takeChomping cs
  let (indentation, rest) ← takeIndentation rest
  let (chomping, rest) := if first = .clip then takeChomping rest else (first, rest)
  let rest := rest.dropWhile isBlank
  if rest.isEmpty ∨ rest.head? = some '#' then some ⟨chomping, indentation⟩ else none

/-! ## The lines -/

/-- The indentation of the first line that is not empty, or the greatest among the empty lines in
front of it; a tab may not stand there. -/
def detectIndent (most : Nat) : (below : List (Char × List Char)) → Option Nat
  | [] => some most
  | (_, l) :: below =>
    let (spaces, rest) := l.span (· == ' ')
    let most := max most spaces.length
    if rest.head? = some '\t' then none
    else if rest.isEmpty then detectIndent most below
    else some most

/-- What has been read of a block scalar. -/
structure Progress where
  text : List Char
  /-- The break behind the last line that is not empty. -/
  lineBreak : List Char
  /-- The breaks of the empty lines since. -/
  emptyBreaks : List Char
  /-- Whether the last line that is not empty begins with a blank. -/
  blankStart : Bool

/-- The text with one more line. -/
def Progress.addLine (p : Progress) (literal : Bool) (l : List Char) : Progress :=
  let blank := l.head?.any isBlank
  let folded := !literal && p.lineBreak = ['\n'] && !p.blankStart && !blank
  let joint := if folded then (if p.emptyBreaks.isEmpty then [' '] else []) else p.lineBreak
  ⟨p.text ++ joint ++ p.emptyBreaks ++ l, [], [], blank⟩

/-- The text with the breaks at its end. -/
def Progress.chomp (p : Progress) : Chomping → List Char
  | .strip => p.text
  | .clip => p.text ++ p.lineBreak
  | .keep => p.text ++ p.lineBreak ++ p.emptyBreaks

/-- A kind of line in front of a break. -/
inductive LineKind where
  /-- The line of the header, whose break does not count. -/
  | header
  /-- A line that is not empty. -/
  | content
  /-- A line without anything but indentation. -/
  | empty

/-- Pass the break behind a line. -/
def Progress.passBreak (p : Progress) (b : Char) : LineKind → Progress
  | .header => p
  | .content => { p with lineBreak := [b] }
  | .empty => { p with emptyBreaks := p.emptyBreaks ++ [b] }

/-- Read the lines below that are indented to the column `indent`, or are empty. -/
def takeBelow (literal : Bool) (indent : Nat) (p : Progress) (above : LineKind)
    (line column : Nat) : (below : List (Char × List Char)) → Option (Progress × Cursor)
  | [] => some (p, ⟨line, column, [], []⟩)
  | (b, l) :: below =>
    let p := p.passBreak b above
    let spaces := ((l.takeWhile (· == ' ')).take indent).length
    let rest := l.drop spaces
    if rest.isEmpty then takeBelow literal indent p .empty (line + 1) spaces below
    else if spaces < indent then
      if rest.head? = some '\t' then none else some (p, ⟨line + 1, spaces, rest, below⟩)
    else takeBelow literal indent (p.addLine literal rest) .content (line + 1) l.length below

/-- The block scalar whose indicator is at the cursor, inside a block that is indented to the column
`outer`, if there is one around it. -/
def scan (literal : Bool) (outer : Option Nat) (c : Cursor) : Option (List Char × Cursor) := do
  let header ← header? (c.rest.drop 1)
  let there := c.skipLine
  let least := max 1 ((outer.map (· + 1)).getD 0)
  let indent ← match header.indentation with
    | some n => some (outer.getD 0 + n)
    | none => (detectIndent 0 there.below).map (max least)
  let (p, behind) ← takeBelow literal indent ⟨[], [], [], false⟩ .header there.line there.column
    there.below
  some (p.chomp header.chomping, behind)

end Provenance.Yaml.Block
