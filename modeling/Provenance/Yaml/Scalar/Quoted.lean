import Provenance.Yaml.Scalar.Fold

/-!
# Quoted scalars

A quoted scalar goes on to the next quote, over as many lines as it takes, line breaks and the
blanks around them being folded.  Between single quotes, a quote is written twice and nothing else
is special.  Between double quotes a backslash begins an escape: of a character, or of the break at
the end of the line, which then counts for nothing.
-/

namespace Provenance.Yaml.Quoted

/-! ## Escapes -/

/-- The characters that a backslash and one other character stand for. -/
def escapes : List (Char × Nat) := [
  ('0', 0x00), ('a', 0x07), ('b', 0x08), ('t', 0x09), ('\t', 0x09), ('n', 0x0A), ('v', 0x0B),
  ('f', 0x0C), ('r', 0x0D), ('e', 0x1B), (' ', 0x20), ('"', 0x22), ('/', 0x2F), ('\\', 0x5C),
  ('N', 0x85), ('_', 0xA0), ('L', 0x2028), ('P', 0x2029)]

/-- What a hexadecimal digit counts. -/
def hexValue? (c : Char) : Option Nat :=
  if c.isDigit then some (c.toNat - '0'.toNat)
  else if 'a' ≤ c ∧ c ≤ 'f' then some (c.toNat - 'a'.toNat + 10)
  else if 'A' ≤ c ∧ c ≤ 'F' then some (c.toNat - 'A'.toNat + 10)
  else none

/-- The character whose code point is written in `width` hexadecimal digits. -/
def hexChar? (width : Nat) (cs : List Char) : Option Char := do
  if cs.length < width then none
  let digits ← (cs.take width).mapM hexValue?
  let n := digits.foldl (fun n d => n * 16 + d) 0
  if n.isValidChar then some (Char.ofNat n) else none

/-- The character that an escape behind a backslash stands for, and how many characters the escape
has. -/
def escape? : List Char → Option (Char × Nat)
  | 'x' :: cs => (hexChar? 2 cs).map fun c => (c, 3)
  | 'u' :: cs => (hexChar? 4 cs).map fun c => (c, 5)
  | 'U' :: cs => (hexChar? 8 cs).map fun c => (c, 9)
  | c :: _ => (escapes.lookup c).map fun n => (Char.ofNat n, 1)
  | [] => none

/-! ## Lines -/

/-- How the part of a quoted scalar in one line ends. -/
inductive LineEnd where
  /-- With the closing quote. -/
  | closed (rest : List Char)
  /-- With the end of the line. -/
  | folded
  /-- With a backslash at the end of the line. -/
  | escaped

/-- The part of a quoted scalar in one line, after blanks that belong to it only if more follows in
the line. -/
def takeLine (double : Bool) (blanks : List Char) (cs : List Char) :
    Option (List Char × LineEnd) :=
  match cs with
  | [] => some ([], .folded)
  | c :: cs =>
    if isBlank c then takeLine double (blanks ++ [c]) cs
    else if !double && c = '\'' then
      match cs with
      | '\'' :: cs => do
        let (text, ending) ← takeLine double [] cs
        some (blanks ++ '\'' :: text, ending)
      | _ => some (blanks, .closed cs)
    else if double && c = '"' then some (blanks, .closed cs)
    else if double && c = '\\' then
      if cs.isEmpty then some (blanks, .escaped)
      else do
        let (escaped, n) ← escape? cs
        let (text, ending) ← takeLine double [] (cs.drop n)
        some (blanks ++ escaped :: text, ending)
    else do
      let (text, ending) ← takeLine double [] cs
      some (blanks ++ c :: text, ending)
termination_by cs.length
decreasing_by all_goals (simp; try omega)

/-- The part of a quoted scalar in the lines below, after the breaks that are still to be folded;
`plain` says that none of them has been escaped. -/
def takeBelow (double plain : Bool) (breaks : List Char) (line : Nat) :
    (below : List (Char × List Char)) → Option (List Char × Cursor)
  | [] => none
  | (b, l) :: below => do
    let (blanks, rest) := l.span isBlank
    let here : Cursor := ⟨line + 1, blanks.length, rest, below⟩
    let breaks := breaks ++ [b]
    if rest.isEmpty then takeBelow double plain breaks (line + 1) below
    else if here.atDocumentMarker then none
    else
      let joined := if plain then fold breaks else breaks.drop 1
      let (text, ending) ← takeLine double [] rest
      match ending with
      | .closed rest => some (joined ++ text, here.goTo rest)
      | .folded =>
        let (more, there) ← takeBelow double true [] (line + 1) below
        some (joined ++ text ++ more, there)
      | .escaped =>
        let (more, there) ← takeBelow double false [] (line + 1) below
        some (joined ++ text ++ more, there)

/-- The quoted scalar whose opening quote is at the cursor. -/
def scan (double : Bool) (c : Cursor) : Option (List Char × Cursor) := do
  let here := c.skip 1
  let (text, ending) ← takeLine double [] here.rest
  match ending with
  | .closed rest => some (text, here.goTo rest)
  | .folded =>
    let (more, there) ← takeBelow double true [] c.line c.below
    some (text ++ more, there)
  | .escaped =>
    let (more, there) ← takeBelow double false [] c.line c.below
    some (text ++ more, there)

end Provenance.Yaml.Quoted
