import Provenance.Yaml.Directive
import Provenance.Yaml.Scalar.Block
import Provenance.Yaml.Scalar.Plain
import Provenance.Yaml.Scalar.Quoted

/-!
# Reading tokens

The scanner reads a stream token by token and keeps account of two things that are not written.

A *block* begins where a line is indented farther than the block around it, and ends where a line
is indented less.  A *key* is recognised only by the colon behind it: wherever a key could begin,
the scanner notes the place, and the key token is put there once the colon has come.  A key has to
end in the line in which it begins, within 1024 columns.  Where a key is the only thing that could
stand, its colon has to come.
-/

namespace Provenance.Yaml

/-- A place where a key may have begun. -/
structure KeyPlace where
  /-- Whether nothing but a key could begin here. -/
  required : Bool
  /-- The number of tokens in front of it. -/
  token : Nat
  line : Nat
  column : Nat

/-- A scanner between two tokens. -/
structure Scanner where
  cursor : Cursor
  tokens : Array Token
  /-- The columns of the open blocks, the innermost first. -/
  blocks : List Nat
  /-- Whether a key may begin here. -/
  keyAllowed : Bool
  /-- Where a key may have begun at the level of the innermost open flow collection. -/
  place : Option KeyPlace
  /-- The places at the levels outside; there is one for each open flow collection. -/
  outerPlaces : List (Option KeyPlace)

namespace Scanner

/-- The scanner at the start of a stream. -/
def start (cs : List Char) : Scanner :=
  ⟨Cursor.start cs, #[], [], true, none, []⟩

/-- Whether a flow collection is open. -/
def inFlow (s : Scanner) : Bool :=
  !s.outerPlaces.isEmpty

/-- Add a token. -/
def push (s : Scanner) (t : Token) : Scanner :=
  { s with tokens := s.tokens.push t }

/-- Pass over the characters of a token and add it. -/
def pushSkipping (s : Scanner) (n : Nat) (t : Token) : Scanner :=
  { s.push t with cursor := s.cursor.skip n }

/-- Say whether a key may begin next. -/
def allowKey (s : Scanner) (allowed : Bool) : Scanner :=
  { s with keyAllowed := allowed }

/-! ## Blanks and comments -/

/-- Pass over blanks and comments in the lines below a line that has ended; outside of flow
collections a key may begin in the next line. -/
def skipBelow (flow : Bool) (allowed : Bool) (c : Cursor) :
    (below : List (Char × List Char)) → Cursor × Bool
  | [] => (c, allowed)
  | (_, l) :: below =>
    let allowed := allowed || !flow
    let next := (Cursor.mk (c.line + 1) 0 l below).skipPadding (flow || !allowed)
    if next.rest.isEmpty then skipBelow flow allowed next below else (next, allowed)

/-- Pass over blanks and comments.  A tab is not passed over where a key may begin in a block. -/
def skipBlanks (s : Scanner) : Scanner :=
  let here := s.cursor.skipPadding (s.inFlow || !s.keyAllowed)
  if here.rest.isEmpty then
    let (there, allowed) := skipBelow s.inFlow s.keyAllowed here here.below
    { s with cursor := there, keyAllowed := allowed }
  else { s with cursor := here }

/-! ## Keys -/

/-- Give up the place of a possible key, unless a key is required there. -/
def dropPlace (s : Scanner) : Option Scanner :=
  if s.place.any (·.required) then none else some { s with place := none }

/-- Note that a key may begin here. -/
def notePlace (s : Scanner) : Option Scanner :=
  if s.keyAllowed then do
    let s ← s.dropPlace
    let required := !s.inFlow && s.blocks.head? == some s.cursor.column
    some { s with place := some ⟨required, s.tokens.size, s.cursor.line, s.cursor.column⟩ }
  else some s

/-- Whether a key that began at a place would be too long by now. -/
def isStale (c : Cursor) (p : KeyPlace) : Bool :=
  p.line < c.line || p.column + 1024 < c.column

/-- Give up a place that is stale; `none` if a key is required there. -/
def refreshPlace (c : Cursor) : Option KeyPlace → Option (Option KeyPlace)
  | none => some none
  | some p => if !isStale c p then some (some p) else if p.required then none else some none

/-- Give up all stale places. -/
def dropStale (s : Scanner) : Option Scanner := do
  let place ← refreshPlace s.cursor s.place
  let outerPlaces ← s.outerPlaces.mapM (refreshPlace s.cursor)
  some { s with place := place, outerPlaces := outerPlaces }

/-! ## Blocks -/

/-- The open blocks that are not indented farther than to a column, and the number of the others;
all blocks are ended if no column is given. -/
def splitBlocks (column : Option Nat) : List Nat → List Nat × Nat
  | [] => ([], 0)
  | b :: blocks =>
    if column.any (b ≤ ·) then (b :: blocks, 0)
    else
      let (rest, n) := splitBlocks column blocks
      (rest, n + 1)

/-- End the blocks that are indented farther than to a column. -/
def endBlocks (s : Scanner) (column : Option Nat) : Scanner :=
  if s.inFlow then s
  else
    let (blocks, n) := splitBlocks column s.blocks
    { s with blocks := blocks, tokens := s.tokens ++ Array.replicate n .blockEnd }

/-- Begin a block at a column, if it is indented farther than the block around it; its token goes
behind the first `position` tokens. -/
def beginBlock (s : Scanner) (column position : Nat) (t : Token) : Scanner :=
  if s.inFlow then s
  else if s.blocks.head?.any (column ≤ ·) then s
  else { s with
    blocks := column :: s.blocks
    tokens := s.tokens.insertIdxIfInBounds position t }

/-- Begin a block at the cursor. -/
def beginBlockHere (s : Scanner) (t : Token) : Scanner :=
  s.beginBlock s.cursor.column s.tokens.size t

/-! ## Tokens -/

/-- Put an end to all blocks in front of a directive or the mark of a document. -/
def leaveDocument (s : Scanner) : Option Scanner := do
  let s ← (s.endBlocks none).dropPlace
  some (s.allowKey false)

/-- Read a directive with the break behind it, so that no key may begin in the next line. -/
def scanDirective (s : Scanner) : Option Scanner := do
  let s ← s.leaveDocument
  let t ← directive? (s.cursor.rest.drop 1)
  some { s.push t with cursor := s.cursor.skipBreak }

/-- Read the mark of a document. -/
def scanDocumentMarker (s : Scanner) (t : Token) : Option Scanner := do
  let s ← s.leaveDocument
  some (s.pushSkipping 3 t)

/-- Read the beginning of a flow collection. -/
def scanFlowStart (s : Scanner) (t : Token) : Option Scanner := do
  let s ← s.notePlace
  some ({ s with place := none, outerPlaces := s.place :: s.outerPlaces }.allowKey true
    |>.pushSkipping 1 t)

/-- Read the end of a flow collection. -/
def scanFlowEnd (s : Scanner) (t : Token) : Option Scanner := do
  let s ← s.dropPlace
  let s := match s.outerPlaces with
    | [] => s
    | p :: outer => { s with place := p, outerPlaces := outer }
  some ((s.allowKey false).pushSkipping 1 t)

/-- Read the comma between the entries of a flow collection. -/
def scanFlowEntry (s : Scanner) : Option Scanner := do
  let s ← s.dropPlace
  some ((s.allowKey true).pushSkipping 1 .flowEntry)

/-- Read the hyphen in front of an entry of a block sequence. -/
def scanBlockEntry (s : Scanner) : Option Scanner := do
  if !s.inFlow && !s.keyAllowed then none
  let s ← (s.beginBlockHere .blockSequenceStart).dropPlace
  some ((s.allowKey true).pushSkipping 1 .blockEntry)

/-- Read the question mark in front of a key. -/
def scanKey (s : Scanner) : Option Scanner := do
  if !s.inFlow && !s.keyAllowed then none
  let s ← (s.beginBlockHere .blockMappingStart).dropPlace
  some ((s.allowKey !s.inFlow).pushSkipping 1 .key)

/-- Read the colon behind a key. -/
def scanValue (s : Scanner) : Option Scanner :=
  match s.place with
  | some p =>
    let s := { s with place := none, tokens := s.tokens.insertIdxIfInBounds p.token .key }
    let s := s.beginBlock p.column p.token .blockMappingStart
    some ((s.allowKey false).pushSkipping 1 .value)
  | none =>
    if !s.inFlow && !s.keyAllowed then none
    else
      let s := s.beginBlockHere .blockMappingStart
      some ((s.allowKey !s.inFlow).pushSkipping 1 .value)

/-- Read an anchor or an alias. -/
def scanAnchor (s : Scanner) (make : List Char → Token) : Option Scanner := do
  let s ← s.notePlace
  let (name, rest) ← takeAnchorName (s.cursor.rest.drop 1)
  some { (s.allowKey false).push (make name) with cursor := s.cursor.goTo rest }

/-- Read a tag. -/
def scanTag (s : Scanner) : Option Scanner := do
  let s ← s.notePlace
  let (t, rest) ← WrittenTag.take s.cursor.rest
  if endsWord rest || (s.inFlow && rest.head? == some ',') then
    some { (s.allowKey false).push (.tag t) with cursor := s.cursor.goTo rest }
  else none

/-- Read a block scalar. -/
def scanBlockScalar (s : Scanner) (literal : Bool) : Option Scanner := do
  let s ← s.dropPlace
  let (text, there) ← Block.scan literal s.blocks.head? s.cursor
  some { (s.allowKey true).push (.scalar text .block) with cursor := there }

/-- Read a quoted scalar. -/
def scanQuotedScalar (s : Scanner) (double : Bool) : Option Scanner := do
  let s ← s.notePlace
  let (text, there) ← Quoted.scan double s.cursor
  some { (s.allowKey false).push (.scalar text .quoted) with cursor := there }

/-- Read a plain scalar. -/
def scanPlainScalar (s : Scanner) : Option Scanner := do
  let s ← s.notePlace
  let scanned ← Plain.scan s.inFlow ((s.blocks.head?.map (· + 1)).getD 0) s.cursor
  some { (s.allowKey scanned.broken).push (.scalar scanned.text .plain) with
    cursor := scanned.cursor }

/-- Whether a plain scalar may begin with a character, given what follows it. -/
def beginsPlain (flow : Bool) (c : Char) (behind : List Char) : Bool :=
  if c = '-' then !endsWord behind
  else if c = '?' ∨ c = ':' then !flow && !endsWord behind
  else !isBlank c && !",[]\x7b\x7d#&*!|>'\"%@\x60".toList.contains c

/-- Read the token that begins with a character at the cursor. -/
def scanAt (s : Scanner) (c : Char) (behind : List Char) : Option Scanner :=
  if c = '%' && s.cursor.column == 0 then s.scanDirective
  else if s.cursor.atMarker '-' then s.scanDocumentMarker .documentStart
  else if s.cursor.atMarker '.' then s.scanDocumentMarker .documentEnd
  else if c = '[' then s.scanFlowStart .flowSequenceStart
  else if c = '{' then s.scanFlowStart .flowMappingStart
  else if c = ']' then s.scanFlowEnd .flowSequenceEnd
  else if c = '}' then s.scanFlowEnd .flowMappingEnd
  else if c = ',' then s.scanFlowEntry
  else if c = '-' && endsWord behind then s.scanBlockEntry
  else if c = '?' && (s.inFlow || endsWord behind) then s.scanKey
  else if c = ':' && (s.inFlow || endsWord behind) then s.scanValue
  else if c = '*' then s.scanAnchor .reference
  else if c = '&' then s.scanAnchor .anchor
  else if c = '!' then s.scanTag
  else if c = '|' && !s.inFlow then s.scanBlockScalar true
  else if c = '>' && !s.inFlow then s.scanBlockScalar false
  else if c = '\'' then s.scanQuotedScalar false
  else if c = '"' then s.scanQuotedScalar true
  else if beginsPlain s.inFlow c behind then s.scanPlainScalar
  else none

/-- Read the tokens up to the end of the stream, at most `limit` of those that are written. -/
def scanAll : (limit : Nat) → Scanner → Option (List Token)
  | 0, _ => none
  | limit + 1, s => do
    let s ← s.skipBlanks.dropStale
    let s := s.endBlocks (some s.cursor.column)
    match s.cursor.rest with
    | [] => some (← s.leaveDocument).tokens.toList
    | c :: behind => scanAll limit (← s.scanAt c behind)

end Scanner

/-- The tokens of a stream. -/
def tokens? (s : String) : Option (List Token) :=
  if s.toList.all isAllowed then (Scanner.start s.toList).scanAll (s.toList.length + 1) else none

end Provenance.Yaml
