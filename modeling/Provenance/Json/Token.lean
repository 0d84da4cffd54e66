import Provenance.Json.Literal

/-!
# JSON tokens

A JSON text is a sequence of tokens with blanks between them.  The blanks of JSON are four ASCII
characters, so a text that begins with a byte order mark has no tokens.
-/

namespace Provenance.Json

/-- A token of a JSON text.  Words and numbers are atoms; a text literal is a token of its own,
since only it can be a key. -/
inductive Token where
  | openArray
  | closeArray
  | openObject
  | closeObject
  | comma
  | colon
  | text (value : Option String)
  | atom (value : Written)

/-- Whether a character separates tokens. -/
def isSpace (c : Char) : Bool :=
  c == ' ' || c == '\n' || c == '\t' || c == '\r'

/-- The token that a single character makes. -/
def punctuation? (c : Char) : Option Token :=
  match c with
  | '[' => some .openArray
  | ']' => some .closeArray
  | '{' => some .openObject
  | '}' => some .closeObject
  | ',' => some .comma
  | ':' => some .colon
  | _ => none

/-- The tokens of a text; `none` if a part of it is no token. -/
def tokens? : List Char → Option (List Token)
  | [] => some []
  | 't' :: 'r' :: 'u' :: 'e' :: rest => (tokens? rest).map (.atom (.bool true) :: ·)
  | 'f' :: 'a' :: 'l' :: 's' :: 'e' :: rest => (tokens? rest).map (.atom (.bool false) :: ·)
  | 'n' :: 'u' :: 'l' :: 'l' :: rest => (tokens? rest).map (.atom .null :: ·)
  | c :: cs =>
    if isSpace c then tokens? cs
    else if c = '"' then
      match h : takePieces cs with
      | none => none
      | some (pieces, rest) =>
        have := takePieces_length_lt h
        (tokens? rest).map (.text ((assemble pieces).map String.ofList) :: ·)
    else if isNumberChar c then do
      let literal ← numberLiteral? (c :: cs.takeWhile isNumberChar)
      (tokens? (cs.dropWhile isNumberChar)).map (.atom (.number literal.value?) :: ·)
    else do
      let token ← punctuation? c
      (tokens? cs).map (token :: ·)
termination_by cs => cs.length
decreasing_by
  all_goals simp only [List.length_cons]
  all_goals first
    | omega
    | exact Nat.lt_succ_of_le (List.dropWhile_suffix _).length_le

end Provenance.Json
