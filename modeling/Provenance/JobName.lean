import Provenance.Text.Blank
import Provenance.Text.Case

/-!
# Job names

An application has a name for people, such as `My ETL Job`; its jobs are reported under a name made
of small words with underscores between them, such as `my_etl_job`.

The name is read once, from one end to the other.  A word ends at a blank, a hyphen or an
underscore.  It also ends in front of a capital: behind a small letter or a digit, and behind
another capital if a small letter follows, so that an acronym ends before the word that comes next.
For that the reader looks at the characters around the capital as they are written, while the word
that it has read so far is in small letters already.
-/

namespace Provenance.JobName

open Text

/-- The name of a job whose application has no name, or none with a word in it. -/
def unknown : String := "unknown"

/-- Whether a character separates runs. -/
def isSeparator (c : Char) : Bool :=
  isBlank c || c == '-' || c == '_'

/-- Whether a word begins at `c`, between the characters in front of it and behind it. -/
def beginsWord (before c : Char) (behind : Option Char) : Bool :=
  isUpper c && (isLower before || before.isDigit || (isUpper before && behind.any isLower))

/-- How far a name has been read. -/
structure Reading where
  /-- The words that have ended, the latest first. -/
  words : List (List Char)
  /-- What has been read of a word that has not ended, the latest character first. -/
  current : List Char

/-- The character in front of a position, unless the position is the first one. -/
def charBefore? (name : Array Char) : (position : Nat) → Option Char
  | 0 => none
  | i + 1 => name[i]?

namespace Reading

/-- Nothing has been read. -/
def start : Reading := ⟨[], []⟩

/-- End the word that is being read, if there is one. -/
def endWord (r : Reading) : Reading :=
  if r.current.isEmpty then r else ⟨r.current.reverse :: r.words, []⟩

/-- Add a character to the word that is being read, in small letters. -/
def extend (r : Reading) (c : Char) : Reading :=
  { r with current := (toLower c).reverse ++ r.current }

/-- Read a character of the name at its position. -/
def next (name : Array Char) (r : Reading) (t : Char × Nat) : Reading :=
  let (c, i) := t
  if isSeparator c then r.endWord
  else if !r.current.isEmpty && (charBefore? name i).any (beginsWord · c name[i + 1]?) then
    r.endWord.extend c
  else r.extend c

end Reading

/-- The words of a name, in small letters. -/
def smallWords (name : List Char) : List (List Char) :=
  (name.zipIdx.foldl (Reading.next name.toArray) .start).endWord.words.reverse

/-- The job name of an application name. -/
def derive : (appName : Option String) → String
  | none => unknown
  | some name =>
    match smallWords name.toList with
    | [] => unknown
    | words => String.ofList (['_'].intercalate words)

end Provenance.JobName
