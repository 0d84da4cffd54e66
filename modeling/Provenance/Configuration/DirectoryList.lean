import Provenance.Text.Blank

/-!
# Directory lists

The value of an input property lists directories with commas between them.  A comma inside a
directory is escaped by a backslash; a backslash in front of any other character stands for itself.
Blanks around an entry do not count, and an entry with nothing else in it is skipped.
-/

namespace Provenance.DirectoryList

open Text

/-! ## Reading -/

/-- Put a character in front of the first entry. -/
def extendFirst (c : Char) : (entries : List (List Char)) → List (List Char)
  | [] => [[c]]
  | entry :: entries => (c :: entry) :: entries

/-- The entries of a list as they are written, escaped commas resolved. -/
def entries : List Char → List (List Char)
  | [] => [[]]
  | '\\' :: ',' :: cs => extendFirst ',' (entries cs)
  | c :: cs => if c = ',' then [] :: entries cs else extendFirst c (entries cs)

/-- The directories that a value lists. -/
def split (value : String) : List String :=
  (((entries value.toList).map trimChars).filter (!·.isEmpty)).map String.ofList

/-! ## Writing -/

/-- An entry with its commas escaped. -/
def escape : List Char → List Char
  | [] => []
  | c :: cs => if c = ',' then '\\' :: ',' :: escape cs else c :: escape cs

/-- A list of directories as one value. -/
def join (directories : List String) : String :=
  String.ofList ([','].intercalate (directories.map fun d => escape d.toList))

end Provenance.DirectoryList
