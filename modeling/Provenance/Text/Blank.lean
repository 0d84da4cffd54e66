import Provenance.Text.CodePoints

/-!
# Blanks and trimming

A *blank* is a character with the Unicode property `White_Space`.  Every reader of the library
trims by it: locations, directory lists, configuration values and environment variables.  The
property is wider than the ASCII blanks (it holds of the no-break space and of the ideographic
space) and narrower than what looks empty (the zero-width space is not blank).
-/

namespace Provenance.Text

/-- The code points with the property `White_Space`. -/
def blankRuns : List CodePoints.Run := [
  ⟨0x0009, 0x000D, 1⟩, ⟨0x0020, 0x0020, 1⟩, ⟨0x0085, 0x0085, 1⟩, ⟨0x00A0, 0x00A0, 1⟩,
  ⟨0x1680, 0x1680, 1⟩, ⟨0x2000, 0x200A, 1⟩, ⟨0x2028, 0x2029, 1⟩, ⟨0x202F, 0x202F, 1⟩,
  ⟨0x205F, 0x205F, 1⟩, ⟨0x3000, 0x3000, 1⟩]

/-- Whether a character is blank. -/
def isBlank (c : Char) : Bool :=
  CodePoints.contains blankRuns c.toNat

/-- Drop the trailing characters that satisfy `p`. -/
def dropTrailing (p : Char → Bool) (cs : List Char) : List Char :=
  (cs.reverse.dropWhile p).reverse

/-- Drop the blanks at both ends of a list of characters. -/
def trimChars (cs : List Char) : List Char :=
  dropTrailing isBlank (cs.dropWhile isBlank)

/-- Drop the blanks at both ends of a text. -/
def trim (s : String) : String :=
  String.ofList (trimChars s.toList)

/-- Whether a text holds nothing but blanks. -/
def isBlankText (s : String) : Bool :=
  s.toList.all isBlank

end Provenance.Text
