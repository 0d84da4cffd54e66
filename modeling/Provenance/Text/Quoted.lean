import Provenance.Text.Printable

/-!
# Quoted texts

Diagnostic descriptions show a text between double quotes.  Quotes and backslashes are preceded by
a backslash, the blanks that would break the line have their usual short names, and every other
character that cannot be shown as it is appears by its code point in hexadecimal.
-/

namespace Provenance.Text

/-- A character inside a quoted text. -/
def quoteChar (c : Char) : List Char :=
  if c = '\x00' then ['\\', '0']
  else if c = '\t' then ['\\', 't']
  else if c = '\n' then ['\\', 'n']
  else if c = '\r' then ['\\', 'r']
  else if c = '"' ∨ c = '\\' then ['\\', c]
  else if isPrintable c then [c]
  else ['\\', 'u', '{'] ++ Nat.toDigits 16 c.toNat ++ ['}']

/-- A text between double quotes. -/
def quoted (s : String) : String :=
  String.ofList ('"' :: s.toList.flatMap quoteChar ++ ['"'])

/-- A text that may be absent: the quoted text as the content of `Some`, or `None`. -/
def quotedOption : Option String → String
  | none => "None"
  | some s => "Some(" ++ quoted s ++ ")"

end Provenance.Text
