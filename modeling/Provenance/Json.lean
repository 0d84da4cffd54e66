import Provenance.Dictionary
import Provenance.Json.Number

/-!
# JSON values

A JSON value keeps the order of an object's fields, since a record is written with its fields in a
fixed order.  A value that stands for data of its own, such as an extra run facet, is *canonical*:
every object in it is a dictionary, so its text depends on what it holds and not on how it was put
together.

Text is written in the compact form, without any blank between tokens, and nothing but quotes,
backslashes and characters below U+0020 is escaped.
-/

namespace Provenance

/-- A JSON value. -/
inductive Json where
  | null
  | bool (b : Bool)
  | number (n : Json.Number)
  | text (s : String)
  | array (items : List Json)
  | object (fields : List (String × Json))
  deriving Inhabited

namespace Json

/-! ## Canonical values -/

mutual

/-- The value with every object in it listed by increasing key; the last of several fields with one
key stays. -/
def canonical : Json → Json
  | array items => array (canonicalItems items)
  | object fields => object (Entries.ofSettings (canonicalFields fields))
  | null => null
  | bool b => bool b
  | number n => number n
  | text s => text s

/-- `canonical` for each item of an array. -/
def canonicalItems : List Json → List Json
  | [] => []
  | v :: vs => canonical v :: canonicalItems vs

/-- `canonical` for each value of an object. -/
def canonicalFields : List (String × Json) → List (String × Json)
  | [] => []
  | (k, v) :: fs => (k, canonical v) :: canonicalFields fs

end

/-! ## Text of values -/

/-- The hexadecimal digit of a number below sixteen, in small letters. -/
def hexDigit (n : Nat) : Char :=
  if n < 10 then Char.ofNat ('0'.toNat + n) else Char.ofNat ('a'.toNat + (n - 10))

/-- A character inside a JSON text literal. -/
def escapeChar (c : Char) : List Char :=
  if c = '"' then ['\\', '"']
  else if c = '\\' then ['\\', '\\']
  else if c = '\x08' then ['\\', 'b']
  else if c = '\x0c' then ['\\', 'f']
  else if c = '\n' then ['\\', 'n']
  else if c = '\r' then ['\\', 'r']
  else if c = '\t' then ['\\', 't']
  else if c.toNat < 0x20 then
    ['\\', 'u', '0', '0', hexDigit (c.toNat / 16), hexDigit (c.toNat % 16)]
  else [c]

/-- A JSON text literal. -/
def writeText (s : String) : List Char :=
  '"' :: s.toList.flatMap escapeChar ++ ['"']

mutual

/-- The compact text of a value. -/
def write : Json → List Char
  | null => ['n', 'u', 'l', 'l']
  | bool true => ['t', 'r', 'u', 'e']
  | bool false => ['f', 'a', 'l', 's', 'e']
  | number n => n.write
  | text s => writeText s
  | array [] => ['[', ']']
  | array (v :: vs) => '[' :: (write v ++ writeItems vs)
  | object [] => ['{', '}']
  | object ((k, v) :: fs) => '{' :: (writeText k ++ ':' :: (write v ++ writeFields fs))

/-- The items after the first one, each behind a comma, and the closing bracket. -/
def writeItems : List Json → List Char
  | [] => [']']
  | v :: vs => ',' :: (write v ++ writeItems vs)

/-- The fields after the first one, each behind a comma, and the closing brace. -/
def writeFields : List (String × Json) → List Char
  | [] => ['}']
  | (k, v) :: fs => ',' :: (writeText k ++ ':' :: (write v ++ writeFields fs))

end

/-- The compact text of a value. -/
def render (v : Json) : String :=
  String.ofList v.write

end Json

end Provenance
