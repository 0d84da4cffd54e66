import Provenance.Json

/-!
# Run identifiers

A run is identified by 128 bits, written as 32 hexadecimal digits in five groups.  Four spellings
are read: the groups with hyphens between them, the digits without hyphens, and the hyphenated form
in braces or behind `urn:uuid:`.  Digits and the URN prefix are read in either case.
-/

namespace Provenance

/-- The identifier of a run. -/
structure RunId where
  bits : BitVec 128
  deriving Repr, DecidableEq

namespace RunId

/-- The identifier with the given number, modulo `2 ^ 128`. -/
def ofNat (n : Nat) : RunId :=
  ⟨BitVec.ofNat 128 n⟩

/-- A random identifier made of 128 random bits: the version number is four and the variant that of
the standard. -/
def random (n : Nat) : RunId :=
  let b := BitVec.ofNat 128 n
  let version := BitVec.ofNat 128 (0xF <<< 76)
  let variant := BitVec.ofNat 128 (0x3 <<< 62)
  ⟨(b &&& ~~~(version ||| variant)) ||| BitVec.ofNat 128 (0x4 <<< 76 ||| 0x2 <<< 62)⟩

/-! ## Writing -/

/-- The last `width` hexadecimal digits of a number. -/
def hexDigits : (width : Nat) → Nat → List Char
  | 0, _ => []
  | width + 1, n => hexDigits width (n / 16) ++ [Json.hexDigit (n % 16)]

/-- The digits in groups of 8, 4, 4, 4 and 12, with hyphens between them. -/
def hyphenate (ds : List Char) : List Char :=
  ds.take 8 ++ '-' :: (ds.drop 8).take 4 ++ '-' :: (ds.drop 12).take 4 ++
    '-' :: (ds.drop 16).take 4 ++ '-' :: ds.drop 20

/-- The identifier as text. -/
def toText (id : RunId) : String :=
  String.ofList (hyphenate (hexDigits 32 id.bits.toNat))

/-! ## Reading -/

/-- What a hexadecimal digit of either case counts. -/
def digitValue? (c : Char) : Option Nat :=
  if c.isDigit then some (c.toNat - '0'.toNat)
  else if 'a' ≤ c ∧ c ≤ 'f' then some (c.toNat - 'a'.toNat + 10)
  else if 'A' ≤ c ∧ c ≤ 'F' then some (c.toNat - 'A'.toNat + 10)
  else none

/-- The identifier of 32 hexadecimal digits. -/
def ofDigits? (ds : List Char) : Option RunId := do
  if ds.length ≠ 32 then none
  let values ← ds.mapM digitValue?
  some (ofNat (values.foldl (fun n d => n * 16 + d) 0))

/-- The digits of the hyphenated form. -/
def dropHyphens? (cs : List Char) : Option (List Char) :=
  let ds := cs.take 8 ++ (cs.drop 9).take 4 ++ (cs.drop 14).take 4 ++ (cs.drop 19).take 4 ++
    cs.drop 24
  if cs.length = 36 ∧ [8, 13, 18, 23].all (cs[·]? == some '-') then some ds else none

/-- The text inside braces. -/
def unbrace? (cs : List Char) : Option (List Char) :=
  match cs with
  | '{' :: rest => if rest.getLast? = some '}' then some rest.dropLast else none
  | _ => none

/-- The text behind the URN prefix. -/
def dropUrn? (cs : List Char) : Option (List Char) :=
  if (cs.take 9).map Char.toLower = ['u', 'r', 'n', ':', 'u', 'u', 'i', 'd', ':'] then
    some (cs.drop 9)
  else none

/-- The identifier that a text spells. -/
def ofText? (s : String) : Option RunId :=
  let cs := s.toList
  if cs.length = 32 then ofDigits? cs
  else if cs.length = 36 then dropHyphens? cs >>= ofDigits?
  else if cs.length = 38 then unbrace? cs >>= dropHyphens? >>= ofDigits?
  else if cs.length = 45 then dropUrn? cs >>= dropHyphens? >>= ofDigits?
  else none

end RunId

end Provenance
