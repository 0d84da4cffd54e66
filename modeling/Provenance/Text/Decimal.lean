/-!
# Decimal notation

Numbers as decimal digits, most significant first.  `digits` writes a natural number without
leading zeros, `padded` with as many as fill a field, and `value` reads both back.
-/

namespace Provenance.Decimal

/-- A power of ten. -/
def power (n : Nat) : Nat :=
  Nat.pow 10 n

/-- The character of a digit below ten. -/
def digit (d : Nat) : Char :=
  Char.ofNat ('0'.toNat + d)

/-- What a digit counts. -/
def digitValue (c : Char) : Nat :=
  c.toNat - '0'.toNat

/-- The decimal digits of a number, without leading zeros. -/
def digits (n : Nat) : List Char :=
  if n < 10 then [digit n] else digits (n / 10) ++ [digit (n % 10)]

/-- The number that a list of decimal digits denotes. -/
def value (cs : List Char) : Nat :=
  cs.foldl (fun n c => n * 10 + digitValue c) 0

/-- The decimal digits of a number, with leading zeros up to a width. -/
def padded (width n : Nat) : List Char :=
  let ds := digits n
  List.replicate (width - ds.length) '0' ++ ds

/-- A number as text. -/
def text (n : Nat) : String :=
  String.ofList (digits n)

/-- An integer as text, with a sign in front of a negative one. -/
def intText (i : Int) : String :=
  String.ofList (if i < 0 then '-' :: digits i.natAbs else digits i.natAbs)

/-- The longest start of a text that consists of at most `limit` digits, and the rest. -/
def spanDigits : (limit : Nat) → List Char → List Char × List Char
  | 0, cs => ([], cs)
  | _ + 1, [] => ([], [])
  | limit + 1, c :: cs =>
    if c.isDigit then
      let (ds, rest) := spanDigits limit cs
      (c :: ds, rest)
    else ([], c :: cs)

/-- All digits at the start of a text, and the rest. -/
def spanAllDigits (cs : List Char) : List Char × List Char :=
  cs.span (·.isDigit)

end Provenance.Decimal
