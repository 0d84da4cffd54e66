import Provenance.Json.Binary64

/-!
# What plain scalars stand for

Where a document is read without knowing what to expect, a plain scalar stands for nothing, for a
truth value or for a number if it looks like one, and for its own text otherwise.  The rules are
those of the core schema: integers are decimal, hexadecimal, octal or binary; decimal digits behind
a leading zero are a text, as in a postal code; and so is a number too great to be represented.
-/

namespace Provenance.Yaml

/-- What a plain scalar stands for. -/
inductive Meaning where
  | nothing
  | truth (b : Bool)
  | integer (i : Int)
  | real
  | text
  deriving Repr, DecidableEq

namespace Meaning

/-! ## Integers -/

/-- What a digit of a base counts. -/
def digitValue? (base : Nat) (c : Char) : Option Nat :=
  let value? :=
    if c.isDigit then some (c.toNat - '0'.toNat)
    else if c.isAlpha then some (c.toLower.toNat - 'a'.toNat + 10)
    else none
  value?.filter (· < base)

/-- The number that digits of a base denote, at least one. -/
def natural? (base : Nat) (cs : List Char) : Option Nat :=
  if cs.isEmpty then none
  else (cs.mapM (digitValue? base)).map (·.foldl (fun n d => n * base + d) 0)

/-- The base that a text without its sign names. -/
def base? : List Char → Option (Nat × List Char)
  | '0' :: 'x' :: cs => some (16, cs)
  | '0' :: 'o' :: cs => some (8, cs)
  | '0' :: 'b' :: cs => some (2, cs)
  | _ => none

/-- A text without its sign, and whether the sign is a minus. -/
def splitSign : List Char → Bool × List Char
  | '-' :: cs => (true, cs)
  | '+' :: cs => (false, cs)
  | cs => (false, cs)

/-- The integer that a text with a named base denotes, if it has at most 128 bits. -/
def based? (cs : List Char) : Option Int := do
  let (negative, unsigned) := splitSign cs
  let (base, digits) ← base? unsigned
  let n ← natural? base digits
  if negative then if n ≤ Binary64.power 127 then some (-n) else none
  else if n < Binary64.power 128 then some n else none

/-- The integer that decimal digits denote. -/
def decimal? (cs : List Char) : Option Int := do
  let (negative, digits) := splitSign cs
  let n ← natural? 10 digits
  some (if negative then -n else n)

/-- Whether a text consists of decimal digits behind a leading zero. -/
def isPadded (cs : List Char) : Bool :=
  let (_, digits) := splitSign cs
  1 < digits.length && digits.head? == some '0' && digits.all (·.isDigit)

/-! ## Fractions -/

/-- Whether the number `digits · 10 ^ exponent` can be represented. -/
def isFinite (digits : Nat) (exponent : Int) : Bool :=
  let order := (Decimal.digits digits).length + exponent
  if digits = 0 ∨ order < 0 then true
  else if 400 < order then false
  else if 0 ≤ exponent then (Binary64.ofNat? (digits * Decimal.power exponent.toNat)).isSome
  else (Binary64.roundRatio digits (Decimal.power (-exponent).toNat)).isSome

/-- The exponent at the end of a decimal number, zero if there is none. -/
def exponent? : List Char → Option Int
  | [] => some 0
  | c :: cs => if c = 'e' ∨ c = 'E' then decimal? cs else none

/-- Whether a text is a decimal number that can be represented, possibly with a point and an
exponent. -/
def isDecimal (cs : List Char) : Bool :=
  let (_, unsigned) := splitSign cs
  let (whole, rest) := Decimal.spanAllDigits unsigned
  let (fraction, rest) := match rest with
    | '.' :: rest => Decimal.spanAllDigits rest
    | _ => ([], rest)
  let digits := whole ++ fraction
  match exponent? rest with
  | some e => !digits.isEmpty && isFinite (Decimal.value digits) (e - fraction.length)
  | none => false

/-- The texts that stand for infinite numbers and for no number. -/
def specialReals : List String := [
  ".inf", ".Inf", ".INF", "+.inf", "+.Inf", "+.INF", "-.inf", "-.Inf", "-.INF",
  ".nan", ".NaN", ".NAN"]

/-! ## All scalars -/

/-- The texts that stand for nothing, apart from the empty one. -/
def nothings : List String := ["~", "null", "Null", "NULL"]

/-- What a plain scalar stands for. -/
def of (s : String) : Meaning :=
  let cs := s.toList
  if cs.isEmpty || nothings.contains s then nothing
  else if ["true", "True", "TRUE"].contains s then truth true
  else if ["false", "False", "FALSE"].contains s then truth false
  else match based? cs with
    | some i => integer i
    | none =>
      if isPadded cs then text
      else if specialReals.contains s then real
      else if isDecimal cs then
        match decimal? cs with
        | some i => integer i
        | none => real
      else text

end Meaning

end Provenance.Yaml
