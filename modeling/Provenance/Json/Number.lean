import Provenance.Json.Binary64

/-!
# JSON numbers

A number in a JSON text is kept exactly if it is an integer of 64 bits, signed or unsigned, and as
a binary floating-point number otherwise.

The digits of a fraction are collected into a significand of 64 bits, which is then multiplied or
divided by a power of ten, with one rounding at each step.  A significand that would not fit is cut
short: in the integer part every further digit counts as a factor of ten, in the fraction it is
dropped.  So a long fraction may read as a neighbour of the nearest representable number.
-/

namespace Provenance.Json

/-- A JSON number: a natural number below `2 ^ 64`, the negative of a positive number up to
`2 ^ 63`, or a binary floating-point number. -/
inductive Number where
  | natural (n : Nat)
  | negative (n : Nat)
  | real (x : Binary64)
  deriving Repr, DecidableEq

namespace Number

/-- The number as an integer, unless it is a floating-point number. -/
def toInt? : Number → Option Int
  | natural n => some n
  | negative n => some (-n)
  | real _ => none

/-- The number of an integer of 64 bits. -/
def ofInt (i : Int) : Number :=
  if 0 ≤ i then natural i.toNat else negative (-i).toNat

/-! ## Reading -/

/-- A number as it is written: sign, digits of the integer part, digits of the fraction, and
exponent, the last two if there are any. -/
structure Literal where
  negative : Bool
  integer : List Char
  fraction : Option (List Char)
  exponent : Option (Bool × List Char)
  deriving Repr, DecidableEq

/-- Whether a digit can be appended to a significand of 64 bits. -/
def fits (significand digit : Nat) : Bool :=
  significand * 10 + digit < UInt64.size

/-- Append digits to a significand as long as they fit; the result also has the rest of the
digits. -/
def accumulate (significand : Nat) : List Char → Nat × List Char
  | [] => (significand, [])
  | c :: cs =>
    if fits significand (Decimal.digitValue c) then
      accumulate (significand * 10 + Decimal.digitValue c) cs
    else (significand, c :: cs)

/-- The representable number nearest to a power of ten; `none` beyond the greatest of them. -/
def powerOfTen (k : Nat) : Option Binary64 :=
  if k ≤ 308 then Binary64.ofNat? (Decimal.power k) else none

/-- Divide by `10 ^ k`, in steps that have a power of ten. -/
def divideByPower (x : Binary64) (k : Nat) : Option Binary64 :=
  if x.isZero then some x
  else if h : k ≤ 308 then do x.div? (← powerOfTen k)
  else do
    let x ← x.div? (← powerOfTen 308)
    divideByPower x (k - 308)
termination_by k

/-- The number `significand · 10 ^ exponent`, rounded at each step; `none` if it is too great. -/
def scaleByTen (significand : Nat) (exponent : Int) : Option Binary64 := do
  let x ← Binary64.ofNat? significand
  if exponent < 0 then divideByPower x (-exponent).toNat
  else if x.isZero then some x
  else x.mul? (← powerOfTen exponent.toNat)

/-- The greatest exponent that is taken literally; a number with a greater one is zero or too
great. -/
def greatestExponent : Nat := 2147483647

/-- The floating-point number that a literal denotes; `none` if it is too great. -/
def Literal.real (l : Literal) : Option Binary64 := do
  let (significand, left) := accumulate 0 l.integer
  let (significand, exponent) := match l.fraction with
    | none => (significand, (left.length : Int))
    | some ds =>
      let (s, unread) := accumulate significand ds
      (s, (left.length : Int) - (ds.length - unread.length : Nat))
  let x ← match l.exponent with
    | none => scaleByTen significand exponent
    | some (down, ds) =>
      let e := Decimal.value ds
      if greatestExponent < e then
        if significand ≠ 0 ∧ !down then none else some (Binary64.zero false)
      else scaleByTen significand (if down then exponent - e else exponent + e)
  some (if l.negative then x.neg else x)

/-- The number that a literal denotes; `none` if it is too great. -/
def Literal.value? (l : Literal) : Option Number :=
  match l.fraction, l.exponent with
  | none, none =>
    let n := Decimal.value l.integer
    if l.negative then
      if 0 < n ∧ n ≤ UInt64.size / 2 then some (.negative n) else l.real.map .real
    else if n < UInt64.size then some (.natural n) else l.real.map .real
  | _, _ => l.real.map .real

/-! ## Writing -/

/-- An integer with its sign, a plus sign before zero and positive numbers. -/
def signedDigits (i : Int) : List Char :=
  (if i < 0 then '-' else '+') :: Decimal.digits i.natAbs

/-- A positive decimal: positional while the point falls within sixteen digits before the last or
within five places before the first, scientific otherwise.  A whole number ends in `.0`. -/
def decimalText (s : Binary64.Scientific) : List Char :=
  let ds := Decimal.digits s.digits
  let point := ds.length + s.exponent
  if 0 ≤ s.exponent ∧ point ≤ 16 then
    ds ++ List.replicate s.exponent.toNat '0' ++ ['.', '0']
  else if 0 < point ∧ point ≤ 16 then
    ds.take point.toNat ++ '.' :: ds.drop point.toNat
  else if -5 < point ∧ point ≤ 0 then
    ['0', '.'] ++ List.replicate (-point).toNat '0' ++ ds
  else
    let mantissa := match ds with
      | [] => []
      | [d] => [d]
      | d :: rest => d :: '.' :: rest
    mantissa ++ 'e' :: signedDigits (point - 1)

/-- A floating-point number, by its shortest digits. -/
def realText (x : Binary64) : List Char :=
  let magnitude := if x.isZero then ['0', '.', '0'] else decimalText x.shortest
  if x.negative then '-' :: magnitude else magnitude

/-- A number as JSON text. -/
def write : Number → List Char
  | natural n => Decimal.digits n
  | negative n => '-' :: Decimal.digits n
  | real x => realText x

end Number

end Provenance.Json
