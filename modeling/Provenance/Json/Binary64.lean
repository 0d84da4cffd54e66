import Provenance.Text.Decimal

/-!
# Binary floating-point numbers

A finite number of the IEEE 754 format `binary64` is a sign, a significand below `2^53` and an
exponent of two.  The three operations that reading a decimal fraction needs (a natural number, a
product, a quotient) are one function each, and all three round once: `roundRatio` takes the exact
ratio of two natural numbers to the nearest representable one, a tie to the even significand.

`shortest` goes the other way: the fewest decimal digits that are nearer to the number than to any
other representable one, and of those with equally many digits the nearest.
-/

namespace Provenance

/-- The finite number `± significand · 2 ^ exponent`.  Either the significand has all its 53 bits or
the exponent is the least one, so each number has one representation. -/
structure Binary64 where
  negative : Bool
  significand : Nat
  exponent : Int
  deriving Repr, DecidableEq

namespace Binary64

/-- A power of two. -/
def power (n : Nat) : Nat :=
  Nat.pow 2 n

/-- The exponent of the least representable positive number. -/
def leastExponent : Int := -1074

/-- The exponent of the greatest representable numbers. -/
def greatestExponent : Int := 971

/-- Zero, with its sign. -/
def zero (negative : Bool) : Binary64 :=
  ⟨negative, 0, leastExponent⟩

/-- Whether the number is zero, of either sign. -/
def isZero (x : Binary64) : Bool :=
  x.significand == 0

/-- The number with the opposite sign. -/
def neg (x : Binary64) : Binary64 :=
  { x with negative := !x.negative }

/-- The natural number nearest to a ratio, a tie to the even one. -/
def roundHalfEven (num den : Nat) : Nat :=
  let q := num / den
  let r := num % den
  if 2 * r < den then q
  else if den < 2 * r then q + 1
  else if q % 2 = 0 then q else q + 1

/-- A ratio times a power of two, as a ratio. -/
def scaled (num den : Nat) (e : Int) : Nat × Nat :=
  if 0 ≤ e then (num * power e.toNat, den) else (num, den * power (-e).toNat)

/-- The representable number nearest to a positive ratio, a tie to the even significand; `none` if
the ratio is beyond the greatest of them. -/
def roundRatio (num den : Nat) : Option Binary64 :=
  if num = 0 then some (zero false)
  else
    -- the ratio lies strictly between `2 ^ (e + 52)` and `2 ^ (e + 54)`
    let e : Int := (Nat.log2 num : Int) - Nat.log2 den - 53
    let (n, d) := scaled num den (-e)
    let e := max (if power 53 * d ≤ n then e + 1 else e) leastExponent
    let (n, d) := scaled num den (-e)
    let m := roundHalfEven n d
    let (m, e) := if m = power 53 then (power 52, e + 1) else (m, e)
    if e ≤ greatestExponent then some ⟨false, m, e⟩ else none

/-- The representable number nearest to a natural number. -/
def ofNat? (n : Nat) : Option Binary64 :=
  roundRatio n 1

/-- The magnitude of a number, as a ratio. -/
def magnitude (x : Binary64) : Nat × Nat :=
  scaled x.significand 1 x.exponent

/-- The product of two magnitudes, rounded; `none` on overflow. -/
def mul? (x y : Binary64) : Option Binary64 :=
  let (a, b) := x.magnitude
  let (c, d) := y.magnitude
  roundRatio (a * c) (b * d)

/-- The quotient of two magnitudes, rounded; `none` on overflow and for a zero divisor. -/
def div? (x y : Binary64) : Option Binary64 :=
  if y.isZero then none
  else
    let (a, b) := x.magnitude
    let (c, d) := y.magnitude
    roundRatio (a * d) (b * c)

/-! ## Shortest decimal digits -/

/-- A positive decimal number `digits · 10 ^ exponent` whose last digit is not zero. -/
structure Scientific where
  digits : Nat
  exponent : Int
  deriving Repr, DecidableEq

/-- Drop up to `limit` trailing zeros of the digits. -/
def Scientific.trimZeros : (limit : Nat) → Scientific → Scientific
  | 0, s => s
  | limit + 1, s =>
    if s.digits % 10 = 0 then trimZeros limit ⟨s.digits / 10, s.exponent + 1⟩ else s

/-- The order of magnitude `p` of a positive ratio, for which `10 ^ (p - 1) ≤ ratio < 10 ^ p`,
searched upwards from a lower bound. -/
def decimalOrder (num den : Nat) : (limit : Nat) → Int → Int
  | 0, p => p
  | limit + 1, p =>
    let below :=
      if 0 ≤ p then num < den * Decimal.power p.toNat else num * Decimal.power (-p).toNat < den
    if below then p else decimalOrder num den limit (p + 1)

/-- The decimal of `n` digits that reads back as `x` and is nearest to it, if there is one. -/
def withDigits? (x : Binary64) (order : Int) (n : Nat) : Option Scientific :=
  let (num, den) := x.magnitude
  -- everything is counted in units of a quarter of the last place, and of the decimal grid
  let step : Int := order - n
  let down := if x.significand = power 52 ∧ leastExponent < x.exponent then 1 else 2
  let (quarter, quarterDen) := scaled 1 4 x.exponent
  let grid (q : Nat) : Nat × Nat :=
    if 0 ≤ step then (q * Decimal.power step.toNat, 1) else (q, Decimal.power (-step).toNat)
  let readsBack (q : Nat) : Bool :=
    let (a, b) := grid q
    -- compare `a / b` with `num / den - down * quarter` and `num / den + 2 * quarter`
    let lhs := a * den * quarterDen
    let mid := num * b * quarterDen
    let unit := quarter * b * den
    if x.significand % 2 = 0 then mid ≤ lhs + down * unit && lhs ≤ mid + 2 * unit
    else mid < lhs + down * unit && lhs < mid + 2 * unit
  let (a, b) :=
    if 0 ≤ step then (num, den * Decimal.power step.toNat)
    else (num * Decimal.power (-step).toNat, den)
  let q := a / b
  let nearest := roundHalfEven a b
  let other := if nearest = q then q + 1 else q
  if readsBack nearest then some ⟨nearest, step⟩
  else if readsBack other then some ⟨other, step⟩
  else none

/-- The shortest decimal that reads back as the positive number `x`. -/
def shortest (x : Binary64) : Scientific :=
  let (num, den) := x.magnitude
  let order := decimalOrder num den 640 (-324)
  let found := (List.range' 1 17).findSome? (withDigits? x order)
  (found.getD ⟨num / den, 0⟩).trimZeros 20

end Binary64

end Provenance
