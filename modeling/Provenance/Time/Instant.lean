import Provenance.Text.Decimal
import Provenance.Time.Date

/-!
# Instants

A point in time is counted in seconds since 1970-01-01T00:00:00Z, as if every day had 86400 of
them, and nanoseconds.  Within a leap second the nanoseconds go on beyond one second, so that the
instant belongs to the second before and is still told apart from all others.

Years from -262143 to 262142 are representable.  An instant is written in universal time, with the
fraction of the second in as few groups of three digits as hold it.
-/

namespace Provenance

/-- A point in time. -/
structure Instant where
  second : Int
  nano : Nat
  deriving Repr, DecidableEq

namespace Instant

/-- The first day that has representable instants. -/
def firstDay : Int := Date.toDays ⟨-262143, 1, 1⟩

/-- The last day that has representable instants. -/
def lastDay : Int := Date.toDays ⟨262142, 12, 31⟩

/-- The seconds of a day. -/
def secondsPerDay : Int := 86400

/-- The nanoseconds of a second. -/
def nanosPerSecond : Nat := 1000000000

/-- Whether a count of seconds falls on a representable day. -/
def isRepresentable (second : Int) : Bool :=
  let day := second / secondsPerDay
  firstDay ≤ day && day ≤ lastDay

/-- The instant that is a number of milliseconds after 1970-01-01T00:00:00Z. -/
def ofMillis? (millis : Int) : Option Instant :=
  let second := millis / 1000
  if isRepresentable second then some ⟨second, (millis % 1000).toNat * 1000000⟩ else none

/-- The whole milliseconds since 1970-01-01T00:00:00Z. -/
def millis (t : Instant) : Int :=
  t.second * 1000 + t.nano / 1000000

/-! ## Writing -/

/-- A year: four digits, and a sign where four digits do not hold it. -/
def yearText (year : Int) : List Char :=
  if 0 ≤ year ∧ year ≤ 9999 then Decimal.padded 4 year.toNat
  else (if year < 0 then '-' else '+') :: Decimal.padded 4 year.natAbs

/-- The fraction of a second, in three, six or nine digits, or nothing if it is zero. -/
def fractionText (nano : Nat) : List Char :=
  if nano = 0 then []
  else if nano % 1000000 = 0 then '.' :: Decimal.padded 3 (nano / 1000000)
  else if nano % 1000 = 0 then '.' :: Decimal.padded 6 (nano / 1000)
  else '.' :: Decimal.padded 9 nano

/-- A date with hyphens. -/
def dateText (d : Date) : List Char :=
  yearText d.year ++ '-' :: Decimal.padded 2 d.month ++ '-' :: Decimal.padded 2 d.day

/-- The instant as text. -/
def toText (t : Instant) : String :=
  let date := Date.ofDays (t.second / secondsPerDay)
  let clock := (t.second % secondsPerDay).toNat
  let (second, nano) :=
    if nanosPerSecond ≤ t.nano then (clock % 60 + 1, t.nano - nanosPerSecond)
    else (clock % 60, t.nano)
  String.ofList (dateText date ++ 'T' :: Decimal.padded 2 (clock / 3600) ++
    ':' :: Decimal.padded 2 (clock / 60 % 60) ++ ':' :: Decimal.padded 2 second ++
    fractionText nano ++ ['Z'])

end Instant

end Provenance
