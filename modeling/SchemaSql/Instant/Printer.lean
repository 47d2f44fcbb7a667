import SchemaSql.Instant.Basic
import SchemaSql.Decimal.Numeral

/-!
# The text of an instant

Date and time with a `T` between them, as many fraction digits as the nanoseconds need, in groups of
three, and a suffix for universal time. Years from 0 to 9999 have four digits; others have a sign and at
least four.
-/

namespace SchemaSql.Instant

/-- The digits of a year. -/
def yearText (year : Int) : List Char :=
  if 0 ≤ year ∧ year ≤ 9999 then Decimal.padded 4 year.natAbs
  else (if year < 0 then '-' else '+') :: Decimal.padded 4 year.natAbs

/-- The fraction of a second, none for a whole second. -/
def fractionText (nanos : Nat) : List Char :=
  if nanos = 0 then []
  else if nanos % 1000000 = 0 then '.' :: Decimal.padded 3 (nanos / 1000000)
  else if nanos % 1000 = 0 then '.' :: Decimal.padded 6 (nanos / 1000)
  else '.' :: Decimal.padded 9 nanos

/-- A date with hyphens. -/
def dateText (d : Date) : List Char :=
  yearText d.year ++ '-' :: Decimal.padded 2 d.month ++ '-' :: Decimal.padded 2 d.day

/-- A time of day with colons, as a clock shows it. -/
def timeText (t : TimeOfDay) : List Char :=
  Decimal.padded 2 t.hour ++ ':' :: Decimal.padded 2 t.minute ++ ':' :: Decimal.padded 2 t.clockSecond ++
    fractionText t.clockNanos

/-- An instant before a suffix. -/
def textWith (suffix : List Char) (t : Instant) : List Char :=
  dateText t.date ++ 'T' :: timeText t.time ++ suffix

/-- **The text in which instants are kept**, with the offset `+00:00`. -/
def text (t : Instant) : List Char :=
  t.textWith ['+', '0', '0', ':', '0', '0']

/-- The text in which messages show an instant, with the offset `Z`. -/
def shortText (t : Instant) : List Char :=
  t.textWith ['Z']

end SchemaSql.Instant
