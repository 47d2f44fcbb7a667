/-!
# Calendar dates

Dates of the Gregorian calendar, carried on to years before it and before year one, in the range of years
that the library keeps. `dayNumber` counts days from the first of January 1970; `next?` and `previous?`
step by one day; `ofDayNumber?` finds the date of a day.
-/

namespace SchemaSql

/-- The earliest year of a date. -/
def Date.firstYear : Int := -262143

/-- The latest year of a date. -/
def Date.lastYear : Int := 262142

/-- A year has a 29th of February. -/
def Date.isLeap (year : Int) : Bool :=
  year % 4 = 0 && (year % 100 ≠ 0 || year % 400 = 0)

/-- The number of days of a month. -/
def Date.monthLength (year : Int) (month : Nat) : Nat :=
  match month with
  | 2 => if isLeap year then 29 else 28
  | 4 => 30
  | 6 => 30
  | 9 => 30
  | 11 => 30
  | _ => 31

/-- **A date of the calendar.** -/
structure Date where
  year : Int
  month : Nat
  day : Nat
  first_le : Date.firstYear ≤ year
  le_last : year ≤ Date.lastYear
  month_pos : 1 ≤ month
  month_le : month ≤ 12
  day_pos : 1 ≤ day
  day_le : day ≤ Date.monthLength year month
deriving DecidableEq

namespace Date

/-- **The date with a year, month and day**, if the calendar has it. -/
def of? (year : Int) (month day : Nat) : Option Date :=
  if h : (firstYear ≤ year ∧ year ≤ lastYear) ∧ (1 ≤ month ∧ month ≤ 12) ∧ 1 ≤ day ∧ day ≤ monthLength year month then
    some ⟨year, month, day, h.1.1, h.1.2, h.2.1.1, h.2.1.2, h.2.2.1, h.2.2.2⟩
  else none

/-- A date is the one with its year, month and day. -/
theorem of?_self (d : Date) : of? d.year d.month d.day = some d :=
  dif_pos ⟨⟨d.first_le, d.le_last⟩, ⟨d.month_pos, d.month_le⟩, d.day_pos, d.day_le⟩

/-- The date one day later. -/
def next? (d : Date) : Option Date :=
  if d.day < monthLength d.year d.month then of? d.year d.month (d.day + 1)
  else if d.month < 12 then of? d.year (d.month + 1) 1
  else of? (d.year + 1) 1 1

/-- The date one day earlier. -/
def previous? (d : Date) : Option Date :=
  if 1 < d.day then of? d.year d.month (d.day - 1)
  else if 1 < d.month then of? d.year (d.month - 1) (monthLength d.year (d.month - 1))
  else of? (d.year - 1) 12 31

/-! ## Days as numbers -/

/-- The days of the years from zero up to the beginning of a year, negative before year zero. -/
def daysBeforeYear (year : Int) : Int :=
  365 * year + (year + 3) / 4 - (year + 99) / 100 + (year + 399) / 400

/-- The days of a year before the beginning of a month. -/
def daysBeforeMonth (year : Int) : Nat → Nat
  | 0 => 0
  | 1 => 0
  | m + 1 => daysBeforeMonth year m + monthLength year m

/-- The days from the beginning of year zero to the first of January 1970. -/
def epoch : Int := 719528

/-- **The number of a date's day**, counted from the first of January 1970. -/
def dayNumber (d : Date) : Int :=
  daysBeforeYear d.year + daysBeforeMonth d.year d.month + (d.day - 1) - epoch

/-- The month and the day of the month at a number of days after the beginning of `month`, with the given
number of months left to look through. -/
def monthAt (year : Int) : Nat → Nat → Nat → Nat × Nat
  | 0, month, days => (month, days + 1)
  | left + 1, month, days =>
    if days < monthLength year month then (month, days + 1)
    else monthAt year left (month + 1) (days - monthLength year month)

/-- The year of a day that is counted from the beginning of year zero. -/
def yearAt (day : Int) : Int :=
  let y := day * 400 / 146097
  if day < daysBeforeYear y then y - 1 else if daysBeforeYear (y + 1) ≤ day then y + 1 else y

/-- **The date of the day with a number**, if its year is in range. -/
def ofDayNumber? (n : Int) : Option Date :=
  let year := yearAt (n + epoch)
  let (month, day) := monthAt year 11 1 (n + epoch - daysBeforeYear year).toNat
  of? year month day

end Date

end SchemaSql
