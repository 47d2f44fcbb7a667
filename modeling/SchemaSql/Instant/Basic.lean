import SchemaSql.Instant.Date

/-!
# Instants

An instant is a date with a time of day in universal time, to the nanosecond. Nanoseconds of a whole
second or more stand for a leap second after the second, so that `23:59:60` and `00:00:00` of the next
day stay apart. Clocks insert leap seconds at the end of a minute, and so do texts and timestamps; a time
may have one after any second nevertheless.
-/

namespace SchemaSql

/-- The nanoseconds of one second. -/
def TimeOfDay.secondLength : Nat := 1000000000

/-- **A time of day.** In a leap second, `second` stays that before it and `nanos` goes on. -/
structure TimeOfDay where
  hour : Nat
  minute : Nat
  second : Nat
  nanos : Nat
  hour_lt : hour < 24
  minute_lt : minute < 60
  second_lt : second < 60
  nanos_lt : nanos < 2 * TimeOfDay.secondLength
deriving DecidableEq

/-- **An instant of universal time.** -/
structure Instant where
  date : Date
  time : TimeOfDay
deriving DecidableEq

namespace TimeOfDay

/-- The time with an hour, minute, second and nanosecond, if there is one. -/
def of? (hour minute second nanos : Nat) : Option TimeOfDay :=
  if h : hour < 24 ∧ minute < 60 ∧ second < 60 ∧ nanos < 2 * secondLength then
    some ⟨hour, minute, second, nanos, h.1, h.2.1, h.2.2.1, h.2.2.2⟩
  else none

/-- **A time that a clock has**: outside of leap seconds, or in one at the end of a minute. -/
def OnClock (t : TimeOfDay) : Prop :=
  t.nanos < secondLength ∨ t.second = 59

instance (t : TimeOfDay) : Decidable t.OnClock :=
  inferInstanceAs (Decidable (_ ∨ _))

/-- **The time that a clock shows**, with second 60 for the leap second. -/
def ofClock? (hour minute second nanos : Nat) : Option TimeOfDay :=
  if second = 60 then of? hour minute 59 (secondLength + nanos)
  else if nanos < secondLength then of? hour minute second nanos
  else none

/-- The second that a clock shows, in a leap second the next one. -/
def clockSecond (t : TimeOfDay) : Nat :=
  if t.nanos < secondLength then t.second else t.second + 1

/-- The nanoseconds of the second that a clock shows. -/
def clockNanos (t : TimeOfDay) : Nat :=
  if t.nanos < secondLength then t.nanos else t.nanos - secondLength

/-- A time is the one with its hour, minute, second and nanoseconds. -/
theorem of?_self (t : TimeOfDay) : of? t.hour t.minute t.second t.nanos = some t :=
  dif_pos ⟨t.hour_lt, t.minute_lt, t.second_lt, t.nanos_lt⟩

end TimeOfDay

namespace Instant

/-- **An instant a number of minutes earlier**, for less than a day in either direction. The second is
kept, a leap second too. -/
def minutesEarlier? (t : Instant) (minutes : Int) : Option Instant :=
  let m : Int := t.time.hour * 60 + t.time.minute - minutes
  let date? := if m < 0 then t.date.previous? else if 1440 ≤ m then t.date.next? else some t.date
  let clock := (m % 1440).toNat
  match date?, TimeOfDay.of? (clock / 60) (clock % 60) t.time.second t.time.nanos with
  | some date, some time => some ⟨date, time⟩
  | _, _ => none

/-- **The instant at a number of seconds after the beginning of 1970** and nanoseconds within the
second, if a clock has it. -/
def ofTimestamp? (seconds : Int) (nanos : Nat) : Option Instant :=
  let s := (seconds % 86400).toNat
  match Date.ofDayNumber? (seconds / 86400), TimeOfDay.of? (s / 3600) (s / 60 % 60) (s % 60) nanos with
  | some date, some time => if time.OnClock then some ⟨date, time⟩ else none
  | _, _ => none

/-- **The seconds from the beginning of 1970 to an instant**, without those that leap. -/
def timestamp (t : Instant) : Int :=
  t.date.dayNumber * 86400 + (t.time.hour * 3600 + t.time.minute * 60 + t.time.second : Nat)

end Instant

end SchemaSql
