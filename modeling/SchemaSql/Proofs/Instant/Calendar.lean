import Mathlib.Order.Monotone.Basic
import SchemaSql.Instant.Basic

/-!
# Days and seconds by number

A date is determined by the number of its day (`Date.eq_of_dayNumber_eq`), and the steps to the next date and to the
previous one are steps of one day, across the ends of months, of leap years and of years. So an instant is determined by
its seconds since the beginning of 1970 and its nanoseconds, and moving it back by minutes moves it back on the count of
seconds (`Instant.earlier_of_minutesEarlier?`). The nanoseconds stay, so that a leap second stays one.
-/

namespace SchemaSql

namespace Date

variable {d e : Date} {year : Int} {month day : Nat}

theorem of?_eq_some_iff : of? year month day = some d ↔ d.year = year ∧ d.month = month ∧ d.day = day := by
  constructor
  · intro h
    obtain ⟨_, h⟩ := Option.dite_none_right_eq_some.1 h
    cases h
    exact ⟨rfl, rfl, rfl⟩
  · rintro ⟨rfl, rfl, rfl⟩
    exact of?_self d

/-! ## Lengths of months and years -/

theorem le_monthLength (year : Int) (month : Nat) : 28 ≤ monthLength year month := by
  unfold monthLength
  split
  · split <;> decide
  all_goals decide

theorem daysBeforeMonth_succ (h : 1 ≤ month) :
    daysBeforeMonth year (month + 1) = daysBeforeMonth year month + monthLength year month := by
  cases month with
  | zero => exact absurd h (by decide)
  | succ m => rfl

theorem daysBeforeMonth_mono {m n : Nat} (h : m ≤ n) : daysBeforeMonth year m ≤ daysBeforeMonth year n := by
  refine monotone_nat_of_le_succ (fun k => ?_) h
  cases k with
  | zero => exact Nat.le_refl 0
  | succ k => exact Nat.le_add_right _ _

/-- **A year is as long as its months**, which are those before a thirteenth. -/
theorem daysBeforeYear_succ (year : Int) :
    daysBeforeYear (year + 1) = daysBeforeYear year + daysBeforeMonth year 13 := by
  have hmonths : daysBeforeMonth year 13 = if isLeap year then 366 else 365 := by
    simp only [daysBeforeMonth, monthLength]
    split <;> rfl
  rw [hmonths, daysBeforeYear, daysBeforeYear]
  simp only [isLeap, Bool.and_eq_true, Bool.or_eq_true, decide_eq_true_eq]
  split <;> omega

theorem daysBeforeYear_mono {y z : Int} (h : y ≤ z) : daysBeforeYear y ≤ daysBeforeYear z := by
  unfold daysBeforeYear
  omega

/-- The days of a date's year up to the end of its day are days of its months. -/
theorem day_bounds (d : Date) : 1 ≤ d.day ∧
    daysBeforeMonth d.year d.month + d.day ≤ daysBeforeMonth d.year (d.month + 1) ∧
    daysBeforeMonth d.year (d.month + 1) ≤ daysBeforeMonth d.year 13 := by
  have hmonth := d.month_le
  have hday := d.day_le
  refine ⟨d.day_pos, ?_, daysBeforeMonth_mono (by omega)⟩
  rw [daysBeforeMonth_succ d.month_pos]
  omega

/-! ## One day -/

theorem dayNumber_of? (h : of? year month day = some e) :
    e.dayNumber = daysBeforeYear year + daysBeforeMonth year month + (day - 1) - epoch := by
  obtain ⟨rfl, rfl, rfl⟩ := of?_eq_some_iff.1 h
  rfl

/-- **The next date** is one day later. -/
theorem dayNumber_next? (h : d.next? = some e) : e.dayNumber = d.dayNumber + 1 := by
  have hlast := d.day_le
  have hmonth := d.month_le
  unfold next? at h
  split at h
  · rw [dayNumber_of? h, dayNumber]
    omega
  · split at h
    · rw [dayNumber_of? h, daysBeforeMonth_succ d.month_pos, dayNumber]
      omega
    · have hdecember : d.month = 12 := by omega
      have hend : daysBeforeMonth d.year 13 = daysBeforeMonth d.year d.month + monthLength d.year d.month := by
        rw [← daysBeforeMonth_succ d.month_pos, hdecember]
      rw [dayNumber_of? h, daysBeforeYear_succ, hend, daysBeforeMonth, dayNumber]
      omega

/-- **The previous date** is one day earlier. -/
theorem dayNumber_previous? (h : d.previous? = some e) : e.dayNumber = d.dayNumber - 1 := by
  have hfirst := d.day_pos
  have hmonth := d.month_pos
  unfold previous? at h
  split at h
  · rw [dayNumber_of? h, dayNumber]
    omega
  · split at h
    · have hend : daysBeforeMonth d.year d.month =
          daysBeforeMonth d.year (d.month - 1) + monthLength d.year (d.month - 1) := by
        rw [← daysBeforeMonth_succ (by omega), Nat.sub_add_cancel hmonth]
      rw [dayNumber_of? h, dayNumber, hend]
      omega
    · have hjanuary : d.month = 1 := by omega
      have hyear := daysBeforeYear_succ (d.year - 1)
      have hend : daysBeforeMonth (d.year - 1) 13 = daysBeforeMonth (d.year - 1) 12 + 31 := rfl
      rw [Int.sub_add_cancel] at hyear
      rw [dayNumber_of? h, dayNumber, hjanuary, hyear, hend, daysBeforeMonth]
      omega

theorem exists_next? (h : d.year < lastYear) : ∃ e, d.next? = some e := by
  have hfirst := d.first_le
  have hlength := le_monthLength d.year (d.month + 1)
  unfold next?
  split
  · exact ⟨_, dif_pos ⟨⟨hfirst, d.le_last⟩, ⟨d.month_pos, d.month_le⟩, by omega, by omega⟩⟩
  · split
    · exact ⟨_, dif_pos ⟨⟨hfirst, d.le_last⟩, ⟨by omega, by omega⟩, by decide, by omega⟩⟩
    · exact ⟨_, dif_pos ⟨⟨by omega, by omega⟩, by decide, by decide, (by decide : 1 ≤ 31)⟩⟩

theorem exists_previous? (h : firstYear < d.year) : ∃ e, d.previous? = some e := by
  have hlast := d.le_last
  have hmonth := d.month_le
  have hday := d.day_le
  have hlength := le_monthLength d.year (d.month - 1)
  unfold previous?
  split
  · exact ⟨_, dif_pos ⟨⟨d.first_le, hlast⟩, ⟨d.month_pos, hmonth⟩, by omega, by omega⟩⟩
  · split
    · exact ⟨_, dif_pos ⟨⟨d.first_le, hlast⟩, ⟨by omega, by omega⟩, by omega, Nat.le_refl _⟩⟩
    · exact ⟨_, dif_pos ⟨⟨by omega, by omega⟩, by decide, by decide, Nat.le_refl 31⟩⟩

/-! ## Dates by number -/

theorem dayNumber_lt_of_year_lt (h : d.year < e.year) : d.dayNumber < e.dayNumber := by
  obtain ⟨hd, hdmonth, hdyear⟩ := d.day_bounds
  obtain ⟨he, -, -⟩ := e.day_bounds
  have hyear : daysBeforeYear d.year + daysBeforeMonth d.year 13 ≤ daysBeforeYear e.year := by
    rw [← daysBeforeYear_succ]
    exact daysBeforeYear_mono h
  rw [dayNumber, dayNumber]
  omega

theorem dayNumber_lt_of_month_lt (hyear : d.year = e.year) (h : d.month < e.month) : d.dayNumber < e.dayNumber := by
  obtain ⟨hd, hdmonth, -⟩ := d.day_bounds
  obtain ⟨he, -, -⟩ := e.day_bounds
  have hmonth : daysBeforeMonth d.year (d.month + 1) ≤ daysBeforeMonth d.year e.month := daysBeforeMonth_mono h
  rw [dayNumber, dayNumber, ← hyear]
  omega

/-- **A date is determined by the number of its day.** -/
theorem eq_of_dayNumber_eq (h : d.dayNumber = e.dayNumber) : d = e := by
  have hyear : d.year = e.year := by
    apply le_antisymm <;> apply not_lt.1 <;> intro hlt
    · exact (dayNumber_lt_of_year_lt hlt).ne' h
    · exact (dayNumber_lt_of_year_lt hlt).ne h
  have hmonth : d.month = e.month := by
    apply le_antisymm <;> apply not_lt.1 <;> intro hlt
    · exact (dayNumber_lt_of_month_lt hyear.symm hlt).ne' h
    · exact (dayNumber_lt_of_month_lt hyear hlt).ne h
  have hday : d.day = e.day := by
    rw [dayNumber, dayNumber, hyear, hmonth] at h
    have := d.day_pos
    have := e.day_pos
    omega
  have hself := of?_self d
  rw [hyear, hmonth, hday, of?_self] at hself
  exact (Option.some.inj hself).symm

/-- The first of January 1970 is the day with number zero, and two leap days lie between two leap years. -/
example : (of? 1970 1 1).map dayNumber = some 0 ∧ (of? 2000 2 29).map dayNumber = some 11016 := by decide

end Date

namespace TimeOfDay

theorem of?_eq_some_iff {hour minute second nanos : Nat} {t : TimeOfDay} : of? hour minute second nanos = some t ↔
    t.hour = hour ∧ t.minute = minute ∧ t.second = second ∧ t.nanos = nanos := by
  constructor
  · intro h
    obtain ⟨_, h⟩ := Option.dite_none_right_eq_some.1 h
    cases h
    exact ⟨rfl, rfl, rfl, rfl⟩
  · rintro ⟨rfl, rfl, rfl, rfl⟩
    exact of?_self t

/-- Every minute of the day has the second of a time, a leap second too. -/
theorem exists_of? (t : TimeOfDay) {clock : Nat} (h : clock < 1440) :
    ∃ u, of? (clock / 60) (clock % 60) t.second t.nanos = some u :=
  ⟨_, dif_pos ⟨by omega, Nat.mod_lt _ (by decide), t.second_lt, t.nanos_lt⟩⟩

end TimeOfDay

namespace Instant

variable {t u : Instant} {minutes : Int}

/-- **An instant is determined by its seconds and nanoseconds.** -/
theorem eq_of_timestamp_eq (h : t.timestamp = u.timestamp) (hnanos : t.time.nanos = u.time.nanos) : t = u := by
  obtain ⟨d, a⟩ := t
  obtain ⟨e, b⟩ := u
  have hhour := And.intro a.hour_lt b.hour_lt
  have hminute := And.intro a.minute_lt b.minute_lt
  have hsecond := And.intro a.second_lt b.second_lt
  simp only [timestamp] at h hnanos
  have hdate : d = e := Date.eq_of_dayNumber_eq (by omega)
  subst hdate
  have htime : b.hour = a.hour ∧ b.minute = a.minute ∧ b.second = a.second ∧ b.nanos = a.nanos := by omega
  have hself := TimeOfDay.of?_eq_some_iff.2 htime
  rw [TimeOfDay.of?_self] at hself
  rw [Option.some.inj hself]

/-- **An instant that lies minutes before another one** on the count of seconds, at the same point of its second. -/
structure Earlier (u t : Instant) (minutes : Int) : Prop where
  timestamp : u.timestamp = t.timestamp - 60 * minutes
  nanos : u.time.nanos = t.time.nanos

/-- There is one such instant at most. -/
theorem Earlier.eq {v : Instant} (hu : u.Earlier t minutes) (hv : v.Earlier t minutes) : u = v :=
  eq_of_timestamp_eq (hu.timestamp.trans hv.timestamp.symm) (hu.nanos.trans hv.nanos.symm)

/-- **Moving an instant back** by less than a day leads to the instant that lies so many minutes before. -/
theorem earlier_of_minutesEarlier? (hlow : -1440 < minutes) (hhigh : minutes < 1440)
    (h : t.minutesEarlier? minutes = some u) : u.Earlier t minutes := by
  have hhour := t.time.hour_lt
  have hminute := t.time.minute_lt
  simp only [minutesEarlier?] at h
  split at h
  · rename_i date time hdate htime
    cases h
    obtain ⟨hh, hm, hs, hn⟩ := TimeOfDay.of?_eq_some_iff.1 htime
    refine ⟨?_, hn⟩
    simp only [timestamp]
    -- the minutes of the day end below zero, above a day, or within it
    split at hdate
    · have hday := Date.dayNumber_previous? hdate
      omega
    · split at hdate
      · have hday := Date.dayNumber_next? hdate
        omega
      · cases hdate
        omega
  · cases h

/-- An instant can be moved back, unless it lies in the first or in the last year. -/
theorem exists_minutesEarlier? (hfirst : Date.firstYear < t.date.year) (hlast : t.date.year < Date.lastYear)
    (minutes : Int) : ∃ u, t.minutesEarlier? minutes = some u := by
  have hdate : ∃ date, (if (t.time.hour * 60 + t.time.minute - minutes : Int) < 0 then t.date.previous?
      else if 1440 ≤ (t.time.hour * 60 + t.time.minute - minutes : Int) then t.date.next? else some t.date) =
        some date := by
    split
    · exact Date.exists_previous? hfirst
    · split
      · exact Date.exists_next? hlast
      · exact ⟨t.date, rfl⟩
  obtain ⟨date, hdate⟩ := hdate
  have hclock : ((t.time.hour * 60 + t.time.minute - minutes : Int) % 1440).toNat < 1440 := by omega
  obtain ⟨time, htime⟩ := t.time.exists_of? hclock
  refine ⟨⟨date, time⟩, ?_⟩
  simp only [minutesEarlier?, hdate, htime]

end Instant

end SchemaSql
