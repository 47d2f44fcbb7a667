import SchemaSql.Proofs.Instant.Parts

/-!
# Instants read back

The text in which an instant is kept is what a clock shows at it, and is read back as the instant that is shown, to the
nanosecond, if its year has four digits and no sign (`parse?_text`). That is the instant itself, in a leap second at the
end of a minute too; a leap second after another second is shown as the next second (`Instant.shown`). The strict
spelling knows no other years, and the loose ones know no offset, so the text of any other instant is not read at all
(`parse?_text_eq_none`).
-/

namespace SchemaSql

namespace TimeOfDay

variable (t : TimeOfDay)

theorem clockSecond_le : t.clockSecond ≤ 60 := by
  have hsecond := t.second_lt
  unfold clockSecond
  split <;> omega

theorem clockNanos_lt : t.clockNanos < secondLength := by
  have hnanos := t.nanos_lt
  unfold clockNanos
  split <;> omega

/-- **The time that is read off a clock.** A leap second within a minute looks like the second after it. -/
def shown : TimeOfDay :=
  if h : t.OnClock then t
  else
    { t with
      second := t.second + 1
      nanos := t.nanos - secondLength
      second_lt := by
        have hsecond := t.second_lt
        have hlast := (not_or.1 h).2
        omega
      nanos_lt := by
        have hnanos := t.nanos_lt
        omega }

/-- The time that is read off a clock is shown as the time itself is. -/
theorem clock_shown : t.shown.clockSecond = t.clockSecond ∧ t.shown.clockNanos = t.clockNanos := by
  unfold shown
  split
  · exact ⟨rfl, rfl⟩
  · rename_i hclock
    have hnanos : ¬ t.nanos < secondLength := (not_or.1 hclock).1
    have hrest : t.nanos - secondLength < secondLength := by
      have hbound := t.nanos_lt
      omega
    simp only [clockSecond, clockNanos, if_pos hrest, if_neg hnanos, and_self]

/-- **What a clock shows is read off it.** -/
theorem ofClock?_clock : ofClock? t.hour t.minute t.clockSecond t.clockNanos = some t.shown := by
  have hsecond := t.second_lt
  unfold shown clockSecond clockNanos ofClock?
  by_cases hnanos : t.nanos < secondLength
  · rw [if_pos hnanos, if_pos hnanos, if_neg (by omega), if_pos hnanos, dif_pos (.inl hnanos)]
    exact of?_self t
  · rw [if_neg hnanos, if_neg hnanos]
    by_cases hlast : t.second = 59
    · have hsum : secondLength + (t.nanos - secondLength) = t.nanos := by omega
      rw [if_pos (by omega), dif_pos (.inr hlast), hsum, ← hlast]
      exact of?_self t
    · have hrest : t.nanos - secondLength < secondLength := by
        have hbound := t.nanos_lt
        omega
      have hclock : ¬ t.OnClock := not_or.2 ⟨hnanos, hlast⟩
      rw [if_neg (by omega), if_pos hrest, dif_neg hclock]
      exact of?_self { t with second := t.second + 1, nanos := t.nanos - secondLength, second_lt := _, nanos_lt := _ }

end TimeOfDay

theorem Date.monthLength_le (year : Int) (month : Nat) : monthLength year month ≤ 31 := by
  unfold monthLength
  split
  · split <;> decide
  all_goals decide

namespace Instant

open Decimal

/-! ## Calendar and clock -/

/-- Two digits are enough for a month, a day, an hour, a minute and a second. -/
theorem Fields.twoDigits_of_date (d : Date) {hour minute second nanos : Nat} (hhour : hour < 24) (hminute : minute < 60)
    (hsecond : second ≤ 60) : TwoDigits ⟨d.year, d.month, d.day, hour, minute, second, nanos⟩ := by
  have hmonth := d.month_le
  have hday := Nat.le_trans d.day_le (Date.monthLength_le d.year d.month)
  constructor <;> simp only [Nat.pow_eq] <;> omega

/-- The parts of an instant's date and time, as calendar and clock show them. -/
def fields (t : Instant) : Fields :=
  ⟨t.date.year, t.date.month, t.date.day, t.time.hour, t.time.minute, t.time.clockSecond, t.time.clockNanos⟩

theorem twoDigits_fields (t : Instant) : t.fields.TwoDigits :=
  Fields.twoDigits_of_date t.date t.time.hour_lt t.time.minute_lt t.time.clockSecond_le

/-- **The instant that is read off a clock.** -/
def shown (t : Instant) : Instant :=
  ⟨t.date, t.time.shown⟩

/-- An instant and the one that a clock shows at it have one text. -/
theorem text_shown (t : Instant) : t.shown.text = t.text := by
  obtain ⟨hsecond, hnanos⟩ := t.time.clock_shown
  have hhour : t.time.shown.hour = t.time.hour ∧ t.time.shown.minute = t.time.minute := by
    unfold TimeOfDay.shown
    split <;> exact ⟨rfl, rfl⟩
  simp only [text, textWith, timeText, shown, hhour, hsecond, hnanos]

theorem instant?_fields (t : Instant) : t.fields.instant? = some t.shown := by
  simp only [fields, Fields.instant?, Date.of?_self, TimeOfDay.ofClock?_clock, shown]

/-- No minutes earlier is the same instant. -/
theorem minutesEarlier?_zero (t : Instant) : t.minutesEarlier? 0 = some t := by
  have hhour := t.time.hour_lt
  have hminute := t.time.minute_lt
  have hm : (t.time.hour * 60 + t.time.minute - 0 : Int) = (t.time.hour * 60 + t.time.minute : Nat) := by omega
  have hclock : ((t.time.hour * 60 + t.time.minute : Nat) % 1440 : Int).toNat = t.time.hour * 60 + t.time.minute := by
    omega
  have hdiv : (t.time.hour * 60 + t.time.minute) / 60 = t.time.hour := by omega
  have hmod : (t.time.hour * 60 + t.time.minute) % 60 = t.time.minute := by omega
  simp only [minutesEarlier?, hm, hclock, hdiv, hmod, TimeOfDay.of?_self]
  rw [if_neg (by omega), if_neg (by omega)]

/-! ## Years of four digits -/

/-- The offset that stands behind an instant. -/
def universal : List Char := ['+', '0', '0', ':', '0', '0']

theorem offset_universal : offset universal = some (0, []) := rfl

/-- The text of an instant, by its parts. -/
theorem text_eq (t : Instant) :
    t.text = t.fields.text (yearText t.date.year) 'T' (fractionText t.time.clockNanos ++ universal) := by
  simp only [text, textWith, dateText, timeText, universal, Fields.text, fields, List.append_assoc, List.cons_append]

/-- The fraction before the offset. -/
theorem optionalFraction_universal (t : Instant) :
    optionalFraction (fractionText t.time.clockNanos ++ universal) = some (t.fields.nanos, universal) :=
  optionalFraction_fractionText t.time.clockNanos_lt fun c hc => by cases hc; decide

/-- A year of four digits without a sign. -/
def PlainYear (t : Instant) : Prop :=
  0 ≤ t.date.year ∧ t.date.year ≤ 9999

instance (t : Instant) : Decidable t.PlainYear :=
  inferInstanceAs (Decidable (_ ∧ _))

theorem natAbs_lt_of_plainYear {year : Int} (h : 0 ≤ year ∧ year ≤ 9999) : year.natAbs < Nat.pow 10 4 := by
  rw [show Nat.pow 10 4 = 10000 from rfl]
  omega

/-- **An instant is read back from its text** as a clock shows it, if its year has four digits and no sign. -/
theorem parse?_text {t : Instant} (h : t.PlainYear) : parse? t.text = some t.shown := by
  have hyear := natAbs_lt_of_plainYear h
  have hyearText : yearText t.date.year = padded 4 t.date.year.natAbs := if_pos h
  have hstrict : parseStrict? t.text = some t.shown := by
    rw [text_eq, hyearText, parseStrict?_text t.twoDigits_fields hyear (Int.natAbs_of_nonneg h.1).symm (fun _ => rfl)
      t.optionalFraction_universal offset_universal, instant?_fields, Option.bind_some, minutesEarlier?_zero]
  rw [parse?, hstrict]
  rfl

/-! ## Other years -/

/-- Digits are taken up to the first other character. -/
theorem number_all {least : Nat} {ds rest : List Char} (hd : ∀ c ∈ ds, c.isDigit = true)
    (hr : ∀ c ∈ rest.head?, c.isDigit = false) (hl : least ≤ ds.length) :
    number least (ds ++ rest).length (ds ++ rest) = some (ofDigits ds, rest) := by
  have hspan := spanDigits_append hd hr
  have htake : (ds ++ rest).takeWhile Char.isDigit = ds := congrArg Prod.fst hspan
  simp only [number, List.take_length, htake, if_neg (Nat.not_lt.2 hl), List.drop_left]

/-- A year with a sign is read in the loose spellings. -/
theorem looseYear_yearText {t : Instant} (h : ¬ t.PlainYear) (rest : List Char) :
    looseYear (yearText t.date.year ++ '-' :: rest) = some (t.date.year, '-' :: rest) := by
  have hdigits : ∀ c ∈ padded 4 t.date.year.natAbs, c.isDigit = true := fun _ hc => isDigit_of_mem_padded hc
  have hlength : 1 ≤ (padded 4 t.date.year.natAbs).length := List.length_pos_iff.2 (padded_ne_nil _ _)
  have hhyphen : ∀ c ∈ ('-' :: rest).head?, c.isDigit = false := fun c hc => by cases hc; rfl
  have hnumber := number_all hdigits hhyphen hlength
  rw [ofDigits_padded] at hnumber
  have hyearText : yearText t.date.year =
      (if t.date.year < 0 then '-' else '+') :: padded 4 t.date.year.natAbs := if_neg h
  rw [hyearText]
  by_cases hneg : t.date.year < 0
  · rw [if_pos hneg, List.cons_append, looseYear, Text.dropBlanks_cons rfl]
    simp only [hnumber, Option.map_some, Option.some.injEq, Prod.mk.injEq, and_true]
    omega
  · rw [if_neg hneg, List.cons_append, looseYear, Text.dropBlanks_cons rfl]
    simp only [hnumber, Option.map_some, Option.some.injEq, Prod.mk.injEq, and_true]
    omega

/-- **An instant is not read back from its text** if its year has a sign. -/
theorem parse?_text_eq_none {t : Instant} (h : ¬ t.PlainYear) : parse? t.text = none := by
  -- the strict spelling starts with a digit
  have hstrict : parseStrict? t.text = none := by
    have hnone : number 4 4 t.text = none := by
      apply number_eq_none (by decide)
      intro c hc
      rw [text_eq, show yearText t.date.year = _ from if_neg h] at hc
      cases hc
      split <;> rfl
    rw [parseStrict?, strictFields, hnone]
    rfl
  -- with blanks before the time no hour is found
  have hblanks : parseLoose? (fun cs => some (Text.dropBlanks cs)) t.text = none := by
    rw [text_eq, parseLoose?_blanks_eq_none t.twoDigits_fields (looseYear_yearText h)]
  -- with a mark before the time the offset is left over
  have hmark : parseLoose? (mark 'T') t.text = none := by
    rw [text_eq, parseLoose?_text t.twoDigits_fields (looseYear_yearText h) (fun _ _ => rfl)
      t.optionalFraction_universal]
    rfl
  rw [parse?, hstrict, hblanks, hmark]
  rfl

end Instant

end SchemaSql
