import SchemaSql.Proofs.Instant.Calendar
import SchemaSql.Proofs.Instant.RoundTrip

/-!
# One instant in many spellings

A date in a year of four digits and a time of day, which may be a leap second and may have a fraction of any length,
stand for one instant of universal time, whether they are spelled with a blank or a `T` between them, and without a
suffix or with one for universal time. Before the suffix of another offset they stand for the instant that lies so many
minutes earlier (`Instant.Spelling.spellings_agree`), in another month or year if need be. The spellings without a
suffix are left to the loose readers, since the strict one asks for an offset.
-/

namespace SchemaSql

namespace Instant

open Decimal

/-- **A date and a time as they are spelled.** The clock may show second 60, and the fraction of the second may have any
number of digits or none. -/
structure Spelling where
  date : Date
  hour : Nat
  minute : Nat
  second : Nat
  fraction : List Char
  year_nonneg : 0 ≤ date.year
  year_le : date.year ≤ 9999
  hour_lt : hour < 24
  minute_lt : minute < 60
  second_le : second ≤ 60
  isDigit_of_mem : ∀ c ∈ fraction, c.isDigit = true

/-- The spelling of an offset, east or west of universal time. -/
def offsetText (east : Bool) (hours minutes : Nat) : List Char :=
  (if east then '+' else '-') :: (padded 2 hours ++ ':' :: padded 2 minutes)

/-- The minutes that a clock at an offset is ahead of universal time. -/
def offsetMinutes (east : Bool) (hours minutes : Nat) : Int :=
  if east then hours * 60 + minutes else -(hours * 60 + minutes)

/-- **An offset is read back.** -/
theorem offset_offsetText (east : Bool) {hours minutes : Nat} (hh : hours ≤ 23) (hm : minutes ≤ 59) :
    offset (offsetText east hours minutes) = some (offsetMinutes east hours minutes, []) := by
  have hhours : ∀ rest, number 2 2 (padded 2 hours ++ rest) = some (hours, rest) :=
    number_padded (by decide) (by decide) (Nat.lt_of_le_of_lt hh (by decide))
  have hminutes : number 2 2 (padded 2 minutes) = some (minutes, []) := by
    have h : number 2 2 (padded 2 minutes ++ []) = some (minutes, []) :=
      number_padded (by decide) (by decide) (Nat.lt_of_le_of_lt hm (by decide)) []
    rwa [List.append_nil] at h
  cases east <;>
    simp [offsetText, offsetMinutes, offset, hhours, hminutes, mark_cons, hh, hm]

namespace Spelling

variable (s : Spelling) {separator : Char} {suffix : List Char}

/-- The time of day in universal time, in the leap second after second 59 if the clock shows second 60. -/
def time : TimeOfDay :=
  if h : s.second = 60 then
    { hour := s.hour, minute := s.minute, second := 59, nanos := TimeOfDay.secondLength + nanosOf s.fraction,
      hour_lt := s.hour_lt, minute_lt := s.minute_lt, second_lt := by decide,
      nanos_lt := by
        have hnanos := nanosOf_lt s.isDigit_of_mem
        omega }
  else
    { hour := s.hour, minute := s.minute, second := s.second, nanos := nanosOf s.fraction,
      hour_lt := s.hour_lt, minute_lt := s.minute_lt,
      second_lt := by
        have hsecond := s.second_le
        omega
      nanos_lt := by
        have hnanos := nanosOf_lt s.isDigit_of_mem
        omega }

/-- **The instant that is spelled**, read as universal time. -/
def instant : Instant :=
  ⟨s.date, s.time⟩

/-- The parts that are spelled. -/
def fields : Fields :=
  ⟨s.date.year, s.date.month, s.date.day, s.hour, s.minute, s.second, nanosOf s.fraction⟩

/-- The fraction behind a point, if there is one. -/
def fractionText : List Char :=
  if s.fraction = [] then [] else '.' :: s.fraction

/-- **The text of a spelling**, with a separator between date and time and a suffix. -/
def text (separator : Char) (suffix : List Char) : List Char :=
  s.fields.text (padded 4 s.date.year.natAbs) separator (s.fractionText ++ suffix)

/-! ## Parts -/

theorem twoDigits_fields : s.fields.TwoDigits :=
  Fields.twoDigits_of_date s.date s.hour_lt s.minute_lt s.second_le

/-- The parts stand for the instant. -/
theorem instant?_fields : s.fields.instant? = some s.instant := by
  have htime : TimeOfDay.ofClock? s.hour s.minute s.second (nanosOf s.fraction) = some s.time := by
    unfold TimeOfDay.ofClock? time
    split
    · exact TimeOfDay.of?_eq_some_iff.2 ⟨rfl, rfl, rfl, rfl⟩
    · rw [if_pos (nanosOf_lt s.isDigit_of_mem)]
      exact TimeOfDay.of?_eq_some_iff.2 ⟨rfl, rfl, rfl, rfl⟩
  simp only [Fields.instant?, fields, Date.of?_self, htime, instant]

theorem natAbs_year_lt : s.date.year.natAbs < Nat.pow 10 4 :=
  natAbs_lt_of_plainYear ⟨s.year_nonneg, s.year_le⟩

theorem optionalFraction_fractionText (h : ∀ c ∈ suffix.head?, c.isDigit = false ∧ c ≠ '.') :
    optionalFraction (s.fractionText ++ suffix) = some (s.fields.nanos, suffix) := by
  unfold fractionText fields
  split
  · rename_i hnil
    rw [hnil]
    exact optionalFraction_nil fun c hc => (h c hc).2
  · rename_i hne
    exact fraction_digits hne s.isDigit_of_mem fun c hc => (h c hc).1

theorem looseYear_text (rest : List Char) :
    looseYear (padded 4 s.date.year.natAbs ++ '-' :: rest) = some (s.fields.year, '-' :: rest) := by
  rw [looseYear_padded s.natAbs_year_lt, Int.natAbs_of_nonneg s.year_nonneg]
  rfl

/-! ## Readers -/

/-- **Behind an offset** the instant is moved back. -/
theorem parse?_offset {minutes : Int} {u : Instant} (hseparator : ∀ cs, strictSeparator (separator :: cs) = some cs)
    (hsuffix : offset suffix = some (minutes, [])) (hhead : ∀ c ∈ suffix.head?, c.isDigit = false ∧ c ≠ '.')
    (hu : s.instant.minutesEarlier? minutes = some u) : parse? (s.text separator suffix) = some u := by
  have hstrict : parseStrict? (s.text separator suffix) = some u := by
    rw [text, parseStrict?_text s.twoDigits_fields s.natAbs_year_lt (Int.natAbs_of_nonneg s.year_nonneg).symm hseparator
      (s.optionalFraction_fractionText hhead) hsuffix, instant?_fields, Option.bind_some, hu]
  rw [parse?, hstrict]
  rfl

/-- **Without a suffix** the instant is read by the loose reader for its separator. -/
theorem parse?_naive (hseparator : separator ∈ [' ', 'T']) : parse? (s.text separator []) = some s.instant := by
  have hrest : optionalFraction (s.fractionText ++ []) = some (s.fields.nanos, []) :=
    s.optionalFraction_fractionText nofun
  have hstrict : parseStrict? (s.text separator []) = none := by
    refine parseStrict?_text_eq_none s.twoDigits_fields s.natAbs_year_lt (Int.natAbs_of_nonneg s.year_nonneg).symm ?_
      hrest rfl
    rcases List.mem_pair.1 hseparator with rfl | rfl <;> exact fun _ => rfl
  have hloose {read : List Char → Option (List Char)}
      (hread : ∀ cs : List Char, (∀ c ∈ cs.head?, Text.isBlank c = false) → read (separator :: cs) = some cs) :
      parseLoose? read (s.text separator []) = some s.instant := by
    rw [text, parseLoose?_text s.twoDigits_fields s.looseYear_text hread hrest, instant?_fields]
    rfl
  rcases List.mem_pair.1 hseparator with rfl | rfl
  · have hblanks : parseLoose? (fun cs => some (Text.dropBlanks cs)) (s.text ' ' []) = some s.instant := by
      refine hloose fun cs hcs => ?_
      have hblank : Text.Blank [' '] := by decide
      rw [← List.singleton_append, Text.dropBlanks_append hblank, Text.dropBlanks_eq_self hcs]
    rw [parse?, hstrict, hblanks]
    rfl
  · have hblanks : parseLoose? (fun cs => some (Text.dropBlanks cs)) (s.text 'T' []) = none :=
      parseLoose?_blanks_eq_none s.twoDigits_fields s.looseYear_text
    rw [parse?, hstrict, hblanks, hloose fun _ _ => rfl]
    rfl

/-- **All spellings of a date and a time stand for one instant**, with either separator and without a suffix or with one
for universal time. With another offset they stand for the one instant that lies so many minutes earlier, at the same
point of its second. -/
theorem spellings_agree :
    (∀ separator ∈ [' ', 'T'], ∀ suffix ∈ [[], ['Z'], universal],
      parse? (s.text separator suffix) = some s.instant) ∧
    ∀ separator ∈ [' ', 'T'], ∀ (east : Bool) (hours minutes : Nat), hours ≤ 23 → minutes ≤ 59 →
      ∃ u, parse? (s.text separator (offsetText east hours minutes)) = some u ∧
        u.Earlier s.instant (offsetMinutes east hours minutes) ∧
        ∀ v : Instant, v.Earlier s.instant (offsetMinutes east hours minutes) → v = u := by
  have hstrict : ∀ separator ∈ [' ', 'T'], ∀ cs, strictSeparator (separator :: cs) = some cs := by
    intro separator hseparator
    rcases List.mem_pair.1 hseparator with rfl | rfl <;> exact fun _ => rfl
  constructor
  · intro separator hseparator suffix hsuffix
    simp only [List.mem_cons, List.not_mem_nil, or_false] at hsuffix
    rcases hsuffix with rfl | rfl | rfl
    · exact s.parse?_naive hseparator
    · exact s.parse?_offset (hstrict separator hseparator) rfl (fun c hc => by cases hc; decide)
        s.instant.minutesEarlier?_zero
    · exact s.parse?_offset (hstrict separator hseparator) offset_universal (fun c hc => by cases hc; decide)
        s.instant.minutesEarlier?_zero
  · intro separator hseparator east hours minutes hh hm
    have hyear := And.intro s.year_nonneg s.year_le
    obtain ⟨u, hu⟩ := s.instant.exists_minutesEarlier? (Int.lt_of_lt_of_le (by decide) hyear.1)
      (Int.lt_of_le_of_lt hyear.2 (by decide)) (offsetMinutes east hours minutes)
    have hearlier : u.Earlier s.instant (offsetMinutes east hours minutes) := by
      refine earlier_of_minutesEarlier? ?_ ?_ hu <;> unfold offsetMinutes <;> split <;> omega
    refine ⟨u, ?_, hearlier, fun v hv => hv.eq hearlier⟩
    refine s.parse?_offset (hstrict separator hseparator) (offset_offsetText east hh hm) (fun c hc => ?_) hu
    cases hc
    cases east <;> decide

/-- A leap second at half past midnight of the first of March, an hour and a half ahead of universal time: the last
minute before eleven of the leap day, still in the leap second, with ten digits of which nine count. -/
theorem spellings_agree_march :
    let s : Spelling :=
      { date := ⟨2024, 3, 1, by decide, by decide, by decide, by decide, by decide, by decide⟩
        hour := 0, minute := 29, second := 60, fraction := "1234567899".toList
        year_nonneg := by decide, year_le := by decide, hour_lt := by decide, minute_lt := by decide
        second_le := by decide, isDigit_of_mem := List.all_eq_true.1 (by decide) }
    let u : Instant :=
      ⟨⟨2024, 2, 29, by decide, by decide, by decide, by decide, by decide, by decide⟩,
        ⟨22, 59, 59, 1123456789, by decide, by decide, by decide, by decide⟩⟩
    parse? (s.text ' ' []) = parse? (s.text 'T' ['Z']) ∧
      parse? "2024-03-01T00:29:60.1234567899+01:30".toList = some u := by
  intro s u
  obtain ⟨hsame, hearlier⟩ := s.spellings_agree
  obtain ⟨v, hv, -, hunique⟩ := hearlier 'T' (by decide) true 1 30 (by decide) (by decide)
  refine ⟨(hsame ' ' (by decide) [] (by decide)).trans (hsame 'T' (by decide) ['Z'] (by decide)).symm, ?_⟩
  have hu : u.Earlier s.instant (offsetMinutes true 1 30) := ⟨by decide, by decide⟩
  have htext : s.text 'T' (offsetText true 1 30) = "2024-03-01T00:29:60.1234567899+01:30".toList := by decide
  rw [← htext, hunique u hu]
  exact hv

end Spelling

end Instant

end SchemaSql
