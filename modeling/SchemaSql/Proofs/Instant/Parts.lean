import Mathlib.Algebra.Group.Nat.Defs
import SchemaSql.Instant.Parser
import SchemaSql.Instant.Printer
import SchemaSql.Proofs.Text.Trimming

/-!
# Dates and times read part by part

Padded numbers and fractions are read back, whatever follows them. The nanoseconds of a fraction are its value cut off
behind the ninth digit (`Instant.fraction_digits`), for any number of digits. So a date and a time with two digits for
each part are read back in the strict spelling and in the loose ones (`Instant.parseStrict?_text`,
`Instant.parseLoose?_text`).
-/

namespace SchemaSql

namespace Decimal

theorem length_padded {w n : Nat} (hw : 0 < w) (h : n < Nat.pow 10 w) : (padded w n).length = w := by
  have hle : (digits n).length ≤ w := (Nat.length_toDigits_le_iff (by decide) hw).2 h
  simp only [padded, List.length_append, List.length_replicate]
  omega

theorem isDigit_of_mem_padded {w n : Nat} {c : Char} (h : c ∈ padded w n) : c.isDigit = true := by
  rcases List.mem_append.1 h with h | h
  · rw [(List.mem_replicate.1 h).2]
    rfl
  · exact isDigit_of_mem_digits h

/-- **Zeros in front do not count.** -/
theorem ofDigits_padded (w n : Nat) : ofDigits (padded w n) = n := by
  rw [padded, ofDigits, Nat.ofDigitChars_append, Nat.ofDigitChars_replicate_zero, Nat.mul_zero]
  exact ofDigits_digits n

theorem padded_ne_nil (w n : Nat) : padded w n ≠ [] :=
  fun h => digits_ne_nil n (List.append_eq_nil_iff.1 h).2

/-- A padded number starts with a digit. -/
theorem isDigit_head?_padded (w n : Nat) (rest : List Char) : ∀ c ∈ (padded w n ++ rest).head?, c.isDigit = true := by
  intro c hc
  rw [List.head?_append_of_ne_nil _ (padded_ne_nil w n)] at hc
  exact isDigit_of_mem_padded (List.mem_of_head? hc)

/-- No blanks are dropped in front of a padded number. -/
theorem dropBlanks_padded (w n : Nat) (rest : List Char) :
    Text.dropBlanks (padded w n ++ rest) = padded w n ++ rest :=
  Text.dropBlanks_eq_self fun c hc => Text.isBlank_of_isDigit (isDigit_head?_padded w n rest c hc)

/-! ## Values of digits -/

theorem ofDigits_append (ds es : List Char) : ofDigits (ds ++ es) = ofDigits ds * 10 ^ es.length + ofDigits es := by
  rw [ofDigits, Nat.ofDigitChars_append, Nat.ofDigitChars_eq_ofDigitChars_zero, Nat.mul_comm]
  rfl

theorem ofDigits_singleton (c : Char) : ofDigits [c] = c.toNat - '0'.toNat := by
  rw [ofDigits, Nat.ofDigitChars_cons, Nat.ofDigitChars_nil, Nat.mul_zero, Nat.zero_add]

theorem ofDigits_lt {ds : List Char} (h : ∀ c ∈ ds, c.isDigit = true) : ofDigits ds < 10 ^ ds.length := by
  induction ds with
  | nil => decide
  | cons c ds ih =>
    obtain ⟨hc, hds⟩ := List.forall_mem_cons.1 h
    have hlow : c.toNat ≤ 57 := UInt32.le_iff_toNat_le.1 (of_decide_eq_true (Bool.and_eq_true_iff.1 hc).2)
    have hfirst : ofDigits [c] = c.toNat - 48 := ofDigits_singleton c
    have hrest := ih hds
    have hsplit := ofDigits_append [c] ds
    rw [hfirst] at hsplit
    have hbound : (c.toNat - 48) * 10 ^ ds.length ≤ 9 * 10 ^ ds.length := Nat.mul_le_mul_right _ (by omega)
    rw [List.length_cons, Nat.pow_succ, ← List.singleton_append, hsplit]
    omega

end Decimal

namespace Instant

open Decimal

/-! ## Numbers and marks -/

/-- **A padded number is read back**, whatever follows it. -/
theorem number_padded {least w n : Nat} (hl : least ≤ w) (hw : 0 < w) (h : n < Nat.pow 10 w) (rest : List Char) :
    number least w (padded w n ++ rest) = some (n, rest) := by
  have hlength := length_padded hw h
  have htake : (padded w n ++ rest).take w = padded w n := List.take_left' hlength
  have hdrop : (padded w n ++ rest).drop w = rest := List.drop_left' hlength
  have hall : (padded w n).takeWhile Char.isDigit = padded w n := by
    rw [← List.append_nil (padded w n), List.takeWhile_append_of_pos fun _ hc => isDigit_of_mem_padded hc,
      List.takeWhile_nil]
  simp only [number, htake, hall, hlength, hdrop, ofDigits_padded, if_neg (Nat.not_lt.2 hl)]

/-- So is one of two digits in the loose spellings. -/
theorem looseNumber_padded {n : Nat} (h : n < Nat.pow 10 2) (rest : List Char) :
    looseNumber (padded 2 n ++ rest) = some (n, rest) := by
  rw [looseNumber, dropBlanks_padded, number_padded (by decide) (by decide) h]

/-- **A year of four digits is read** in the loose spellings. -/
theorem looseYear_padded {n : Nat} (h : n < Nat.pow 10 4) (rest : List Char) :
    looseYear (padded 4 n ++ rest) = some ((n : Int), rest) := by
  have hdigit := isDigit_head?_padded 4 n rest
  have hnumber : number 1 4 (padded 4 n ++ rest) = some (n, rest) := number_padded (by decide) (by decide) h rest
  rw [looseYear, dropBlanks_padded]
  -- no sign is a digit
  split
  · rename_i hsign
    exact absurd (hdigit '-' (hsign ▸ rfl)) (by decide)
  · rename_i hsign
    exact absurd (hdigit '+' (hsign ▸ rfl)) (by decide)
  · rw [hnumber]
    rfl

/-- No number is read where no digit stands. -/
theorem number_eq_none {least most : Nat} (hl : 0 < least) {cs : List Char} (h : ∀ c ∈ cs.head?, c.isDigit = false) :
    number least most cs = none := by
  have hnil : (cs.take most).takeWhile Char.isDigit = [] := by
    cases cs with
    | nil => rw [List.take_nil, List.takeWhile_nil]
    | cons c cs =>
      cases most with
      | zero => rfl
      | succ most => rw [List.take_succ_cons, List.takeWhile_cons, h c rfl, if_neg Bool.false_ne_true]
  simp only [number, hnil, List.length_nil, if_pos hl]

theorem mark_cons (c : Char) (rest : List Char) : mark c (c :: rest) = some rest :=
  if_pos rfl

/-! ## Fractions -/

/-- **The nanoseconds of a fraction** of a second, cut off behind the ninth digit. -/
def nanosOf (ds : List Char) : Nat :=
  ofDigits ds * TimeOfDay.secondLength / 10 ^ ds.length

theorem nanosOf_lt {ds : List Char} (h : ∀ c ∈ ds, c.isDigit = true) : nanosOf ds < TimeOfDay.secondLength := by
  rw [nanosOf, Nat.div_lt_iff_lt_mul (Nat.pow_pos (by decide)), Nat.mul_comm]
  exact Nat.mul_lt_mul_of_pos_left (ofDigits_lt h) (by decide)

/-- Nine digits tell the nanoseconds. -/
theorem nanosOf_eq {ds : List Char} (h : ∀ c ∈ ds, c.isDigit = true) :
    nanosOf ds = ofDigits (ds.take 9) * 10 ^ (9 - (ds.take 9).length) := by
  by_cases hlength : ds.length ≤ 9
  · have hsecond : TimeOfDay.secondLength = 10 ^ (9 - ds.length) * 10 ^ ds.length := by
      rw [← Nat.pow_add, Nat.sub_add_cancel hlength]
      rfl
    rw [List.take_of_length_le hlength, nanosOf, hsecond, ← Nat.mul_assoc,
      Nat.mul_div_cancel _ (Nat.pow_pos (by decide))]
  · have htake : (ds.take 9).length = 9 := by rw [List.length_take]; omega
    have hdrop : (ds.drop 9).length = ds.length - 9 := List.length_drop
    have hrest : ofDigits (ds.drop 9) < 10 ^ (ds.length - 9) :=
      hdrop ▸ ofDigits_lt fun c hc => h c (List.mem_of_mem_drop hc)
    have hsplit := ofDigits_append (ds.take 9) (ds.drop 9)
    rw [List.take_append_drop, hdrop] at hsplit
    have hpower : 10 ^ ds.length = 10 ^ (ds.length - 9) * TimeOfDay.secondLength := by
      rw [show TimeOfDay.secondLength = 10 ^ 9 from rfl, ← Nat.pow_add, Nat.sub_add_cancel (by omega)]
    rw [nanosOf, hpower, Nat.mul_div_mul_right _ _ (by decide), hsplit, htake, Nat.sub_self, Nat.pow_zero, Nat.mul_one,
      Nat.mul_comm, Nat.mul_add_div (Nat.pow_pos (by decide)), Nat.div_eq_of_lt hrest, Nat.add_zero]

/-- **A fraction is read** with any number of digits. -/
theorem fraction_digits {ds rest : List Char} (hne : ds ≠ []) (h : ∀ c ∈ ds, c.isDigit = true)
    (hr : ∀ c ∈ rest.head?, c.isDigit = false) : fraction (ds ++ rest) = some (nanosOf ds, rest) := by
  rw [fraction, spanDigits_append h hr, nanosOf_eq h]
  split
  · rename_i heq
    exact absurd (congrArg Prod.fst heq) hne
  · rename_i heq
    cases heq
    rfl

theorem optionalFraction_nil {rest : List Char} (hr : ∀ c ∈ rest.head?, c ≠ '.') :
    optionalFraction rest = some (0, rest) := by
  rw [optionalFraction]
  rintro rest' rfl
  exact hr '.' rfl rfl

/-- Nanoseconds that end in zeros are read back from their leading digits. -/
theorem optionalFraction_group {k n : Nat} (hk : 0 < k) (hk9 : k ≤ 9) (hmod : n % Nat.pow 10 (9 - k) = 0)
    (h : n < TimeOfDay.secondLength) {rest : List Char} (hr : ∀ c ∈ rest.head?, c.isDigit = false) :
    optionalFraction ('.' :: padded k (n / Nat.pow 10 (9 - k)) ++ rest) = some (n, rest) := by
  have hlength : Nat.pow 10 (9 - k) * Nat.pow 10 k = TimeOfDay.secondLength := by
    rw [Nat.pow_eq, Nat.pow_eq, ← Nat.pow_add, Nat.sub_add_cancel hk9]
    rfl
  have hbound : n / Nat.pow 10 (9 - k) < Nat.pow 10 k := by
    apply Nat.div_lt_of_lt_mul
    rw [hlength]
    exact h
  have hnanos : nanosOf (padded k (n / Nat.pow 10 (9 - k))) = n := by
    rw [nanosOf, ofDigits_padded, length_padded hk hbound, ← hlength, ← Nat.mul_assoc,
      Nat.div_mul_cancel (Nat.dvd_of_mod_eq_zero hmod)]
    exact Nat.mul_div_cancel _ (Nat.pow_pos (by decide))
  rw [List.cons_append, optionalFraction,
    fraction_digits (padded_ne_nil k _) (fun _ hc => isDigit_of_mem_padded hc) hr, hnanos]

/-- **The fraction of a second is read back** in front of an offset. -/
theorem optionalFraction_fractionText {n : Nat} (h : n < TimeOfDay.secondLength) {rest : List Char}
    (hr : ∀ c ∈ rest.head?, c.isDigit = false ∧ c ≠ '.') :
    optionalFraction (fractionText n ++ rest) = some (n, rest) := by
  have hdigit : ∀ c ∈ rest.head?, c.isDigit = false := fun c hc => (hr c hc).1
  unfold fractionText
  split
  · rename_i hn
    subst hn
    exact optionalFraction_nil fun c hc => (hr c hc).2
  · split
    · rename_i hmod
      exact optionalFraction_group (k := 3) (by decide) (by decide) hmod h hdigit
    · split
      · rename_i hmod
        exact optionalFraction_group (k := 6) (by decide) (by decide) hmod h hdigit
      · have hall := optionalFraction_group (k := 9) (by decide) (by decide) (Nat.mod_one n) h hdigit
        rw [Nat.sub_self, show Nat.pow 10 0 = 1 from rfl, Nat.div_one] at hall
        exact hall

/-! ## Dates and times -/

/-- **The text of a date and a time** behind a year, with two digits for each part and whatever follows the seconds. -/
def Fields.text (f : Fields) (year : List Char) (separator : Char) (rest : List Char) : List Char :=
  year ++ '-' :: (padded 2 f.month ++ '-' :: (padded 2 f.day ++ separator :: (padded 2 f.hour ++ ':' ::
    (padded 2 f.minute ++ ':' :: (padded 2 f.second ++ rest)))))

/-- **Two digits are enough** for all parts but the year and the nanoseconds. -/
structure Fields.TwoDigits (f : Fields) : Prop where
  month : f.month < Nat.pow 10 2
  day : f.day < Nat.pow 10 2
  hour : f.hour < Nat.pow 10 2
  minute : f.minute < Nat.pow 10 2
  second : f.second < Nat.pow 10 2

variable {f : Fields} {n : Nat} {year rest suffix : List Char} {separator : Char}

/-- The strict spelling of a date and a time is read up to its suffix. -/
theorem strictFields_text (hf : f.TwoDigits) (hn : n < Nat.pow 10 4) (hyear : f.year = n)
    (hseparator : ∀ cs, strictSeparator (separator :: cs) = some cs)
    (hrest : optionalFraction rest = some (f.nanos, suffix)) :
    strictFields (f.text (padded 4 n) separator rest) = some (f, suffix) := by
  have hnumber : ∀ {n : Nat} (rest : List Char), n < Nat.pow 10 2 →
      number 2 2 (padded 2 n ++ rest) = some (n, rest) := fun rest hn =>
    number_padded (Nat.le_refl 2) (by decide) hn rest
  rw [Fields.text, strictFields, number_padded (Nat.le_refl 4) (by decide) hn]
  simp only [Option.bind_eq_bind, Option.bind_some, mark_cons, hseparator, hnumber _ hf.month, hnumber _ hf.day,
    hnumber _ hf.hour, hnumber _ hf.minute, hnumber _ hf.second, hrest, ← hyear]

/-- **The strict spelling is read** as the instant of its parts, moved back by the offset that follows them. -/
theorem parseStrict?_text (hf : f.TwoDigits) (hn : n < Nat.pow 10 4) (hyear : f.year = n)
    (hseparator : ∀ cs, strictSeparator (separator :: cs) = some cs)
    (hrest : optionalFraction rest = some (f.nanos, suffix)) {minutes : Int}
    (hsuffix : offset suffix = some (minutes, [])) :
    parseStrict? (f.text (padded 4 n) separator rest) = f.instant?.bind fun t => t.minutesEarlier? minutes := by
  rw [parseStrict?, strictFields_text hf hn hyear hseparator hrest]
  simp only [Option.bind_eq_bind, Option.bind_some, hsuffix, List.isEmpty_nil, if_true]

/-- Without an offset nothing is read in the strict spelling. -/
theorem parseStrict?_text_eq_none (hf : f.TwoDigits) (hn : n < Nat.pow 10 4) (hyear : f.year = n)
    (hseparator : ∀ cs, strictSeparator (separator :: cs) = some cs)
    (hrest : optionalFraction rest = some (f.nanos, suffix)) (hsuffix : offset suffix = none) :
    parseStrict? (f.text (padded 4 n) separator rest) = none := by
  rw [parseStrict?, strictFields_text hf hn hyear hseparator hrest]
  simp only [Option.bind_eq_bind, Option.bind_some, hsuffix, Option.bind_none]

/-- **A loose spelling is read** as the instant of its parts, if nothing is left over. -/
theorem parseLoose?_text (hf : f.TwoDigits) (hyear : ∀ cs, looseYear (year ++ '-' :: cs) = some (f.year, '-' :: cs))
    {read : List Char → Option (List Char)}
    (hread : ∀ cs : List Char, (∀ c ∈ cs.head?, Text.isBlank c = false) → read (separator :: cs) = some cs)
    (hrest : optionalFraction rest = some (f.nanos, suffix)) :
    parseLoose? read (f.text year separator rest) = if suffix.isEmpty then f.instant? else none := by
  have hhour : ∀ rest : List Char, ∀ c ∈ (padded 2 f.hour ++ rest).head?, Text.isBlank c = false :=
    fun rest c hc => Text.isBlank_of_isDigit (isDigit_head?_padded 2 f.hour rest c hc)
  rw [Fields.text, parseLoose?, hyear]
  simp only [Option.bind_eq_bind, Option.bind_some, mark_cons, looseNumber_padded hf.month, looseNumber_padded hf.day,
    hread _ (hhour _), looseNumber_padded hf.hour, looseNumber_padded hf.minute, looseNumber_padded hf.second, hrest]

/-- With blanks before the time, no hour is found behind a mark. -/
theorem parseLoose?_blanks_eq_none (hf : f.TwoDigits)
    (hyear : ∀ cs, looseYear (year ++ '-' :: cs) = some (f.year, '-' :: cs)) :
    parseLoose? (fun cs => some (Text.dropBlanks cs)) (f.text year 'T' rest) = none := by
  have hhour : ∀ rest, looseNumber ('T' :: rest) = none := fun rest => by
    rw [looseNumber, Text.dropBlanks_cons rfl]
    exact number_eq_none (by decide) fun c hc => by cases hc; rfl
  rw [Fields.text, parseLoose?, hyear]
  simp only [Option.bind_eq_bind, Option.bind_some, mark_cons, looseNumber_padded hf.month, looseNumber_padded hf.day,
    Text.dropBlanks_cons (show Text.isBlank 'T' = false from rfl), hhour, Option.bind_none]

end Instant

end SchemaSql
