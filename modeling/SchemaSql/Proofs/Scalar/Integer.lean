import Mathlib.Algebra.Group.Int.Defs
import Mathlib.Data.List.Induction
import SchemaSql.Proofs.Scalar.Canonical
import SchemaSql.Proofs.Text.Trimming

/-!
# Exact integers

A JSON value stands for an integer if it is an integer number, or a text with a decimal literal between blanks
(`Json.Denotes`, `Decimal.Literal`). A type of integers keeps the values that stand for an integer in its range, each as
the number with that integer (`ScalarType.coerce_eq_ok_iff`), and says of any other value but null that it stands for no
integer or for one out of range (`ScalarType.coerce_eq_error_iff`).
-/

namespace SchemaSql

namespace Decimal

/-- **Digits and the number that they write.** A digit is worth its distance from zero, and ten times that for each
digit behind it. -/
inductive Digits : List Char → Nat → Prop
  | single {c : Char} (hc : c.isDigit = true) : Digits [c] (c.toNat - '0'.toNat)
  | snoc {ds : List Char} {k : Nat} {c : Char} (h : Digits ds k) (hc : c.isDigit = true) :
    Digits (ds ++ [c]) (10 * k + (c.toNat - '0'.toNat))

/-- **A decimal literal of an integer**: digits behind a sign, or without one. -/
inductive Literal : List Char → Int → Prop
  | plain {ds : List Char} {k : Nat} (h : Digits ds k) : Literal ds k
  | plus {ds : List Char} {k : Nat} (h : Digits ds k) : Literal ('+' :: ds) k
  | minus {ds : List Char} {k : Nat} (h : Digits ds k) : Literal ('-' :: ds) (-k)

variable {cs : List Char} {n : Int} {k : Nat}

/-! ## Digits -/

theorem ofDigits_concat (ds : List Char) (c : Char) :
    ofDigits (ds ++ [c]) = 10 * ofDigits ds + (c.toNat - '0'.toNat) := by
  rw [ofDigits_append, ofDigits_singleton, List.length_singleton, Nat.pow_one, Nat.mul_comm]

theorem Digits.ne_nil (h : Digits cs k) : cs ≠ [] := by
  cases h with
  | single hc => exact List.cons_ne_nil _ _
  | snoc h hc => exact List.append_ne_nil_of_right_ne_nil _ (List.cons_ne_nil _ _)

theorem Digits.isDigit (h : Digits cs k) : ∀ c ∈ cs, c.isDigit = true := by
  induction h with
  | single hc => exact List.forall_mem_singleton.2 hc
  | snoc h hc ih => exact List.forall_mem_append.2 ⟨ih, List.forall_mem_singleton.2 hc⟩

theorem Digits.ofDigits_eq (h : Digits cs k) : ofDigits cs = k := by
  induction h with
  | single hc => exact ofDigits_singleton _
  | snoc h hc ih => rw [ofDigits_concat, ih]

theorem digits_ofDigits (hcs : cs ≠ []) (hd : ∀ c ∈ cs, c.isDigit = true) : Digits cs (ofDigits cs) := by
  induction cs using List.reverseRecOn with
  | nil => exact absurd rfl hcs
  | append_singleton ds c ih =>
    obtain ⟨hds, hc⟩ := List.forall_mem_append.1 hd
    have hc : c.isDigit = true := hc c List.mem_cons_self
    by_cases hnil : ds = []
    · rw [hnil, List.nil_append, ofDigits_singleton]
      exact .single hc
    · rw [ofDigits_concat]
      exact .snoc (ih hnil hds) hc

/-- **Digits are read**, and nothing else is. -/
theorem parseNat?_eq_some_iff : parseNat? cs = some k ↔ Digits cs k := by
  constructor
  · intro h
    simp only [parseNat?, Option.ite_none_left_eq_some, Bool.or_eq_true, not_or, Bool.not_eq_true, Bool.not_eq_false',
      List.isEmpty_eq_false_iff, List.all_eq_true, Option.some_inj] at h
    obtain ⟨⟨hcs, hd⟩, rfl⟩ := h
    exact digits_ofDigits hcs hd
  · intro h
    have hall : cs.all Char.isDigit = true := List.all_eq_true.2 h.isDigit
    rw [parseNat?, List.isEmpty_eq_false_iff.2 h.ne_nil, hall, h.ofDigits_eq]
    rfl

/-! ## Literals -/

/-- **Literals are read**, and nothing else is. -/
theorem parseSigned?_eq_some_iff : parseSigned? cs = some n ↔ Literal cs n := by
  constructor
  · intro h
    unfold parseSigned? at h
    split at h
    all_goals
      obtain ⟨_, hnat, rfl⟩ := Option.map_eq_some_iff.1 h
      obtain ⟨k, hk, ⟨⟩⟩ := Option.bind_eq_some_iff.1 hnat
    · exact .minus (parseNat?_eq_some_iff.1 hk)
    · exact .plus (parseNat?_eq_some_iff.1 hk)
    · exact .plain (parseNat?_eq_some_iff.1 hk)
  · intro h
    cases h with
    | plus h => rw [parseSigned?, parseNat?_eq_some_iff.2 h]; rfl
    | minus h => rw [parseSigned?, parseNat?_eq_some_iff.2 h]; rfl
    | plain h =>
      unfold parseSigned?
      split
      · exact absurd (h.isDigit _ List.mem_cons_self) (by decide)
      · exact absurd (h.isDigit _ List.mem_cons_self) (by decide)
      · rw [parseNat?_eq_some_iff.2 h]
        rfl

/-- There is no blank in a literal. -/
theorem Literal.isBlank_of_mem (h : Literal cs n) : ∀ c ∈ cs, Text.isBlank c = false := by
  have hdigits : ∀ {ds : List Char} {k : Nat}, Digits ds k → ∀ c ∈ ds, Text.isBlank c = false :=
    fun h c hc => Text.isBlank_of_isDigit (h.isDigit c hc)
  cases h with
  | plain h => exact hdigits h
  | plus h => exact List.forall_mem_cons.2 ⟨rfl, hdigits h⟩
  | minus h => exact List.forall_mem_cons.2 ⟨rfl, hdigits h⟩

theorem integerBound_eq : integerBound = 2 ^ 127 := by decide

/-- **Literals that fit 128 bits** are read as integers. -/
theorem parseInt?_eq_some_iff : parseInt? cs = some n ↔ Literal cs n ∧ -2 ^ 127 ≤ n ∧ n < 2 ^ 127 := by
  rw [parseInt?, Option.filter_eq_some_iff, parseSigned?_eq_some_iff, decide_eq_true_iff, integerBound_eq]

end Decimal

namespace Json

/-- **The integer that a value stands for**: an integer number, or a text with a decimal literal between blanks that
fits 128 bits. -/
inductive Denotes : Json → Int → Prop
  | number (n : Integer) : Denotes (int n) n.val
  | text {s : String} {b ds b' : List Char} {n : Int} (hs : s.toList = b ++ ds ++ b') (hb : Text.Blank b)
    (hb' : Text.Blank b') (hn : Decimal.Literal ds n) (hlow : -2 ^ 127 ≤ n) (hhigh : n < 2 ^ 127) : Denotes (string s) n

theorem Denotes.ne_null {v : Json} {n : Int} (h : v.Denotes n) : v ≠ null := by
  cases h <;> exact nofun

/-- **The cast of an integer to a word of 64 bits**, a signed one for a negative integer and an unsigned one for any
other. -/
def Integer.inWord (n : Int) : Int :=
  if n < 0 then (Int64.ofInt n).toInt else (UInt64.ofInt n).toNat

/-- What fits a JSON integer does not wrap in its word. -/
theorem Integer.inWord_eq_self (n : Integer) : inWord n.val = n.val := by
  have hlower := n.lower
  have hupper := n.upper
  unfold inWord
  split
  · exact Int64.toInt_ofInt_of_le hlower (by omega)
  · rw [UInt64.ofInt, UInt64.toNat_ofNat']
    omega

end Json

namespace ScalarType

/-- **The integers of a type**: as many as its bits can tell apart, half of them negative in a signed type. -/
def Contains : ScalarType → Int → Prop
  | signed w, n => -2 ^ (w.bits - 1) ≤ n ∧ n < 2 ^ (w.bits - 1)
  | unsigned w, n => 0 ≤ n ∧ n < 2 ^ w.bits
  | _, _ => False

variable {t t' : ScalarType} {v w : Json} {n : Int}

/-! ## Ranges -/

instance (t : ScalarType) (n : Int) : Decidable (t.Contains n) :=
  match t with
  | signed _ | unsigned _ => inferInstanceAs (Decidable (_ ∧ _))
  | float32 | float64 | bool | text | dateTime => inferInstanceAs (Decidable False)

/-- The range of a type holds its integers. -/
theorem contains_iff {r : IntRange} (ht : t.range? = some r) : t.Contains n ↔ r.low ≤ n ∧ n ≤ r.high := by
  cases t with
  | signed w =>
    cases ht
    have hcount : (2 : Int) ^ (w.bits - 1) = (w.count / 2 : Nat) := by cases w <;> decide
    rw [Contains, hcount]
    exact and_congr_right fun _ => Int.le_sub_one_iff.symm
  | unsigned w =>
    cases ht
    have hcount : (2 : Int) ^ w.bits = w.count := by cases w <;> decide
    rw [Contains, hcount]
    exact and_congr_right fun _ => Int.le_sub_one_iff.symm
  | _ => cases ht

/-- Only types of integers have any. -/
theorem Contains.exists_range (h : t.Contains n) : ∃ r, t.range? = some r := by
  cases t with
  | signed w => exact ⟨_, rfl⟩
  | unsigned w => exact ⟨_, rfl⟩
  | _ => exact h.elim

/-- The integers of every type fit a JSON integer. -/
theorem Contains.exists_integer (h : t.Contains n) : ∃ m : Json.Integer, m.val = n := by
  obtain ⟨r, hr⟩ := h.exists_range
  obtain ⟨hlow, hhigh⟩ := (contains_iff hr).1 h
  exact ⟨⟨n, Int.le_trans r.low_ge hlow, Int.lt_of_le_of_lt hhigh r.high_lt⟩, rfl⟩

/-! ## Coercion -/

/-- **The integer of a value is read.** -/
theorem integerOf?_eq_some_iff : integerOf? v = some n ↔ v.Denotes n := by
  constructor
  · intro h
    cases v with
    | int m =>
      cases h
      exact .number m
    | string s =>
      obtain ⟨hn, hlow, hhigh⟩ := Decimal.parseInt?_eq_some_iff.1 h
      obtain ⟨-, b, b', hb, hb', hs⟩ := Text.trim_eq_iff.1 rfl
      exact .text hs hb hb' hn hlow hhigh
    | _ => cases h
  · intro h
    cases h with
    | number m => rfl
    | text hs hb hb' hn hlow hhigh =>
      rw [integerOf?, hs, Text.trim_padded hb (Text.bare_of_all hn.isBlank_of_mem) hb']
      exact Decimal.parseInt?_eq_some_iff.2 ⟨hn, hlow, hhigh⟩

/-- A value that stands for an integer of a type is kept as the number with that integer. -/
theorem coerce_of_contains {m : Json.Integer} (hv : v.Denotes m.val) (hm : t.Contains m.val) :
    t.coerce v = .ok (.int m) := by
  obtain ⟨r, hr⟩ := hm.exists_range
  rw [coerce_of_range hr hv.ne_null, coerceInteger, integerOf?_eq_some_iff.2 hv]
  exact dif_pos ((contains_iff hr).1 hm)

theorem coerce_of_not_contains (ht : t.isInteger = true) (hv : v.Denotes n) (hn : ¬ t.Contains n) :
    t.coerce v = .error (.outOfRange n t) := by
  obtain ⟨r, hr⟩ := Option.isSome_iff_exists.1 ht
  rw [coerce_of_range hr hv.ne_null, coerceInteger, integerOf?_eq_some_iff.2 hv]
  exact dif_neg fun h => hn ((contains_iff hr).2 h)

theorem coerce_of_not_denotes (ht : t.isInteger = true) (hnull : v ≠ .null) (hv : ∀ n, ¬ v.Denotes n) :
    t.coerce v = .error (.notConvertible v t) := by
  obtain ⟨r, hr⟩ := Option.isSome_iff_exists.1 ht
  have hnone : integerOf? v = none := Option.eq_none_iff_forall_ne_some.2 fun n hn => hv n (integerOf?_eq_some_iff.1 hn)
  rw [coerce_of_range hr hnull, coerceInteger, hnone]

/-- A value is null, stands for no integer, or stands for one that a type has or has not. -/
theorem integer_cases (t : ScalarType) (v : Json) :
    v = .null ∨ (v ≠ .null ∧ ∀ n, ¬ v.Denotes n) ∨ (∃ n, v.Denotes n ∧ ¬ t.Contains n) ∨
      ∃ m : Json.Integer, v.Denotes m.val ∧ t.Contains m.val := by
  by_cases hnull : v = .null
  · exact .inl hnull
  · by_cases hv : ∃ n, v.Denotes n
    · obtain ⟨n, hn⟩ := hv
      by_cases ht : t.Contains n
      · obtain ⟨m, rfl⟩ := ht.exists_integer
        exact .inr (.inr (.inr ⟨m, hn, ht⟩))
      · exact .inr (.inr (.inl ⟨n, hn, ht⟩))
    · exact .inr (.inl ⟨hnull, not_exists.1 hv⟩)

/-- **The values that a type of integers keeps**, and what they become. -/
theorem coerce_eq_ok_iff (ht : t.isInteger = true) :
    t.coerce v = .ok w ↔
      (v = .null ∧ w = .null) ∨ ∃ m : Json.Integer, v.Denotes m.val ∧ t.Contains m.val ∧ w = .int m := by
  constructor
  · intro h
    rcases integer_cases t v with rfl | ⟨hnull, hv⟩ | ⟨n, hv, hn⟩ | ⟨m, hv, hm⟩
    · cases h
      exact .inl ⟨rfl, rfl⟩
    · cases (coerce_of_not_denotes ht hnull hv).symm.trans h
    · cases (coerce_of_not_contains ht hv hn).symm.trans h
    · cases (coerce_of_contains hv hm).symm.trans h
      exact .inr ⟨m, hv, hm, rfl⟩
  · rintro (⟨rfl, rfl⟩ | ⟨m, hv, hm, rfl⟩)
    · exact coerce_null t
    · exact coerce_of_contains hv hm

/-- **The values that a type of integers refuses**, and what it says of them. -/
theorem coerce_eq_error_iff (ht : t.isInteger = true) {e : CoerceError} :
    t.coerce v = .error e ↔
      (v ≠ .null ∧ (∀ n, ¬ v.Denotes n) ∧ e = .notConvertible v t) ∨
        ∃ n, v.Denotes n ∧ ¬ t.Contains n ∧ e = .outOfRange n t := by
  constructor
  · intro h
    rcases integer_cases t v with rfl | ⟨hnull, hv⟩ | ⟨n, hv, hn⟩ | ⟨m, hv, hm⟩
    · cases h
    · cases (coerce_of_not_denotes ht hnull hv).symm.trans h
      exact .inl ⟨hnull, hv, rfl⟩
    · cases (coerce_of_not_contains ht hv hn).symm.trans h
      exact .inr ⟨n, hv, hn, rfl⟩
    · cases (coerce_of_contains hv hm).symm.trans h
  · rintro (⟨hnull, hv, rfl⟩ | ⟨n, hv, hn, rfl⟩)
    · exact coerce_of_not_denotes ht hnull hv
    · exact coerce_of_not_contains ht hv hn

/-- Values that stand for one integer become the same. -/
theorem coerce_congr (ht : t.isInteger = true) {u : Json} (hu : u.Denotes n) (hv : v.Denotes n) :
    t.coerce u = t.coerce v := by
  by_cases hn : t.Contains n
  · obtain ⟨m, rfl⟩ := hn.exists_integer
    rw [coerce_of_contains hu hn, coerce_of_contains hv hn]
  · rw [coerce_of_not_contains ht hu hn, coerce_of_not_contains ht hv hn]

/-- A wider type keeps what a narrower one keeps, in the same form. -/
theorem coerce_mono (ht : t.isInteger = true) (htt' : ∀ n, t.Contains n → t'.Contains n) (h : t.coerce v = .ok w) :
    t'.coerce v = .ok w := by
  rcases (coerce_eq_ok_iff ht).1 h with ⟨rfl, rfl⟩ | ⟨m, hv, hm, rfl⟩
  · exact coerce_null t'
  · exact coerce_of_contains hv (htt' _ hm)

/-- **Coercion to a type of integers is exact.** The values that become something else than null are those that stand
for an integer of the type, and they become the number with that integer; null stays null, and every other value is an
error that says which integer is out of range, or that there is none. So it does not matter whether an integer is handed
over as a number or as a text, and every type with a wider range makes the same of it. No integer of a type wraps in its
word. -/
theorem coerce_integer_exact {t : ScalarType} (ht : t.isInteger = true) :
    (∀ v w, t.coerce v = .ok w ∧ w ≠ .null ↔
      ∃ m : Json.Integer, v.Denotes m.val ∧ t.Contains m.val ∧ w = .int m) ∧
    t.coerce .null = .ok .null ∧
    (∀ v e, t.coerce v = .error e ↔
      (v ≠ .null ∧ (∀ n, ¬ v.Denotes n) ∧ e = .notConvertible v t) ∨
        ∃ n, v.Denotes n ∧ ¬ t.Contains n ∧ e = .outOfRange n t) ∧
    (∀ u v n, u.Denotes n → v.Denotes n → t.coerce u = t.coerce v) ∧
    (∀ n, t.Contains n → Json.Integer.inWord n = n) ∧
    ∀ t' : ScalarType, (∀ n, t.Contains n → t'.Contains n) → ∀ v w, t.coerce v = .ok w → t'.coerce v = .ok w := by
  refine ⟨fun v w => ?_, coerce_null t, fun v e => coerce_eq_error_iff ht, fun u v n => coerce_congr ht, fun n hn => ?_,
    fun t' htt' v w => coerce_mono ht htt'⟩
  · rw [coerce_eq_ok_iff ht]
    constructor
    · rintro ⟨⟨-, hnull⟩ | hm, hw⟩
      · exact absurd hnull hw
      · exact hm
    · rintro ⟨m, hv, hm, rfl⟩
      exact ⟨.inr ⟨m, hv, hm, rfl⟩, nofun⟩
  · obtain ⟨m, rfl⟩ := hn.exists_integer
    exact m.inWord_eq_self

theorem coerce_integer_exact_largest :
    (unsigned .w32).isInteger = true ∧
      (unsigned .w32).coerce (.string " +0004294967295\u00a0") = .ok (.int { val := 4294967295 }) ∧
      (signed .w64).coerce (.string " +0004294967295\u00a0") = .ok (.int { val := 4294967295 }) ∧
      (unsigned .w32).coerce (.string "4294967296") = .error (.outOfRange 4294967296 (.unsigned .w32)) := by
  have hlargest : Json.Denotes (.string " +0004294967295\u00a0") 4294967295 := integerOf?_eq_some_iff.1 (by decide)
  have hnext : Json.Denotes (.string "4294967296") 4294967296 := integerOf?_eq_some_iff.1 (by decide)
  have hwider : ∀ n, (unsigned .w32).Contains n → (signed .w64).Contains n := by
    intro n hn
    simp only [Contains, IntWidth.bits] at hn ⊢
    omega
  obtain ⟨hok, -, herror, -, -, hmono⟩ := coerce_integer_exact (rfl : (unsigned .w32).isInteger = true)
  have hkept := ((hok _ _).2 ⟨{ val := 4294967295 }, hlargest, by decide, rfl⟩).1
  exact ⟨rfl, hkept, hmono _ hwider _ _ hkept, (herror _ _).2 (.inr ⟨_, hnext, by decide, rfl⟩)⟩

end ScalarType

end SchemaSql
