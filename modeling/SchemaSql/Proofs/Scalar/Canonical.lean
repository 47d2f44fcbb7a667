import SchemaSql.Database.Value
import SchemaSql.Proofs.Binary64.Range
import SchemaSql.Proofs.Instant.RoundTrip
import SchemaSql.Scalar.Coerce

/-!
# The form in which values are kept

`ScalarType.Canonical` describes the values that a type keeps: null, integers in its range, finite numbers,
truth values, texts, and the texts of instants in years of four digits. Coercion leaves them as they are
(`Canonical.coerce`), and what it makes of another value is one of them (`canonical_of_coerce`), with one
exception: an instant in another year gets a text that is not read again (`LeavesYears`).

Coercion makes null of a value that is not null in one case only, a text that stands for a number that is not
finite (`LosesValue`, `coerce_eq_null_iff`).
-/

namespace SchemaSql

namespace ScalarType

/-- The types of numbers with a fraction. -/
def isFloat : ScalarType → Bool
  | float32 => true
  | float64 => true
  | _ => false

/-- **The values that a type keeps.** -/
inductive Canonical : ScalarType → Json → Prop
  | null (t : ScalarType) : Canonical t .null
  | int {t : ScalarType} {r : IntRange} (ht : t.range? = some r) {n : Json.Integer} (hlow : r.low ≤ n.val)
    (hhigh : n.val ≤ r.high) : Canonical t (.int n)
  | float {t : ScalarType} (ht : t.isFloat = true) (x : Binary64.Finite) : Canonical t (.float x)
  | bool (b : Bool) : Canonical .bool (.bool b)
  | text (s : String) : Canonical .text (.string s)
  | instant {i : Instant} (hi : i.PlainYear) : Canonical .dateTime (.string (String.ofList i.text))

/-- **A value that is lost**: the text of a number that is not finite. -/
def LosesValue (t : ScalarType) : Json → Prop
  | .string s => t.isFloat = true ∧ ∃ x ∈ Binary64.parse? (Text.trim s.toList), x.finite? = none
  | _ => False

/-- **A value that is kept under a text that nobody reads**: the text of an instant in a year that takes a
sign. -/
def LeavesYears (t : ScalarType) : Json → Prop
  | .string s => t = .dateTime ∧ ∃ i ∈ Instant.parse? s.toList, ¬ i.PlainYear
  | _ => False

instance (t : ScalarType) (v : Json) : Decidable (t.LosesValue v) :=
  match v with
  | .string _ => inferInstanceAs (Decidable (_ ∧ _))
  | .null | .bool _ | .int _ | .float _ | .array _ | .object _ => inferInstanceAs (Decidable False)

instance (t : ScalarType) (v : Json) : Decidable (t.LeavesYears v) :=
  match v with
  | .string _ => inferInstanceAs (Decidable (_ ∧ _))
  | .null | .bool _ | .int _ | .float _ | .array _ | .object _ => inferInstanceAs (Decidable False)

/-! ## Coercion by kinds of types -/

theorem coerce_null (t : ScalarType) : t.coerce .null = .ok .null := rfl

theorem coerce_of_range {t : ScalarType} {r : IntRange} (h : t.range? = some r) {v : Json} (hv : v ≠ .null) :
    t.coerce v = coerceInteger t r v := by
  cases v with
  | null => exact absurd rfl hv
  | _ => simp only [coerce, h]

theorem coerce_of_isFloat {t : ScalarType} (h : t.isFloat = true) {v : Json} (hv : v ≠ .null) :
    t.coerce v = coerceFloat t v := by
  cases v with
  | null => exact absurd rfl hv
  | _ => cases t <;> first | rfl | cases h

theorem coerce_bool {v : Json} (hv : v ≠ .null) : bool.coerce v = coerceBool v := by
  cases v with
  | null => exact absurd rfl hv
  | _ => rfl

theorem coerce_text {v : Json} (hv : v ≠ .null) : text.coerce v = coerceText v := by
  cases v with
  | null => exact absurd rfl hv
  | _ => rfl

theorem coerce_dateTime {v : Json} (hv : v ≠ .null) : dateTime.coerce v = coerceDateTime v := by
  cases v with
  | null => exact absurd rfl hv
  | _ => rfl

/-- Every type is of one of five kinds. -/
theorem kind (t : ScalarType) :
    (∃ r, t.range? = some r) ∨ t.isFloat = true ∨ t = .bool ∨ t = .text ∨ t = .dateTime := by
  cases t with
  | signed w => exact .inl ⟨_, rfl⟩
  | unsigned w => exact .inl ⟨_, rfl⟩
  | float32 => exact .inr (.inl rfl)
  | float64 => exact .inr (.inl rfl)
  | bool => exact .inr (.inr (.inl rfl))
  | text => exact .inr (.inr (.inr (.inl rfl)))
  | dateTime => exact .inr (.inr (.inr (.inr rfl)))

/-! ## What coercion makes -/

theorem coerceInteger_ok {t : ScalarType} {r : IntRange} {v w : Json} (h : coerceInteger t r v = .ok w) :
    ∃ n : Json.Integer, w = .int n ∧ r.low ≤ n.val ∧ n.val ≤ r.high := by
  unfold coerceInteger at h
  split at h
  · cases h
  · split at h
    · rename_i hr
      cases h
      exact ⟨_, rfl, hr.1, hr.2⟩
    · cases h

theorem coerceInteger_int {t : ScalarType} {r : IntRange} {n : Json.Integer} (hlow : r.low ≤ n.val)
    (hhigh : n.val ≤ r.high) : coerceInteger t r (.int n) = .ok (.int n) :=
  dif_pos ⟨hlow, hhigh⟩

/-- A number is finite, or has no JSON form. -/
theorem ofBinary64_cases (x : Binary64) :
    (∃ y, x.finite? = some y ∧ Json.ofBinary64 x = .float y) ∨ (x.finite? = none ∧ Json.ofBinary64 x = .null) := by
  cases x with
  | finite y => exact .inl ⟨y, rfl, rfl⟩
  | infinite _ => exact .inr ⟨rfl, rfl⟩
  | nan => exact .inr ⟨rfl, rfl⟩

/-- **What becomes of a value of a type with a fraction**: a finite number, or null if its text stands for
none. -/
theorem coerceFloat_ok {t : ScalarType} (ht : t.isFloat = true) {v w : Json} (h : coerceFloat t v = .ok w) :
    (∃ x, w = .float x ∧ ¬ t.LosesValue v) ∨ (w = .null ∧ t.LosesValue v) := by
  cases v with
  | float x =>
    cases h
    exact .inl ⟨x, rfl, id⟩
  | int n =>
    cases h
    have hlower := n.lower
    have hupper := n.upper
    have hbits : n.val.natAbs < Nat.pow 2 64 := by
      rw [show Nat.pow 2 64 = 18446744073709551616 from rfl]
      omega
    obtain ⟨x, hx⟩ := Binary64.ofInt_finite hbits (by decide)
    rw [hx]
    exact .inl ⟨x, rfl, id⟩
  | string s =>
    simp only [coerceFloat] at h
    split at h
    · rename_i x hx
      cases h
      rcases ofBinary64_cases x with ⟨y, hy, hjson⟩ | ⟨hnone, hjson⟩
      · refine .inl ⟨y, hjson, ?_⟩
        rintro ⟨-, x', hx', hnone⟩
        cases hx.symm.trans hx'
        cases hy.symm.trans hnone
      · exact .inr ⟨hjson, ht, x, hx, hnone⟩
    · cases h
  | null => cases h
  | bool b => cases h
  | array xs => cases h
  | object ms => cases h

theorem coerceBool_ok {v w : Json} (h : coerceBool v = .ok w) : ∃ b, w = .bool b := by
  unfold coerceBool at h
  split at h
  · cases h
    exact ⟨_, rfl⟩
  · split at h
    · cases h
      exact ⟨_, rfl⟩
    · split at h <;> cases h
      exact ⟨_, rfl⟩
  · cases h
  · simp only at h
    split at h
    · cases h
      exact ⟨_, rfl⟩
    · split at h <;> cases h
      exact ⟨_, rfl⟩
  · cases h

theorem coerceText_ok {v w : Json} (h : coerceText v = .ok w) : ∃ s, w = .string s := by
  unfold coerceText at h
  split at h <;> cases h
  exact ⟨_, rfl⟩

theorem coerceDateTime_ok {v w : Json} (h : coerceDateTime v = .ok w) :
    ∃ s i, v = .string s ∧ Instant.parse? s.toList = some i ∧ w = .string (String.ofList i.text) := by
  unfold coerceDateTime at h
  split at h
  · rename_i s
    split at h <;> cases h
    rename_i i hi
    exact ⟨s, i, rfl, hi, rfl⟩
  · cases h

/-! ## Canonical values -/

/-- **The text of an instant** is coerced to itself, or not at all if the year has a sign. -/
theorem coerce_instant_text (i : Instant) :
    dateTime.coerce (.string (String.ofList i.text)) =
      if i.PlainYear then .ok (.string (String.ofList i.text)) else .error (.noInstant (String.ofList i.text)) := by
  have hv : Json.string (String.ofList i.text) ≠ .null := nofun
  rw [coerce_dateTime hv]
  simp only [coerceDateTime, String.toList_ofList]
  by_cases hi : i.PlainYear
  · simp only [Instant.parse?_text hi, i.text_shown, if_pos hi]
  · rw [Instant.parse?_text_eq_none hi, if_neg hi]

/-- **Canonical values stay as they are.** -/
theorem Canonical.coerce {t : ScalarType} {v : Json} (h : t.Canonical v) : t.coerce v = .ok v := by
  cases h with
  | null => exact coerce_null t
  | int ht hlow hhigh => exact (coerce_of_range (v := .int _) ht nofun).trans (coerceInteger_int hlow hhigh)
  | float ht x => exact coerce_of_isFloat ht nofun
  | bool b => rfl
  | text s => rfl
  | instant hi => rw [coerce_instant_text, if_pos hi]

/-- **What coercion makes of a value is canonical**, unless it is an instant in a year that takes a sign. -/
theorem canonical_of_coerce {t : ScalarType} {v w : Json} (h : t.coerce v = .ok w) (hy : ¬ t.LeavesYears v) :
    t.Canonical w := by
  by_cases hv : v = .null
  · subst hv
    cases h
    exact .null t
  · rcases t.kind with ⟨r, hr⟩ | ht | rfl | rfl | rfl
    · obtain ⟨n, rfl, hlow, hhigh⟩ := coerceInteger_ok (coerce_of_range hr hv ▸ h)
      exact .int hr hlow hhigh
    · rcases coerceFloat_ok ht (coerce_of_isFloat ht hv ▸ h) with ⟨x, rfl, -⟩ | ⟨rfl, -⟩
      · exact .float ht x
      · exact .null t
    · obtain ⟨b, rfl⟩ := coerceBool_ok (coerce_bool hv ▸ h)
      exact .bool b
    · obtain ⟨s, rfl⟩ := coerceText_ok (coerce_text hv ▸ h)
      exact .text s
    · obtain ⟨s, i, rfl, hi, rfl⟩ := coerceDateTime_ok (coerce_dateTime hv ▸ h)
      exact .instant (Decidable.not_not.1 fun hyear => hy ⟨rfl, i, hi, hyear⟩)

/-- **An instant in a year that takes a sign is not coerced again**: the text made of it is not read. -/
theorem coerce_of_leavesYears {t : ScalarType} {v w : Json} (h : t.coerce v = .ok w) (hy : t.LeavesYears v) :
    ∃ e, t.coerce w = .error e := by
  cases v with
  | string s =>
    obtain ⟨rfl, i, hi, hyear⟩ := hy
    obtain ⟨_, i', hs, hi', rfl⟩ := coerceDateTime_ok (coerce_dateTime (v := .string s) nofun ▸ h)
    cases hs
    cases hi.symm.trans hi'
    refine ⟨.noInstant (String.ofList i.text), ?_⟩
    rw [coerce_instant_text, if_neg hyear]
  | _ => exact hy.elim

/-- **Coercion makes null of null and of lost values** and of nothing else. -/
theorem coerce_eq_null_iff {t : ScalarType} {v w : Json} (h : t.coerce v = .ok w) :
    w = .null ↔ v = .null ∨ t.LosesValue v := by
  by_cases hv : v = .null
  · subst hv
    cases h
    exact ⟨fun _ => .inl rfl, fun _ => rfl⟩
  · have hlost : ∀ {t : ScalarType}, t.isFloat = false → ¬ t.LosesValue v := by
      intro t ht hl
      cases v with
      | string s => exact Bool.false_ne_true (ht.symm.trans hl.1)
      | _ => exact hl
    rcases t.kind with ⟨r, hr⟩ | ht | rfl | rfl | rfl
    · obtain ⟨n, rfl, -⟩ := coerceInteger_ok (coerce_of_range hr hv ▸ h)
      have hf : t.isFloat = false := by cases t <;> first | rfl | cases hr
      simp only [reduceCtorEq, hv, hlost hf, or_self]
    · rcases coerceFloat_ok ht (coerce_of_isFloat ht hv ▸ h) with ⟨x, rfl, hl⟩ | ⟨rfl, hl⟩
      · simp only [reduceCtorEq, hv, hl, or_self]
      · simp only [hl, or_true]
    · obtain ⟨b, rfl⟩ := coerceBool_ok (coerce_bool hv ▸ h)
      simp only [reduceCtorEq, hv, hlost (show bool.isFloat = false from rfl), or_self]
    · obtain ⟨s, rfl⟩ := coerceText_ok (coerce_text hv ▸ h)
      simp only [reduceCtorEq, hv, hlost (show text.isFloat = false from rfl), or_self]
    · obtain ⟨_, _, -, -, rfl⟩ := coerceDateTime_ok (coerce_dateTime hv ▸ h)
      simp only [reduceCtorEq, hv, hlost (show dateTime.isFloat = false from rfl), or_self]

end ScalarType

end SchemaSql
