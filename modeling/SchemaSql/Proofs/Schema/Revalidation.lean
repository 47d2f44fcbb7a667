import SchemaSql.Proofs.Scalar.Canonical
import SchemaSql.Proofs.Schema.Made
import SchemaSql.Schema.Validate

/-!
# Validating what was validated

A validated object, validated again, is accepted and stays as it is, and no null stands in it where the column
refuses one. Both hold with exact exceptions, which `ScalarType.LosesValue` and `ScalarType.LeavesYears` name:
the text of a number that is not finite becomes null after the check for nulls (`validate_null_iff`), and the
text of an instant in a year that takes a sign is not read again (`validate_toJson`).
-/

namespace SchemaSql

theorem Json.isNull_iff {v : Json} : v.isNull = true ↔ v = .null := by
  cases v with
  | null => exact ⟨fun _ => rfl, fun _ => rfl⟩
  | _ => exact ⟨nofun, nofun⟩

namespace Schema

variable {s : Schema} {name : String} {x v : Json} {ms vs : List (String × Json)} {o : RecordValue}

/-! ## Single values -/

/-- **A value is valid** exactly if it has a field, is null only where the field admits it, and has the form of
the field's type. -/
theorem validateValue_eq_ok_iff :
    s.validateValue name x = .ok v ↔
      ∃ f, s.field? name = some f ∧ (f.refusesNull = true → x ≠ .null) ∧ f.type.coerce x = .ok v := by
  cases hf : s.field? name with
  | none => simp only [validateValue, hf, reduceCtorEq, false_and, exists_false]
  | some f =>
    simp only [validateValue, hf, Option.some.injEq, exists_eq_left']
    by_cases hnull : (x.isNull && f.refusesNull) = true
    · obtain ⟨hx, hr⟩ := Bool.and_eq_true_iff.1 hnull
      have hrefused : ¬ (f.refusesNull = true → x ≠ .null) := fun h => h hr (Json.isNull_iff.1 hx)
      simp only [if_pos hnull, reduceCtorEq, hrefused, false_and]
    · have hadmitted : f.refusesNull = true → x ≠ .null := by
        rintro hr rfl
        exact hnull (Bool.and_eq_true_iff.2 ⟨rfl, hr⟩)
      rw [if_neg hnull, and_iff_right hadmitted]
      cases f.type.coerce x with
      | ok w => simp only [Except.ok.injEq]
      | error e => simp only [reduceCtorEq]

/-- **A member that validation keeps for good**: it is no lost value for a field that refuses null, and no instant
in a year that takes a sign. -/
def Keeps (s : Schema) (m : String × Json) : Prop :=
  ∀ f ∈ s.field? m.1, (f.refusesNull = true → ¬ f.type.LosesValue m.2) ∧ ¬ f.type.LeavesYears m.2

instance (s : Schema) (m : String × Json) : Decidable (s.Keeps m) :=
  inferInstanceAs (Decidable (∀ f ∈ s.field? m.1, _))

/-- **A kept value is valid again** and stays as it is. -/
theorem validateValue_of_keeps (h : s.validateValue name x = .ok v) (hk : s.Keeps (name, x)) :
    s.validateValue name v = .ok v := by
  obtain ⟨f, hf, hnull, hv⟩ := validateValue_eq_ok_iff.1 h
  obtain ⟨hlost, hyears⟩ := hk f hf
  have hadmitted : f.refusesNull = true → v ≠ .null := by
    intro hr hv'
    rcases (ScalarType.coerce_eq_null_iff hv).1 hv' with hx | hx
    · exact hnull hr hx
    · exact hlost hr hx
  exact validateValue_eq_ok_iff.2 ⟨f, hf, hadmitted, (ScalarType.canonical_of_coerce hv hyears).coerce⟩

/-- **A value that is not kept is refused** when it is validated again. -/
theorem validateValue_of_not_keeps (h : s.validateValue name x = .ok v) (hk : ¬ s.Keeps (name, x)) :
    ∃ e, s.validateValue name v = .error e := by
  cases hagain : s.validateValue name v with
  | error e => exact ⟨e, rfl⟩
  | ok w =>
    obtain ⟨f, hf, -, hv⟩ := validateValue_eq_ok_iff.1 h
    obtain ⟨g, hg, hnull, hw⟩ := validateValue_eq_ok_iff.1 hagain
    cases hf.symm.trans hg
    -- valid again, the value is kept
    apply absurd _ hk
    intro f' hf'
    cases hf.symm.trans hf'
    constructor
    · intro hr hlost
      exact hnull hr ((ScalarType.coerce_eq_null_iff hv).2 (.inr hlost))
    · intro hyears
      obtain ⟨e, he⟩ := ScalarType.coerce_of_leavesYears hv hyears
      cases he.symm.trans hw

/-! ## Members -/

theorem validateMembers_cons_ok {m : String × Json} (h : s.validateMembers (m :: ms) = .ok vs) :
    ∃ v rest, s.validateValue m.1 m.2 = .ok v ∧ s.validateMembers ms = .ok rest ∧ vs = (m.1, v) :: rest := by
  obtain ⟨v, hv, h⟩ := bind_eq_ok_iff.1 h
  obtain ⟨rest, hrest, h⟩ := bind_eq_ok_iff.1 h
  exact ⟨v, rest, hv, hrest, (Except.ok.inj h).symm⟩

/-- **Kept members are valid again** and stay as they are. -/
theorem validateMembers_of_keeps (h : s.validateMembers ms = .ok vs) (hk : ∀ m ∈ ms, s.Keeps m) :
    s.validateMembers vs = .ok vs := by
  induction ms generalizing vs with
  | nil => cases h; rfl
  | cons m ms ih =>
    obtain ⟨v, rest, hv, hrest, rfl⟩ := validateMembers_cons_ok h
    have hfirst := validateValue_of_keeps hv (hk m List.mem_cons_self)
    have hothers := ih hrest fun m hm => hk m (List.mem_cons_of_mem _ hm)
    simp only [validateMembers, hfirst, hothers]
    rfl

/-- **Members of which one is not kept are refused** when they are validated again. -/
theorem validateMembers_of_not_keeps (h : s.validateMembers ms = .ok vs) (hk : ∃ m ∈ ms, ¬ s.Keeps m) :
    ∃ e, s.validateMembers vs = .error e := by
  induction ms generalizing vs with
  | nil =>
    obtain ⟨m, hm, -⟩ := hk
    exact absurd hm List.not_mem_nil
  | cons m ms ih =>
    obtain ⟨v, rest, hv, hrest, rfl⟩ := validateMembers_cons_ok h
    by_cases hm : s.Keeps m
    · have hothers : ∃ m ∈ ms, ¬ s.Keeps m := by
        obtain ⟨n, hn, hnk⟩ := hk
        rcases List.mem_cons.1 hn with rfl | hn
        · exact absurd hm hnk
        · exact ⟨n, hn, hnk⟩
      obtain ⟨e, he⟩ := ih hrest hothers
      exact ⟨e, bind_eq_error_iff.2 (.inr ⟨v, validateValue_of_keeps hv hm, bind_eq_error_iff.2 (.inl he)⟩)⟩
    · obtain ⟨e, he⟩ := validateValue_of_not_keeps hv hm
      exact ⟨e, bind_eq_error_iff.2 (.inl he)⟩

/-- **Each validated member is the member of the input** under its name, in the form of its field. -/
theorem get?_validateMembers (h : s.validateMembers ms = .ok vs) (name : String) :
    (Keyed.get? ms name = none ∧ Keyed.get? vs name = none) ∨
      ∃ x v, Keyed.get? ms name = some x ∧ Keyed.get? vs name = some v ∧ s.validateValue name x = .ok v := by
  induction ms generalizing vs with
  | nil =>
    cases h
    exact .inl ⟨rfl, rfl⟩
  | cons m ms ih =>
    obtain ⟨v, rest, hv, hrest, rfl⟩ := validateMembers_cons_ok h
    obtain ⟨key, x⟩ := m
    by_cases hkey : key = name
    · subst hkey
      exact .inr ⟨x, v, if_pos rfl, if_pos rfl, hv⟩
    · simp only [Keyed.get?, if_neg hkey]
      exact ih hrest

theorem validate_ok {input : Json} (h : s.validate input = .ok o) :
    ∃ ms vs, input = .object ms ∧ s.validateMembers ms = .ok vs ∧ o = ⟨s.table, vs⟩ := by
  unfold validate at h
  split at h
  · rename_i ms
    split at h <;> cases h
    rename_i vs hvs
    exact ⟨ms, vs, rfl, hvs, rfl⟩
  · cases h

/-! ## Objects -/

/-- **A validated object is valid again**, and validation returns it as it is, if all members of the input are
kept; otherwise it is refused. -/
theorem validate_toJson (h : s.validate (.object ms) = .ok o) :
    ((∀ m ∈ ms, s.Keeps m) → s.validate o.toJson = .ok o) ∧
      ((∃ m ∈ ms, ¬ s.Keeps m) → ∃ e, s.validate o.toJson = .error e) := by
  obtain ⟨_, vs, hms, hvs, rfl⟩ := validate_ok h
  cases hms
  constructor
  · intro hk
    simp only [RecordValue.toJson, validate, validateMembers_of_keeps hvs hk]
  · intro hk
    obtain ⟨e, he⟩ := validateMembers_of_not_keeps hvs hk
    exact ⟨.validation e, by simp only [RecordValue.toJson, validate, he]⟩

/-- A text in the leap second of a year and a number in a text are both kept, and valid again. -/
theorem validate_toJson_leap_second :
    let s : Schema := ⟨"t", "t", [.plain "At" .dateTime, .plain "N" (.signed .w8)]⟩
    let ms : List (String × Json) := [("At", .string "2016-12-31 23:59:60.5"), ("N", .string " 7 ")]
    let o : RecordValue := ⟨"t", [("At", .string "2016-12-31T23:59:60.500+00:00"), ("N", .int { val := 7 })]⟩
    s.validate (.object ms) = .ok o ∧ (∀ m ∈ ms, s.Keeps m) ∧ s.validate o.toJson = .ok o := by
  intro s ms o
  have hvalid : s.validate (.object ms) = .ok o := rfl
  have hkeeps : ∀ m ∈ ms, s.Keeps m := by decide
  exact ⟨hvalid, hkeeps, (validate_toJson hvalid).1 hkeeps⟩

/-- An offset can move an instant into a year of five digits; the text made of it is refused. -/
theorem validate_toJson_signed_year :
    let s : Schema := ⟨"t", "t", [.plain "At" .dateTime]⟩
    let o : RecordValue := ⟨"t", [("At", .string "+10000-01-01T00:59:59+00:00")]⟩
    s.Made ∧ s.validate (.object [("At", .string "9999-12-31T23:59:59-01:00")]) = .ok o ∧
      s.validate o.toJson =
        .error (.validation (.invalidValue "At" (.noInstant "+10000-01-01T00:59:59+00:00"))) := by
  have hnew : Schema.new "t" [.plain "At" .dateTime] = .ok ⟨"t", "t", [.plain "At" .dateTime]⟩ := rfl
  exact ⟨.new hnew, rfl, rfl⟩

/-- **A null stands where the column refuses it** exactly if the input has a text there that stands for a number
that is not finite. -/
theorem validate_null_iff (hs : s.Made) {input : Json} (h : s.validate input = .ok o) {f : Field}
    (hf : f ∈ s.fields) (hr : f.refusesNull = true) :
    o.get? f.name = some .null ↔ ∃ x, input.get? f.name = some x ∧ f.type.LosesValue x := by
  obtain ⟨ms, vs, rfl, hvs, rfl⟩ := validate_ok h
  have hfield := hs.checked.field?_of_mem hf
  have hinput : Json.get? (.object ms) f.name = Keyed.get? ms f.name := rfl
  rw [RecordValue.get?, hinput]
  rcases get?_validateMembers hvs f.name with ⟨hms, hvs⟩ | ⟨x, v, hms, hvs, hv⟩
  · simp only [hms, hvs, reduceCtorEq, false_and, exists_false]
  · obtain ⟨g, hg, hnull, hw⟩ := validateValue_eq_ok_iff.1 hv
    cases hfield.symm.trans hg
    simp only [hms, hvs, Option.some.injEq, exists_eq_left', ScalarType.coerce_eq_null_iff hw, hnull hr, false_or]

/-- A number that overflows is a null where the column refuses one. -/
theorem validate_null_iff_overflow :
    let f : Field := { Field.plain "X" .float64 with primaryKey := true }
    let s : Schema := ⟨"t", "t", [f]⟩
    let input : Json := .object [("X", .string " 1e400 ")]
    let o : RecordValue := ⟨"t", [("X", .null)]⟩
    s.Made ∧ s.validate input = .ok o ∧ f ∈ s.fields ∧ f.refusesNull = true ∧
      (o.get? f.name = some .null ↔ ∃ x, input.get? f.name = some x ∧ f.type.LosesValue x) := by
  have hnew : Schema.new "t" [{ Field.plain "X" .float64 with primaryKey := true }] =
      .ok ⟨"t", "t", [{ Field.plain "X" .float64 with primaryKey := true }]⟩ := rfl
  exact ⟨.new hnew, rfl, List.mem_cons_self, rfl, validate_null_iff (.new hnew) rfl List.mem_cons_self rfl⟩

/-- A word for infinity is a null where the column refuses one. -/
theorem validate_stores_null :
    let f : Field := { Field.plain "X" .float64 with notNull := true }
    let s : Schema := ⟨"t", "t", [f]⟩
    let o : RecordValue := ⟨"t", [("X", .null)]⟩
    s.Made ∧ s.validate (.object [("X", .string "inf")]) = .ok o ∧ f ∈ s.fields ∧ f.refusesNull = true ∧
      o.get? f.name = some .null := by
  have hnew : Schema.new "t" [{ Field.plain "X" .float64 with notNull := true }] =
      .ok ⟨"t", "t", [{ Field.plain "X" .float64 with notNull := true }]⟩ := rfl
  exact ⟨.new hnew, rfl, List.mem_cons_self, rfl, rfl⟩

end Schema

end SchemaSql
