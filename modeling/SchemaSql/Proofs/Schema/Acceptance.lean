import SchemaSql.Proofs.Schema.Revalidation
import SchemaSql.Proofs.Steps
import SchemaSql.Proofs.Text.ByteOrder

/-!
# What validation accepts

A schema admits a value under a name if one of its fields has the name, is not null where the value is, and has a type
that the value can be brought into; otherwise it has one objection to the value (`Schema.Admits`, `Schema.ObjectsTo`).
An object is valid exactly if all its members are admitted, and then it is kept with the same names and with the forms
of its values; otherwise the objection to its first faulty member is reported, in the order of the bytes of the names
(`validate_iff`). Fields come in here as members of the schema, so that neither their order nor an alias matters.
-/

namespace SchemaSql

namespace Keyed

variable {α : Type} {m n : Keyed α}

/-- In sorted entries those before one are those with smaller keys. -/
theorem Sorted.mem_before_iff {before after : Keyed α} {e f : String × α} (h : Sorted (before ++ e :: after))
    (hf : f ∈ before ++ e :: after) : f ∈ before ↔ f.1 < e.1 := by
  obtain ⟨-, hrest, hbefore⟩ := List.pairwise_append.1 h
  constructor
  · exact fun hmem => hbefore f hmem e List.mem_cons_self
  · intro hlt
    rcases List.mem_append.1 hf with hmem | hmem
    · exact hmem
    · rcases List.mem_cons.1 hmem with rfl | hmem
      · exact absurd hlt (String.lt_irrefl _)
      · exact absurd (String.lt_trans hlt ((List.pairwise_cons.1 hrest).1 f hmem)) (String.lt_irrefl _)

/-- Whether entries are sorted is told by their keys. -/
theorem Sorted.of_keys_eq (h : Sorted m) (hkeys : Keyed.keys n = Keyed.keys m) : Sorted n := by
  have hsorted := h.keys
  rw [← hkeys] at hsorted
  exact List.pairwise_map.1 hsorted

/-- **Sorted entries are told by their keys** and by the values that are found there. -/
theorem Sorted.eq_of_get? (h : Sorted m) (hkeys : Keyed.keys m = Keyed.keys n)
    (hvalues : ∀ e ∈ m, get? n e.1 = some e.2) : m = n := by
  induction m generalizing n with
  | nil => exact (List.map_eq_nil_iff.1 hkeys.symm).symm
  | cons e m ih =>
    obtain ⟨hfirst, hrest⟩ := List.pairwise_cons.1 h
    cases n with
    | nil => cases hkeys
    | cons f n =>
      obtain ⟨hkey, hkeys⟩ : e.1 = f.1 ∧ Keyed.keys m = Keyed.keys n := List.cons.inj hkeys
      have hsame : f.2 = e.2 := by
        have hfound := hvalues e List.mem_cons_self
        rw [get?, if_pos hkey.symm] at hfound
        exact Option.some.inj hfound
      have htail : m = n := by
        refine ih hrest hkeys fun g hg => ?_
        have hlt : f.1 < g.1 := hkey ▸ hfirst g hg
        have hne : f.1 ≠ g.1 := fun heq => String.lt_irrefl g.1 (heq ▸ hlt)
        have hfound := hvalues g (List.mem_cons_of_mem _ hg)
        rwa [get?, if_neg hne] at hfound
      rw [htail, Prod.ext hkey.symm hsame]

end Keyed

namespace Schema

/-- **A value that a schema admits under a name**, with the form in which it is kept. -/
def Admits (s : Schema) (name : String) (x v : Json) : Prop :=
  ∃ f ∈ s.fields, f.name = name ∧ (f.notNull = true ∨ f.primaryKey = true → x ≠ .null) ∧ f.type.coerce x = .ok v

/-- **What a schema objects to** in a value under a name: first that there is no such field, then that the value is null
where it must not be, and last that it has no form of the field's type. -/
inductive ObjectsTo (s : Schema) : String → Json → ValidationFault → Prop
  | unknown {name : String} {x : Json} (h : ∀ f ∈ s.fields, f.name ≠ name) : ObjectsTo s name x (.unknownField name s.table)
  | null {f : Field} (hf : f ∈ s.fields) (h : f.notNull = true ∨ f.primaryKey = true) :
    ObjectsTo s f.name .null (.nullNotAllowed f.name)
  | invalid {f : Field} {x : Json} {e : CoerceError} (hf : f ∈ s.fields)
    (hnull : f.notNull = true ∨ f.primaryKey = true → x ≠ .null) (h : f.type.coerce x = .error e) :
    ObjectsTo s f.name x (.invalidValue f.name e)

/-- **A record value that holds the members of an object**: under the same names, each in the form of its field. -/
structure Holds (s : Schema) (ms : List (String × Json)) (o : RecordValue) : Prop where
  table : o.table = s.table
  names : o.names = Keyed.keys ms
  values : ∀ m ∈ ms, ∃ v, s.Admits m.1 m.2 v ∧ o.get? m.1 = some v

/-- **The objection to the first faulty member** of an object: all members whose names have smaller bytes are admitted. -/
def FirstObjection (s : Schema) (ms : List (String × Json)) (fault : ValidationFault) : Prop :=
  ∃ m ∈ ms, s.ObjectsTo m.1 m.2 fault ∧ ∀ n ∈ ms, Text.bytes n.1 < Text.bytes m.1 → ∃ v, s.Admits n.1 n.2 v

variable {s : Schema} {name : String} {x v : Json} {ms vs : List (String × Json)} {o : RecordValue}
  {fault : ValidationFault}

/-! ## Single values -/

theorem refusesNull_iff_marked {f : Field} : f.refusesNull = true ↔ f.notNull = true ∨ f.primaryKey = true := by
  rw [Field.refusesNull, Bool.or_eq_true]

theorem Checked.field?_eq_some_iff (hs : s.Checked) {f : Field} :
    s.field? name = some f ↔ f ∈ s.fields ∧ f.name = name := by
  constructor
  · exact mem_of_field?
  · rintro ⟨hf, rfl⟩
    exact hs.field?_of_mem hf

theorem field?_eq_none_iff : s.field? name = none ↔ ∀ f ∈ s.fields, f.name ≠ name := by
  simp only [field?, List.find?_eq_none, beq_iff_eq, ne_eq]

/-- **A value is valid** exactly if the schema admits it. -/
theorem Checked.validateValue_iff_admits (hs : s.Checked) : s.validateValue name x = .ok v ↔ s.Admits name x v := by
  simp only [validateValue_eq_ok_iff, hs.field?_eq_some_iff, refusesNull_iff_marked, Admits, and_assoc]

/-- **A value is refused** exactly with what the schema objects to in it. -/
theorem Checked.refuses_iff_objectsTo (hs : s.Checked) :
    s.validateValue name x = .error fault ↔ s.ObjectsTo name x fault := by
  constructor
  · intro h
    unfold validateValue at h
    split at h
    · rename_i hnone
      cases h
      exact .unknown (field?_eq_none_iff.1 hnone)
    · rename_i f hf
      obtain ⟨hmem, rfl⟩ := hs.field?_eq_some_iff.1 hf
      split at h
      · rename_i hnull
        obtain ⟨hx, hr⟩ := Bool.and_eq_true_iff.1 hnull
        cases h
        cases Json.isNull_iff.1 hx
        exact .null hmem (refusesNull_iff_marked.1 hr)
      · rename_i hnull
        split at h
        · cases h
        · rename_i e he
          cases h
          refine .invalid hmem (fun hr hx => hnull ?_) he
          exact Bool.and_eq_true_iff.2 ⟨Json.isNull_iff.2 hx, refusesNull_iff_marked.2 hr⟩
  · intro h
    cases h with
    | unknown h => rw [validateValue, field?_eq_none_iff.2 h]
    | null hf h =>
      have hr := refusesNull_iff_marked.2 h
      simp only [validateValue, hs.field?_of_mem hf, hr, Json.isNull, Bool.and_self, ↓reduceIte]
    | @invalid f x e hf hnull h =>
      have hadmitted : (x.isNull && f.refusesNull) = false := by
        rw [Bool.and_eq_false_imp]
        intro hx
        rw [← Bool.not_eq_true]
        exact fun hr => hnull (refusesNull_iff_marked.1 hr) (Json.isNull_iff.1 hx)
      simp only [validateValue, hs.field?_of_mem hf, hadmitted, h, Bool.false_eq_true, ↓reduceIte]

/-! ## Members -/

/-- Members are validated one after the other. -/
theorem validateMembers_eq_mapM (s : Schema) (ms : List (String × Json)) :
    s.validateMembers ms = ms.mapM fun m => (s.validateValue m.1 m.2).map fun v => (m.1, v) := by
  induction ms with
  | nil => rfl
  | cons m ms ih =>
    rw [List.mapM_cons, ← ih, validateMembers]
    cases s.validateValue m.1 m.2 <;> rfl

/-- **Members are valid** exactly if each of them is. -/
theorem exists_validateMembers_iff :
    (∃ vs, s.validateMembers ms = .ok vs) ↔ ∀ m ∈ ms, ∃ v, s.validateValue m.1 m.2 = .ok v := by
  simp only [validateMembers_eq_mapM, exists_mapM_iff, exists_map_eq_ok_iff]

/-- **Members are refused** exactly with the fault of the first that is, behind valid ones. -/
theorem validateMembers_eq_error_iff :
    s.validateMembers ms = .error fault ↔
      ∃ before m after, ms = before ++ m :: after ∧ (∀ n ∈ before, ∃ v, s.validateValue n.1 n.2 = .ok v) ∧
        s.validateValue m.1 m.2 = .error fault := by
  simp only [validateMembers_eq_mapM, mapM_eq_error_iff, exists_map_eq_ok_iff, map_eq_error_iff]

/-- **Valid members are held** under their names. -/
theorem Checked.holds_of_validateMembers (hs : s.Checked) (hms : Keyed.Sorted ms) (h : s.validateMembers ms = .ok vs) :
    s.Holds ms ⟨s.table, vs⟩ := by
  refine ⟨rfl, validateMembers_keys h, fun m hm => ?_⟩
  have hx : Keyed.get? ms m.1 = some m.2 := hms.mem_iff.1 hm
  rcases get?_validateMembers h m.1 with ⟨hnone, -⟩ | ⟨x, v, hsome, hv, hvalid⟩
  · cases hx.symm.trans hnone
  · cases hx.symm.trans hsome
    exact ⟨v, hs.validateValue_iff_admits.1 hvalid, hv⟩

/-- What is held of an object is what its members are validated to. -/
theorem Checked.eq_of_holds (hs : s.Checked) (hms : Keyed.Sorted ms) (h : s.validateMembers ms = .ok vs)
    (ho : s.Holds ms o) : o = ⟨s.table, vs⟩ := by
  have hvs := hs.holds_of_validateMembers hms h
  have hkeys : Keyed.keys vs = Keyed.keys ms := hvs.names
  have hsorted : Keyed.Sorted vs := hms.of_keys_eq hkeys
  have hsame : vs = o.values := by
    refine hsorted.eq_of_get? (hkeys.trans ho.names.symm) fun e he => ?_
    have hname : e.1 ∈ Keyed.keys ms := hkeys ▸ List.mem_map_of_mem he
    obtain ⟨m, hm, hkey⟩ := List.mem_map.1 hname
    obtain ⟨v, hv, hget⟩ := ho.values m hm
    obtain ⟨w, hw, hfound⟩ := hvs.values m hm
    -- a value is admitted in one form only
    cases (hs.validateValue_iff_admits.2 hv).symm.trans (hs.validateValue_iff_admits.2 hw)
    have he' : Keyed.get? vs e.1 = some e.2 := hsorted.mem_iff.1 he
    have hfound : Keyed.get? vs e.1 = some v := hkey ▸ hfound
    cases he'.symm.trans hfound
    exact hkey ▸ hget
  rw [hsame, ← ho.table]

/-- **Sorted members are refused** exactly with the objection to the first faulty one. -/
theorem Checked.refuses_iff_firstObjection (hs : s.Checked) (hms : Keyed.Sorted ms) :
    s.validateMembers ms = .error fault ↔ s.FirstObjection ms fault := by
  rw [validateMembers_eq_error_iff]
  simp only [hs.validateValue_iff_admits, hs.refuses_iff_objectsTo]
  constructor
  · rintro ⟨before, m, after, rfl, hbefore, hm⟩
    refine ⟨m, List.mem_append_right _ List.mem_cons_self, hm, fun n hn hlt => ?_⟩
    exact hbefore n ((hms.mem_before_iff hn).2 (Text.lt_iff_bytes_lt.2 hlt))
  · rintro ⟨m, hm, hfault, hsmaller⟩
    obtain ⟨before, after, rfl⟩ := List.append_of_mem hm
    refine ⟨before, m, after, rfl, fun n hn => ?_, hfault⟩
    have hmem : n ∈ before ++ m :: after := List.mem_append_left _ hn
    exact hsmaller n hmem (Text.lt_iff_bytes_lt.1 ((hms.mem_before_iff hmem).1 hn))

/-! ## The same fields in another order -/

variable {t : Schema}

theorem Checked.of_perm (hs : s.Checked) (htable : t.table = s.table) (hfields : t.fields.Perm s.fields) : t.Checked := by
  refine ⟨htable ▸ hs.table, fun f hf => hs.columns f (hfields.mem_iff.1 hf), ?_⟩
  exact (hfields.map _).nodup_iff.2 hs.names

theorem Checked.validateValue_of_perm (hs : s.Checked) (htable : t.table = s.table) (hfields : t.fields.Perm s.fields)
    (name : String) (x : Json) : t.validateValue name x = s.validateValue name x := by
  have hfound : t.field? name = s.field? name := by
    ext f
    rw [(hs.of_perm htable hfields).field?_eq_some_iff, hs.field?_eq_some_iff, hfields.mem_iff]
  rw [validateValue, validateValue, hfound, htable]

/-- **Validation depends on the table and on which fields there are**, not on their order or on an alias. -/
theorem Checked.validate_of_perm (hs : s.Checked) (htable : t.table = s.table) (hfields : t.fields.Perm s.fields)
    (input : Json) : t.validate input = s.validate input := by
  have hmembers (ms : List (String × Json)) : t.validateMembers ms = s.validateMembers ms := by
    induction ms with
    | nil => rfl
    | cons m ms ih => rw [validateMembers, validateMembers, ih, hs.validateValue_of_perm htable hfields]
  cases input with
  | object ms => rw [validate, validate, hmembers, htable]
  | _ => rfl

/-! ## Objects -/

theorem validate_object_eq_ok_iff :
    s.validate (.object ms) = .ok o ↔ ∃ vs, s.validateMembers ms = .ok vs ∧ o = ⟨s.table, vs⟩ := by
  rw [validate]
  cases s.validateMembers ms with
  | ok vs => simp only [Except.ok.injEq, exists_eq_left', eq_comm]
  | error fault => simp only [reduceCtorEq, false_and, exists_false]

theorem validate_object_eq_error_iff {e : Error} :
    s.validate (.object ms) = .error e ↔ ∃ fault, s.validateMembers ms = .error fault ∧ e = .validation fault := by
  rw [validate]
  cases s.validateMembers ms with
  | ok vs => simp only [reduceCtorEq, false_and, exists_false]
  | error fault => simp only [Except.error.injEq, exists_eq_left', eq_comm]

theorem validate_of_ne_object {input : Json} (h : ∀ ms, input ≠ .object ms) :
    s.validate input = .error (.validation .notAnObject) := by
  cases input with
  | object ms => exact absurd rfl (h ms)
  | _ => rfl

/-- **An input is valid** exactly if it is an object whose members are all admitted. -/
theorem Checked.exists_validate_iff (hs : s.Checked) {input : Json} :
    (∃ o, s.validate input = .ok o) ↔ ∃ ms, input = .object ms ∧ ∀ m ∈ ms, ∃ v, s.Admits m.1 m.2 v := by
  simp only [← hs.validateValue_iff_admits, ← exists_validateMembers_iff]
  constructor
  · rintro ⟨o, h⟩
    obtain ⟨ms, vs, rfl, hvs, -⟩ := validate_ok h
    exact ⟨ms, rfl, vs, hvs⟩
  · rintro ⟨ms, rfl, vs, hvs⟩
    exact ⟨⟨s.table, vs⟩, validate_object_eq_ok_iff.2 ⟨vs, hvs, rfl⟩⟩

/-- **The record value of an input** is the one that holds its members. -/
theorem Checked.validate_eq_ok_iff (hs : s.Checked) {input : Json} (hn : input.Normal) :
    s.validate input = .ok o ↔ ∃ ms, input = .object ms ∧ s.Holds ms o := by
  constructor
  · intro h
    obtain ⟨ms, vs, rfl, hvs, rfl⟩ := validate_ok h
    exact ⟨ms, rfl, hs.holds_of_validateMembers hn.1 hvs⟩
  · rintro ⟨ms, rfl, ho⟩
    have hadmitted : ∀ m ∈ ms, ∃ v, s.validateValue m.1 m.2 = .ok v := by
      intro m hm
      obtain ⟨v, hv, -⟩ := ho.values m hm
      exact ⟨v, hs.validateValue_iff_admits.2 hv⟩
    obtain ⟨vs, hvs⟩ := exists_validateMembers_iff.2 hadmitted
    exact validate_object_eq_ok_iff.2 ⟨vs, hvs, hs.eq_of_holds hn.1 hvs ho⟩

/-- **The error of an input** is that it is no object, or the objection to its first faulty member. -/
theorem Checked.validate_eq_error_iff (hs : s.Checked) {input : Json} (hn : input.Normal) {e : Error} :
    s.validate input = .error e ↔
      (∀ ms, input ≠ .object ms) ∧ e = .validation .notAnObject ∨
        ∃ ms fault, input = .object ms ∧ s.FirstObjection ms fault ∧ e = .validation fault := by
  by_cases hobject : ∃ ms, input = .object ms
  · obtain ⟨ms, rfl⟩ := hobject
    simp only [validate_object_eq_error_iff, hs.refuses_iff_firstObjection hn.1]
    constructor
    · rintro ⟨fault, hfault, he⟩
      exact .inr ⟨ms, fault, rfl, hfault, he⟩
    · rintro (⟨hnot, -⟩ | ⟨_, fault, heq, hfault, he⟩)
      · exact absurd rfl (hnot ms)
      · cases heq
        exact ⟨fault, hfault, he⟩
  · have hnot : ∀ ms, input ≠ .object ms := not_exists.1 hobject
    rw [validate_of_ne_object hnot, Except.error.injEq]
    constructor
    · exact fun he => .inl ⟨hnot, he.symm⟩
    · rintro (⟨-, he⟩ | ⟨ms, _, heq, -⟩)
      · exact he.symm
      · exact absurd heq (hnot ms)

/-- **Validation accepts exactly what the schema admits.** The record value of an accepted object holds its members; a
refused input gets the error of being no object, or the objection to its first faulty member in the order of bytes.
Schemas of one table with the same fields agree on every input. -/
theorem Made.validate_iff (hs : s.Made) {input : Json} (hn : input.Normal) :
    ((∃ o, s.validate input = .ok o) ↔ ∃ ms, input = .object ms ∧ ∀ m ∈ ms, ∃ v, s.Admits m.1 m.2 v) ∧
      (∀ o, s.validate input = .ok o ↔ ∃ ms, input = .object ms ∧ s.Holds ms o) ∧
      (∀ e, s.validate input = .error e ↔
        (∀ ms, input ≠ .object ms) ∧ e = .validation .notAnObject ∨
          ∃ ms fault, input = .object ms ∧ s.FirstObjection ms fault ∧ e = .validation fault) ∧
      ∀ t : Schema, t.table = s.table → t.fields.Perm s.fields → t.validate input = s.validate input := by
  have hc := hs.checked
  refine ⟨hc.exists_validate_iff, fun o => hc.validate_eq_ok_iff hn, fun e => hc.validate_eq_error_iff hn, ?_⟩
  exact fun t htable hfields => hc.validate_of_perm htable hfields input

/-- A schema of persons, each with a name. -/
def persons : Schema :=
  ⟨"persons", "persons",
    [{ name := "ID", column := "id", type := .signed .w64, primaryKey := true },
      { name := "Name", column := "name", type := .text, notNull := true },
      { name := "Age", column := "age", type := .unsigned .w8 }]⟩

theorem made_persons : persons.Made :=
  .new (rfl : Schema.new persons.table persons.fields = .ok persons)

/-- Three members are at fault: a null where it must not be, a number where a text is due, and a name that no field has.
The first in the order of bytes is reported, also under an alias and with the fields the other way round. -/
theorem validate_iff_persons :
    let ms : List (String × Json) :=
      [("Age", .string " 7 "), ("ID", .null), ("Name", .int { val := 1 }), ("Näme", .string "x")]
    let input : Json := .object ms
    let t : Schema := ⟨persons.table, "p", persons.fields.reverse⟩
    persons.Made ∧ input.Normal ∧ persons.FirstObjection ms (.nullNotAllowed "ID") ∧
      t.validate input = persons.validate input := by
  intro ms input t
  have hsorted : Keyed.Sorted ms := by
    unfold Keyed.Sorted
    decide
  have hn : input.Normal := ⟨hsorted, trivial, trivial, trivial, trivial, trivial⟩
  obtain ⟨-, -, herror, hsame⟩ := made_persons.validate_iff hn
  have hrefused : persons.validate input = .error (.validation (.nullNotAllowed "ID")) := rfl
  rcases (herror _).1 hrefused with ⟨hnot, -⟩ | ⟨_, fault, hobject, hfault, he⟩
  · exact absurd rfl (hnot ms)
  · obtain rfl := Json.object.inj hobject
    cases he
    exact ⟨made_persons, hn, hfault, hsame t rfl persons.fields.reverse_perm⟩

end Schema

end SchemaSql
