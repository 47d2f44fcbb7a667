import SchemaSql.Json.Basic
import SchemaSql.Scalar.Basic
import SchemaSql.SnakeCase
import SchemaSql.Tag

/-!
# Fields

A field ties a member of a record to a column of a table. `Field.sorted` is the order of columns in a
table: primary keys, then the record's own fields, then embedded ones, each group in the order given.
-/

namespace SchemaSql

/-- **A field of a record and its column.** -/
structure Field where
  name : String
  column : String
  type : ScalarType
  sqlType : Option String := none
  primaryKey : Bool := false
  notNull : Bool := false
  unique : Bool := false
  indexed : Bool := false
  embedded : Bool := false
  default : Option String := none
  foreignKey : Option ForeignKey := none
deriving DecidableEq

namespace Field

/-- The field with a name and a type whose column has the name in snake case. -/
def plain (name : String) (type : ScalarType) : Field where
  name := name
  column := SnakeCase.ofName name
  type := type

/-- A field with what its tag says, apart from the name of the column. -/
def tagged (f : Field) (t : Tag) : Field :=
  { f with
    sqlType := t.sqlType, primaryKey := t.primaryKey, notNull := t.notNull, unique := t.unique, indexed := t.index
    default := t.default, foreignKey := t.foreignKey }

/-- A column that holds no null: it is so declared, or a primary key. -/
def refusesNull (f : Field) : Bool :=
  f.notNull || f.primaryKey

/-- A field of the record itself that is no primary key. -/
def isHost (f : Field) : Bool :=
  !f.primaryKey && !f.embedded

/-- An embedded field that is no primary key. -/
def isInner (f : Field) : Bool :=
  !f.primaryKey && f.embedded

/-- **Fields in the order of columns.** -/
def sorted (fs : List Field) : List Field :=
  fs.filter (·.primaryKey) ++ fs.filter (·.isHost) ++ fs.filter (·.isInner)

/-- **Sorting keeps the fields.** -/
theorem sorted_perm (fs : List Field) : (sorted fs).Perm fs := by
  induction fs with
  | nil => exact List.Perm.nil
  | cons f fs ih =>
    rw [sorted, List.append_assoc] at ih ⊢
    cases hk : f.primaryKey with
    | true => simpa [hk, isHost, isInner] using ih
    | false =>
      cases he : f.embedded with
      | false => simpa [hk, he, isHost, isInner] using List.perm_middle.trans (ih.cons f)
      | true =>
        rw [← List.append_assoc] at ih ⊢
        simpa [hk, he, isHost, isInner] using List.perm_middle.trans (ih.cons f)

/-- The first name that occurs a second time. -/
def firstRepeated (names : List String) : Option String :=
  go [] names
where
  /-- The first name that occurred before. -/
  go (seen : List String) : List String → Option String
    | [] => none
    | n :: ns => if n ∈ seen then some n else go (n :: seen) ns

theorem firstRepeated_go_eq_none_iff {seen names : List String} :
    firstRepeated.go seen names = none ↔ names.Nodup ∧ ∀ n ∈ names, n ∉ seen := by
  induction names generalizing seen with
  | nil => simp only [firstRepeated.go, List.nodup_nil, List.not_mem_nil, false_implies, implies_true, and_self]
  | cons n ns ih =>
    rw [firstRepeated.go, List.nodup_cons, List.forall_mem_cons]
    by_cases hn : n ∈ seen
    · rw [if_pos hn]
      exact ⟨nofun, fun h => absurd hn h.2.1⟩
    · rw [if_neg hn, ih]
      constructor
      · rintro ⟨hnodup, hns⟩
        exact ⟨⟨fun h => hns n h List.mem_cons_self, hnodup⟩, hn,
          fun m hm h => hns m hm (List.mem_cons_of_mem n h)⟩
      · rintro ⟨⟨hnot, hnodup⟩, _, hns⟩
        refine ⟨hnodup, fun m hm h => ?_⟩
        rcases List.mem_cons.1 h with rfl | h
        · exact hnot hm
        · exact hns m hm h

theorem firstRepeated_go_eq_some_iff {seen names : List String} {n : String} :
    firstRepeated.go seen names = some n ↔
      ∃ before after, names = before ++ n :: after ∧ firstRepeated.go seen before = none ∧ (n ∈ before ∨ n ∈ seen) := by
  induction names generalizing seen with
  | nil =>
    constructor
    · nofun
    · rintro ⟨before, after, h, _⟩
      cases before <;> cases h
  | cons m ns ih =>
    rw [firstRepeated.go]
    by_cases hm : m ∈ seen
    · rw [if_pos hm, Option.some.injEq]
      constructor
      · rintro rfl
        exact ⟨[], ns, rfl, rfl, .inr hm⟩
      · rintro ⟨before, after, h, hbefore, _⟩
        rcases List.cons_eq_append_iff.1 h with ⟨rfl, h⟩ | ⟨rest, rfl, h⟩
        · cases h; rfl
        · rw [firstRepeated.go, if_pos hm] at hbefore
          cases hbefore
    · rw [if_neg hm, ih]
      have hstep : ∀ before, firstRepeated.go seen (m :: before) = firstRepeated.go (m :: seen) before :=
        fun before => by rw [firstRepeated.go, if_neg hm]
      constructor
      · rintro ⟨before, after, rfl, hbefore, hn⟩
        refine ⟨m :: before, after, rfl, hstep before ▸ hbefore, ?_⟩
        rcases hn with hn | hn
        · exact .inl (List.mem_cons_of_mem m hn)
        · rcases List.mem_cons.1 hn with rfl | hn
          · exact .inl List.mem_cons_self
          · exact .inr hn
      · rintro ⟨before, after, h, hbefore, hn⟩
        rcases List.cons_eq_append_iff.1 h with ⟨rfl, h⟩ | ⟨rest, rfl, rfl⟩
        · cases h
          exact absurd (hn.resolve_left List.not_mem_nil) hm
        · refine ⟨rest, after, rfl, hstep rest ▸ hbefore, ?_⟩
          rcases hn with hn | hn
          · rcases List.mem_cons.1 hn with rfl | hn
            · exact .inr List.mem_cons_self
            · exact .inl hn
          · exact .inr (List.mem_cons_of_mem m hn)

/-- **No name is repeated** exactly if the names are distinct. -/
theorem firstRepeated_eq_none_iff {names : List String} : firstRepeated names = none ↔ names.Nodup := by
  rw [firstRepeated, firstRepeated_go_eq_none_iff]
  exact and_iff_left fun n _ => List.not_mem_nil

/-- **The first repeated name** occurs among the distinct names before it. -/
theorem firstRepeated_eq_some_iff {names : List String} {n : String} :
    firstRepeated names = some n ↔ ∃ before after, names = before ++ n :: after ∧ before.Nodup ∧ n ∈ before := by
  simp only [firstRepeated, firstRepeated_go_eq_some_iff, ← firstRepeated_eq_none_iff, List.not_mem_nil, or_false]

/-! ## The written form -/

/-- The written form of a foreign key. -/
def foreignKeyJson (k : ForeignKey) : Json :=
  .object [("table", .string k.table), ("column", .string k.column)]

/-- A member for a part that is there. -/
def optionalMember (key : String) (value : Option Json) : List (String × Json) :=
  match value with
  | some v => [(key, v)]
  | none => []

/-- **The written form of a field.** -/
def toJson (f : Field) : Json :=
  .object
    ([("provider_name", .string f.name), ("column_name", .string f.column), ("logical_type", .string f.type.name)] ++
      optionalMember "sql_type" (f.sqlType.map .string) ++
      [("is_pk", .bool f.primaryKey), ("is_not_null", .bool f.notNull), ("is_unique", .bool f.unique),
       ("is_indexed", .bool f.indexed)] ++
      optionalMember "default_literal" (f.default.map .string) ++
      optionalMember "foreign_key" (f.foreignKey.map foreignKeyJson) ++
      [("is_embedded", .bool f.embedded)])

end Field

end SchemaSql
