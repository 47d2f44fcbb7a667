import Mathlib.Data.List.Nodup
import SchemaSql.Proofs.Schema.Made
import SchemaSql.Proofs.Statement.Assembly
import SchemaSql.Statement.TableScript

/-!
# Columns that statements list

`Schema.Lists` says which columns the statements of a schema name, and in which order: all of them when the table is
created and when rows are selected, and those with values when rows are inserted or updated. They are the columns of
the fields that the schema was made of, so no column is listed twice exactly if these fields have distinct columns
(`columns_nodup_iff`). Nothing checks that: fields with distinct names make up a schema, and two names may stand for
one column (`columns_not_nodup`).
-/

namespace SchemaSql

/-- **A schema that is accepted for fields**: they were given as such, or by a declaration. -/
inductive Schema.Accepted (fields : List Field) (s : Schema) : Prop
  | new {table : String} (h : Schema.new table fields = .ok s)
  | ofDeclaration {d : Declaration} (hd : d.fields = .ok fields) (h : Schema.ofDeclaration d = .ok s)

/-- The fields for which there are values. -/
def ValueSource.given (values : ValueSource) (fs : List Field) : List Field :=
  fs.filter fun f => (values f.name).isSome

/-- **The fields whose columns the statements of a schema list.** Behind each column stands a clause in the statement
that creates the table, and its label in a selection; an insertion and an update list the columns with values. -/
structure Schema.Lists (s : Schema) (fs : List Field) : Prop where
  created : ∀ {t : TypeTable} {script : TableScript}, t.script s = .ok script →
    ∃ clause : Field → String, script.createTable = "CREATE TABLE " ++ s.table ++ " (\n    " ++
      ",\n    ".intercalate ((fs.map fun f => f.column ++ " " ++ clause f) ++ t.keyConstraint s) ++ "\n)"
  selected : ∀ {filter : Option Predicate} {u : Statement}, Assembly.select (some s) filter = .ok u →
    u.sql = "SELECT " ++ ", ".intercalate (fs.map fun g => (s.bind g).ref.text ++ " AS " ++ (s.bind g).ref.label) ++
      " FROM " ++ s.source.text ++ Predicate.whereLiteral (fun _ => "?") filter
  inserted : ∀ {values : ValueSource} {u : Statement}, Assembly.insert s values = .ok u →
    u.sql = "INSERT INTO " ++ s.table ++ " (" ++ ", ".intercalate ((values.given fs).map (·.column)) ++
      ") VALUES (" ++ ", ".intercalate ((values.given fs).map fun _ => "?") ++ ")"
  updated : ∀ {values : ValueSource} {filter : Option Predicate} {u : Statement},
    Assembly.update s values filter = .ok u → ∃ p, filter = some p ∧ u.sql = "UPDATE " ++ s.table ++ " SET " ++
      ", ".intercalate ((values.given fs).map fun g => g.column ++ " = ?") ++ " WHERE " ++ p.assemble.sql

/-- A valid name is no reserved word, so it stands without quotes. -/
theorem Identifier.Valid.quoteReserved {n : String} (h : Valid n) (d : Dialect) : quoteReserved d n = n := by
  rw [Identifier.quoteReserved, h.2, if_neg Bool.false_ne_true]

namespace ValueSource

/-- The fields for which there are values, each with its value. -/
def provided (values : ValueSource) (fs : List Field) : List (Field × Json) :=
  fs.filterMap fun f => (values f.name).map fun v => (f, v)

theorem map_fst_provided (values : ValueSource) (fs : List Field) :
    (values.provided fs).map (·.1) = values.given fs := by
  rw [provided, given]
  induction fs with
  | nil => rfl
  | cons f fs ih =>
    cases hv : values f.name with
    | none => rw [List.filterMap_cons_none (by rw [hv]; rfl), ih, List.filter_cons_of_neg (by rw [hv]; decide)]
    | some v =>
      rw [List.filterMap_cons_some (by rw [hv]; rfl), List.map_cons, ih, List.filter_cons_of_pos (by rw [hv]; rfl)]

end ValueSource

namespace Build

theorem assignments_eq (s : Schema) (values : ValueSource) :
    assignments s values = (values.provided s.fields).map fun w => (w.1.column, w.2) := by
  simp only [assignments, ValueSource.provided, List.map_filterMap, Option.map_map]
  rfl

/-- The assignments, as anything is made of their columns, are those of the fields with values. -/
theorem map_assignments {α : Type} (s : Schema) (values : ValueSource) (g : String → α) :
    (assignments s values).map (fun c => g c.1) = (values.given s.fields).map fun f => g f.column := by
  rw [assignments_eq, ← ValueSource.map_fst_provided, List.map_map, List.map_map]
  rfl

end Build

namespace Schema

variable {s : Schema} {fields : List Field}

theorem Accepted.exists_new (h : s.Accepted fields) : ∃ table, Schema.new table fields = .ok s := by
  cases h with
  | @new table h => exact ⟨table, h⟩
  | ofDeclaration hd h =>
    obtain ⟨fs, hfs, h⟩ := bind_eq_ok_iff.1 h
    obtain ⟨table, -, h⟩ := bind_eq_ok_iff.1 h
    cases hd.symm.trans hfs
    exact ⟨table, h⟩

theorem ofDeclaration_of_new {d : Declaration} {table : String} (hd : d.fields = .ok fields) (ht : d.table = .ok table)
    (h : Schema.new table fields = .ok s) : Schema.ofDeclaration d = .ok s :=
  bind_eq_ok_iff.2 ⟨fields, hd, bind_eq_ok_iff.2 ⟨table, ht, h⟩⟩

/-- A new schema has the given fields in the order of columns. -/
theorem fields_of_new {table : String} (h : Schema.new table fields = .ok s) : s.fields = Field.sorted fields := by
  unfold Schema.new at h
  split at h
  · cases h
  · obtain ⟨_, -, hs⟩ := bind_eq_ok_iff.1 h
    cases hs
    rfl

/-! ## Lists of columns -/

/-- **The statement that creates a table** defines the columns of its fields, each under its bare name. -/
theorem Checked.created (hs : s.Checked) {t : TypeTable} {script : TableScript} (h : t.script s = .ok script) :
    ∃ clause : Field → String, script.createTable = "CREATE TABLE " ++ s.table ++ " (\n    " ++
      ",\n    ".intercalate ((s.fields.map fun f => f.column ++ " " ++ clause f) ++ t.keyConstraint s) ++ "\n)" := by
  unfold TypeTable.script at h
  split at h
  · cases h
  cases h
  refine ⟨fun f => " ".intercalate ((t.typeClause f (TypeTable.hasInlineKey s)).1 :: t.constraints f), ?_⟩
  have hcolumns : (s.fields.map fun f => (t.columnDefinition f (TypeTable.hasInlineKey s)).1) =
      s.fields.map fun f => f.column ++ " " ++
        " ".intercalate ((t.typeClause f (TypeTable.hasInlineKey s)).1 :: t.constraints f) := by
    apply List.map_congr_left
    intro f hf
    simp only [TypeTable.columnDefinition, String.intercalate_cons_cons, TypeTable.name,
      (hs.columns f hf).quoteReserved]
  simp only [TypeTable.tableBody, hcolumns, TypeTable.name, hs.table.quoteReserved]

/-- **The statements of a checked schema list the columns of its fields.** -/
theorem Checked.lists (hs : s.Checked) : s.Lists s.fields := by
  constructor
  · exact hs.created
  · intro filter f h
    rw [Assembly.select_sql h, Build.projection, refs, List.map_map]
    rfl
  · intro values f h
    rw [Assembly.insert_sql h, Build.map_assignments s values fun c => c, Build.map_assignments s values fun _ => "?"]
  · intro values filter f h
    obtain ⟨p, hfilter, -, hsql⟩ := Assembly.update_sql h
    exact ⟨p, hfilter, hsql.trans (by rw [Build.map_assignments s values fun c => c ++ " = ?"])⟩

/-- Behind one qualifier distinct columns have distinct labels. -/
theorem nodup_labels_iff : (s.refs.map (·.ref.label)).Nodup ↔ (s.fields.map (·.column)).Nodup := by
  have hlabels : s.refs.map (·.ref.label) = (s.fields.map (·.column)).map fun c => ColumnRef.label ⟨s.qualifier, c⟩ := by
    rw [refs, List.map_map, List.map_map]
    rfl
  have hinj : Function.Injective fun c => ColumnRef.label ⟨s.qualifier, c⟩ := by
    intro c d h
    exact (String.append_right_inj _).1 h
  rw [hlabels, List.nodup_map_iff hinj]

/-- **A column is listed once** exactly if it is the column of one field only, among fields for which there are
values, whichever these are. -/
theorem nodup_given_iff {fs : List Field} :
    (∀ values : ValueSource, ((values.given fs).map (·.column)).Nodup) ↔ (fs.map (·.column)).Nodup := by
  constructor
  · intro h
    have hall : ValueSource.given (fun _ => some .null) fs = fs := List.filter_eq_self.2 fun _ _ => rfl
    exact hall ▸ h fun _ => some .null
  · intro h values
    exact h.sublist (List.filter_sublist.map _)

/-- **No statement of a schema lists a column twice** exactly if the fields that it was made of have distinct columns.
Its statements list the columns of these fields, the primary keys first and the embedded ones last; among them are
all columns and all labels, and in an insertion or an update the columns of any fields that have values. -/
theorem columns_nodup_iff (h : s.Accepted fields) :
    s.Lists (Field.sorted fields) ∧
      ((s.fields.map (·.column)).Nodup ↔ (fields.map (·.column)).Nodup) ∧
      ((s.refs.map (·.ref.label)).Nodup ↔ (fields.map (·.column)).Nodup) ∧
      ((∀ values : ValueSource, ((values.given (Field.sorted fields)).map (·.column)).Nodup) ↔
        (fields.map (·.column)).Nodup) := by
  obtain ⟨table, hnew⟩ := h.exists_new
  have hfields := fields_of_new hnew
  have hsorted : ((Field.sorted fields).map (·.column)).Nodup ↔ (fields.map (·.column)).Nodup :=
    ((Field.sorted_perm fields).map _).nodup_iff
  refine ⟨hfields ▸ (checked_of_new hnew).1.lists, ?_, ?_, nodup_given_iff.trans hsorted⟩
  · rw [hfields, hsorted]
  · rw [nodup_labels_iff, hfields, hsorted]

/-- A record with two fields whose names differ in case alone, one of them embedded and with a column of its own. -/
def renamedRecord : Declaration where
  typeName := "Item"
  members := [.embedded "Base" "" "Base" [.field "Id" "column:base_id" .string] none, .field "ID" "" (.int 64)]

def ownField : Field := { name := "ID", column := "id", type := .signed .w64 }

def baseField : Field := { name := "Id", column := "base_id", type := .text, embedded := true }

/-- Fields whose names differ in case alone have columns of their own, if a tag says so. -/
theorem columns_nodup_iff_renamed :
    renamedRecord.fields = .ok [baseField, ownField] ∧
      Schema.ofDeclaration renamedRecord = .ok ⟨"item", "item", [ownField, baseField]⟩ ∧
      Schema.Lists ⟨"item", "item", [ownField, baseField]⟩ [ownField, baseField] ∧
      ([ownField, baseField].map (·.column)).Nodup := by
  have hfields : renamedRecord.fields = .ok [baseField, ownField] := rfl
  have htable : renamedRecord.table = .ok "item" := rfl
  have hnew : Schema.new "item" [baseField, ownField] = .ok ⟨"item", "item", [ownField, baseField]⟩ := rfl
  have hs := ofDeclaration_of_new hfields htable hnew
  obtain ⟨hlists, hcolumns, -, -⟩ := columns_nodup_iff (.ofDeclaration hfields hs)
  exact ⟨hfields, hs, hlists, hcolumns.2 (by decide)⟩

/-- A record with two fields whose names differ in case alone. -/
def twinRecord : Declaration where
  typeName := "T"
  members := [.field "ID" "" (.int 64), .field "Id" "" .string]

def twinField : Field := { name := "Id", column := "id", type := .text }

/-- Two names that differ in case alone stand for one column, which the statements then list twice. -/
theorem columns_not_nodup :
    let s : Schema := ⟨"t", "t", [ownField, twinField]⟩
    Schema.new "t" [.plain "ID" (.signed .w64), .plain "Id" .text] = .ok s ∧
      Schema.ofDeclaration twinRecord = .ok s ∧ ¬ (s.fields.map (·.column)).Nodup ∧
      (Dialect.sqliteTypes.script s).map (·.createTable) = .ok "CREATE TABLE t (\n    id INTEGER,\n    id TEXT\n)" ∧
      (Assembly.select (some s) none).map (·.sql) = .ok "SELECT t.id AS t__id, t.id AS t__id FROM t" ∧
      (Assembly.insert s fun _ => some .null).map (·.sql) = .ok "INSERT INTO t (id, id) VALUES (?, ?)" ∧
      (Assembly.update s (fun _ => some .null) (some (.nullCheck ⟨"t", "id"⟩ true))).map (·.sql) =
        .ok "UPDATE t SET id = ?, id = ? WHERE t.id IS NULL" := by
  have hfields : twinRecord.fields = .ok [ownField, twinField] := rfl
  have htable : twinRecord.table = .ok "t" := rfl
  have hnew : Schema.new "t" [ownField, twinField] = .ok ⟨"t", "t", [ownField, twinField]⟩ := rfl
  exact ⟨rfl, ofDeclaration_of_new hfields htable hnew, by decide, rfl, rfl, rfl, rfl⟩

end Schema

end SchemaSql
