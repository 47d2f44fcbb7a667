import SchemaSql.Dialect.Types
import SchemaSql.Schema.Basic

/-!
# Scripts that create tables

A script creates a table with its columns in their order and one index for each indexed column. A single
primary key is spelled by the dialect at its column; several make up a constraint behind the columns, and
none of them numbers itself.
-/

namespace SchemaSql

/-- **The statements that create a table** and its indexes, with warnings about them. -/
structure TableScript where
  dialect : Dialect
  createTable : String
  indexes : List String
  warnings : List String

namespace TableScript

/-- The statements of a script in their order. -/
def statements (s : TableScript) : List String :=
  s.createTable :: s.indexes

/-- **The text of a script**, each statement with a semicolon on the end of its last line. -/
def text (s : TableScript) : String :=
  String.join (s.statements.map fun t => t ++ ";\n")

end TableScript

namespace TypeTable

/-- A name, between quotes of the dialect if it is reserved. -/
def name (t : TypeTable) (n : String) : String :=
  Identifier.quoteReserved t.dialect n

/-- The type of a column with what makes it a key or refuses null. -/
def typeClause (t : TypeTable) (f : Field) (inlineKey : Bool) : String × Option NarrowKey :=
  let sqlType := t.columnType f.type f.sqlType
  if f.primaryKey && inlineKey then t.keyClause f.type sqlType
  else (if f.refusesNull then sqlType ++ " NOT NULL" else sqlType, none)

/-- The clauses of a column behind its type. -/
def constraints (t : TypeTable) (f : Field) : List String :=
  (if f.unique && !f.primaryKey then ["UNIQUE"] else []) ++
    (match f.default with
      | some d => ["DEFAULT " ++ d]
      | none => []) ++
    (match f.foreignKey with
      | some k => ["REFERENCES " ++ t.name k.table ++ "(" ++ t.name k.column ++ ")"]
      | none => [])

/-- **The definition of a column**, where `inlineKey` says that a primary key is spelled here. -/
def columnDefinition (t : TypeTable) (f : Field) (inlineKey : Bool) : String × Option NarrowKey :=
  let (clause, warning) := t.typeClause f inlineKey
  (" ".intercalate (t.name f.column :: clause :: t.constraints f), warning)

/-- The text of a definition: the column, its type and the clauses behind it. -/
theorem columnDefinition_fst (t : TypeTable) (f : Field) (inlineKey : Bool) :
    (t.columnDefinition f inlineKey).1 =
      " ".intercalate (t.name f.column :: (t.typeClause f inlineKey).1 :: t.constraints f) := by
  simp only [columnDefinition]

/-- **The statement that creates an index** on a column. -/
def createIndex (t : TypeTable) (table column : String) : String :=
  "CREATE INDEX " ++ t.name ("idx_" ++ table ++ "_" ++ column) ++ " ON " ++ t.name table ++ " (" ++ t.name column ++ ")"

/-- **The statement that drops a table.** -/
def dropTable (t : TypeTable) (table : String) : String :=
  "DROP TABLE IF EXISTS " ++ t.name table

/-- A schema has one primary key, which is then spelled at its column. -/
def hasInlineKey (s : Schema) : Bool :=
  s.primaryKeys.length == 1

/-- The constraint for several primary keys. -/
def keyConstraint (t : TypeTable) (s : Schema) : List String :=
  if 1 < s.primaryKeys.length then
    ["PRIMARY KEY (" ++ ", ".intercalate (s.primaryKeys.map fun f => t.name f.column) ++ ")"]
  else []

/-- What stands between the parentheses of the statement that creates a table. -/
def tableBody (t : TypeTable) (s : Schema) : List String :=
  (s.fields.map fun f => (t.columnDefinition f (hasInlineKey s)).1) ++ t.keyConstraint s

/-- The warnings about the columns of a schema. -/
def warnings (t : TypeTable) (s : Schema) : List String :=
  s.fields.filterMap fun f =>
    (t.columnDefinition f (hasInlineKey s)).2.map fun w => s.table ++ "." ++ f.column ++ ": " ++ w.message

/-- **The script that creates the table of a schema.** -/
def script (t : TypeTable) (s : Schema) : Except Error TableScript :=
  if s.isEmpty then .error .emptySchema
  else
    .ok
      { dialect := t.dialect
        createTable := "CREATE TABLE " ++ t.name s.table ++ " (\n    " ++ ",\n    ".intercalate (t.tableBody s) ++ "\n)"
        indexes := (s.fields.filter (·.indexed)).map fun f => t.createIndex s.table f.column
        warnings := t.warnings s }

/-- A schema with fields has a script. -/
theorem exists_script (t : TypeTable) {s : Schema} (hs : s.isEmpty = false) : ∃ script, t.script s = .ok script := by
  rw [script, hs, if_neg Bool.false_ne_true]
  exact ⟨_, rfl⟩

/-- **The statements of a script**: the one that creates the table, and one for each index. -/
theorem script_ok {t : TypeTable} {s : Schema} {script : TableScript} (h : t.script s = .ok script) :
    script.createTable =
        "CREATE TABLE " ++ t.name s.table ++ " (\n    " ++ ",\n    ".intercalate (t.tableBody s) ++ "\n)" ∧
      script.indexes = (s.fields.filter (·.indexed)).map fun f => t.createIndex s.table f.column := by
  unfold TypeTable.script at h
  split at h <;> cases h
  exact ⟨rfl, rfl⟩

end TypeTable

end SchemaSql
