import SchemaSql.Proofs.Schema.Acceptance
import SchemaSql.Proofs.Statement.Spelling

/-!
# What creates a table

`TableDefinition` is the statement that creates a table in its parts: the definitions of its columns, and the columns of
a constraint behind them. `Schema.CreatedAs` says which parts the script of a schema has. Primary keys are treated in
two ways, depending on how many there are, although columns are defined one by one: a single one is spelled by the
dialect at its column, and several are listed in the constraint. Either way a column refuses null in the statement
exactly if validation refuses it (`Schema.refusesNull_iff`, `Field.DefinedAs.null`).

Types, literals and the spelling of a key are texts that the statement takes over; nothing is said of what a database
reads in them.
-/

namespace SchemaSql

/-- **What stands behind the name of a column**: its type, marked if the column refuses null, or the spelling of a
primary key of that type. -/
inductive ColumnKind where
  | plain (sqlType : String) (notNull : Bool)
  | key (clause : String)

namespace ColumnKind

def text : ColumnKind → String
  | plain sqlType true => sqlType ++ " NOT NULL"
  | plain sqlType false => sqlType
  | key clause => clause

/-- The column is spelled as a primary key. -/
def isKey : ColumnKind → Bool
  | plain _ _ => false
  | key _ => true

/-- The column is marked as one that refuses null. -/
def marksNull : ColumnKind → Bool
  | plain _ notNull => notNull
  | key _ => false

end ColumnKind

/-- **The definition of a column.** -/
structure ColumnDefinition where
  column : String
  kind : ColumnKind
  unique : Bool
  default : Option String
  references : Option ForeignKey

namespace ColumnDefinition

/-- The clauses behind the type. -/
def constraints (c : ColumnDefinition) : List String :=
  (if c.unique then ["UNIQUE"] else []) ++ (c.default.map fun d => "DEFAULT " ++ d).toList ++
    (c.references.map fun k => "REFERENCES " ++ k.table ++ "(" ++ k.column ++ ")").toList

def text (c : ColumnDefinition) : String :=
  " ".intercalate (c.column :: c.kind.text :: c.constraints)

/-- A definition starts with the name of its column. -/
theorem text_eq (c : ColumnDefinition) :
    c.text = c.column ++ " " ++ " ".intercalate (c.kind.text :: c.constraints) := by
  rw [text, String.intercalate_cons_cons]

end ColumnDefinition

/-- **A statement that creates a table**, in its parts. -/
structure TableDefinition where
  table : String
  columns : List ColumnDefinition
  /-- The columns of the constraint behind the definitions, which is left out if there are none. -/
  key : List String

namespace TableDefinition

def keyConstraint (d : TableDefinition) : List String :=
  if d.key = [] then [] else ["PRIMARY KEY (" ++ ", ".intercalate d.key ++ ")"]

def text (d : TableDefinition) : String :=
  "CREATE TABLE " ++ d.table ++ " (\n    " ++
    ",\n    ".intercalate (d.columns.map ColumnDefinition.text ++ d.keyConstraint) ++ "\n)"

end TableDefinition

namespace Schema

/-- The primary keys that are listed together: all of them if there are at least two. -/
def listedKeys (s : Schema) : List Field :=
  if 2 ≤ s.primaryKeys.length then s.primaryKeys else []

/-- **The table of a schema** with given definitions of its columns, in their order. -/
def definition (s : Schema) (define : Field → ColumnDefinition) : TableDefinition :=
  ⟨s.table, s.fields.map define, s.listedKeys.map (·.column)⟩

/-- **Validation refuses null** under a name, whatever else an object holds. -/
def RefusesNull (s : Schema) (name : String) : Prop :=
  ∀ ms, (name, Json.null) ∈ ms → ∃ e, s.validate (.object ms) = .error e

end Schema

/-- **How the column of a field is defined** in the table of its schema. The dialect spells the primary key at the
column if there is no other one; and the column is marked, spelled as a primary key or listed as one exactly if
validation refuses null for the field. -/
structure Field.DefinedAs (f : Field) (s : Schema) (t : TypeTable) (c : ColumnDefinition) : Prop where
  starts : ∃ clauses, c.text = f.column ++ " " ++ clauses
  column : c.column = f.column
  key : c.kind = .key (t.keyClause f.type (t.columnType f.type f.sqlType)).1 ↔ s.primaryKeys = [f]
  plain : s.primaryKeys ≠ [f] → ∃ notNull, c.kind = .plain (t.columnType f.type f.sqlType) notNull
  null : c.kind.marksNull = true ∨ c.kind.isKey = true ∨ f ∈ s.listedKeys ↔ s.RefusesNull f.name
  unique : c.unique = true ↔ f.unique = true ∧ f.primaryKey = false
  default : c.default = f.default
  references : c.references = f.foreignKey.map fun k => ⟨t.name k.table, t.name k.column⟩

/-- **What the script of a schema creates**: a table with one column for each field and a constraint for several
primary keys, and one index for each indexed field. -/
structure Schema.CreatedAs (s : Schema) (t : TypeTable) (script : TableScript) (define : Field → ColumnDefinition) :
    Prop where
  created : script.createTable = (s.definition define).text
  columns : ∀ f ∈ s.fields, f.DefinedAs s t (define f)
  indexes : script.indexes = (s.fields.filter (·.indexed)).map fun f =>
    "CREATE INDEX idx_" ++ s.table ++ "_" ++ f.column ++ " ON " ++ s.table ++ " (" ++ f.column ++ ")"

/-! ## Refused nulls -/

namespace Schema

variable {s : Schema} {f : Field}

/-- **Validation refuses null for a field** exactly if its column is declared to refuse it or is a primary key. -/
theorem refusesNull_iff (hs : s.Checked) (hf : f ∈ s.fields) : s.RefusesNull f.name ↔ f.refusesNull = true := by
  have hfield := hs.field?_of_mem hf
  constructor
  · intro h
    by_contra hr
    have hvalue : s.validateValue f.name .null = .ok .null :=
      validateValue_eq_ok_iff.2 ⟨f, hfield, fun hr' => absurd hr' hr, ScalarType.coerce_null f.type⟩
    obtain ⟨e, he⟩ := h [(f.name, .null)] List.mem_cons_self
    simp only [validate, validateMembers, hvalue] at he
    cases he
  · intro hr ms hm
    cases hvs : s.validateMembers ms with
    | error e => exact ⟨.validation e, by simp only [validate, hvs]⟩
    | ok vs =>
      obtain ⟨v, hv⟩ := exists_validateMembers_iff.1 ⟨vs, hvs⟩ _ hm
      obtain ⟨g, hg, hnull, -⟩ := validateValue_eq_ok_iff.1 hv
      cases hfield.symm.trans hg
      exact absurd rfl (hnull hr)

/-! ## Primary keys -/

theorem mem_primaryKeys : f ∈ s.primaryKeys ↔ f ∈ s.fields ∧ f.primaryKey = true :=
  List.mem_filter

/-- **A field is the only primary key** exactly if it is one and there is one. -/
theorem primaryKeys_eq_singleton_iff (hf : f ∈ s.fields) :
    s.primaryKeys = [f] ↔ (f.primaryKey && TypeTable.hasInlineKey s) = true := by
  rw [Bool.and_eq_true, TypeTable.hasInlineKey, beq_iff_eq, List.length_eq_one_iff]
  constructor
  · intro h
    exact ⟨(mem_primaryKeys.1 (h ▸ List.mem_singleton_self f)).2, f, h⟩
  · rintro ⟨hkey, g, hg⟩
    have hmem : f ∈ s.primaryKeys := mem_primaryKeys.2 ⟨hf, hkey⟩
    rw [hg, List.mem_singleton] at hmem
    rw [hg, hmem]

/-- A primary key is the only one or listed with the others. -/
theorem mem_listedKeys_iff (hf : f ∈ s.fields) : f ∈ s.listedKeys ↔ f.primaryKey = true ∧ s.primaryKeys ≠ [f] := by
  rw [listedKeys]
  constructor
  · intro h
    split at h
    · rename_i hmany
      refine ⟨(mem_primaryKeys.1 h).2, fun hone => ?_⟩
      rw [hone, List.length_singleton] at hmany
      omega
    · exact absurd h List.not_mem_nil
  · rintro ⟨hkey, hother⟩
    have hmem : f ∈ s.primaryKeys := mem_primaryKeys.2 ⟨hf, hkey⟩
    split
    · exact hmem
    · rename_i hfew
      have hpos := List.length_pos_of_mem hmem
      obtain ⟨g, hg⟩ := List.length_eq_one_iff.1 (show s.primaryKeys.length = 1 by omega)
      rw [hg, List.mem_singleton] at hmem
      exact absurd (hmem ▸ hg) hother

end Schema

/-! ## The script in its parts -/

namespace TypeTable

variable {t : TypeTable} {s : Schema} {f : Field}

/-- The definition of the column of a field. -/
def define (t : TypeTable) (s : Schema) (f : Field) : ColumnDefinition where
  column := f.column
  kind :=
    if s.primaryKeys = [f] then .key (t.keyClause f.type (t.columnType f.type f.sqlType)).1
    else .plain (t.columnType f.type f.sqlType) f.refusesNull
  unique := f.unique && !f.primaryKey
  default := f.default
  references := f.foreignKey.map fun k => ⟨t.name k.table, t.name k.column⟩

theorem kind_define_of_eq (h : s.primaryKeys = [f]) :
    (t.define s f).kind = .key (t.keyClause f.type (t.columnType f.type f.sqlType)).1 :=
  if_pos h

theorem kind_define_of_ne (h : s.primaryKeys ≠ [f]) :
    (t.define s f).kind = .plain (t.columnType f.type f.sqlType) f.refusesNull :=
  if_neg h

/-- **A column is spelled as a primary key** if it is the only one, and by its type otherwise. -/
theorem typeClause_fst (hf : f ∈ s.fields) : (t.typeClause f (hasInlineKey s)).1 = (t.define s f).kind.text := by
  have hone := Schema.primaryKeys_eq_singleton_iff hf
  unfold typeClause
  dsimp only
  by_cases h : s.primaryKeys = [f]
  · rw [kind_define_of_eq h, if_pos (hone.1 h)]
    rfl
  · rw [kind_define_of_ne h, if_neg (hone.not.1 h)]
    generalize t.columnType f.type f.sqlType = sqlType
    cases f.refusesNull <;> rfl

theorem constraints_define : t.constraints f = (t.define s f).constraints := by
  rw [constraints, define, ColumnDefinition.constraints]
  cases f.default <;> cases f.foreignKey <;> simp only [Option.map_none, Option.map_some, Option.toList_none,
    Option.toList_some]

theorem columnDefinition_define (hs : s.Checked) (hf : f ∈ s.fields) :
    (t.columnDefinition f (hasInlineKey s)).1 = (t.define s f).text := by
  rw [columnDefinition_fst, typeClause_fst hf, constraints_define (s := s), name,
    (hs.columns f hf).quoteReserved, ColumnDefinition.text]
  rfl

theorem keyConstraint_definition (hs : s.Checked) (define : Field → ColumnDefinition) :
    t.keyConstraint s = (s.definition define).keyConstraint := by
  have hnames : s.primaryKeys.map (fun f => t.name f.column) = s.primaryKeys.map (·.column) :=
    List.map_congr_left fun f hf => (hs.columns f (Schema.mem_primaryKeys.1 hf).1).quoteReserved _
  rw [keyConstraint, hnames, TableDefinition.keyConstraint, Schema.definition, Schema.listedKeys]
  by_cases h : 2 ≤ s.primaryKeys.length
  · have hne : s.primaryKeys.map (·.column) ≠ [] := by
      intro hnil
      rw [List.map_eq_nil_iff.1 hnil] at h
      exact absurd h (by decide)
    simp only [if_pos h, if_neg hne, if_pos (show 1 < s.primaryKeys.length from h)]
  · simp only [if_neg h, if_neg (show ¬ 1 < s.primaryKeys.length from h), List.map_nil, ↓reduceIte]

/-- The statement that creates the table of a checked schema has the parts of its definition. -/
theorem tableBody_definition (hs : s.Checked) :
    t.tableBody s = (s.definition (t.define s)).columns.map ColumnDefinition.text ++
      (s.definition (t.define s)).keyConstraint := by
  have hcolumns : s.fields.map (fun f => (t.columnDefinition f (hasInlineKey s)).1) =
      s.fields.map fun f => (t.define s f).text :=
    List.map_congr_left fun f hf => columnDefinition_define hs hf
  rw [tableBody, hcolumns, keyConstraint_definition hs (t.define s), Schema.definition, List.map_map]
  rfl

theorem createIndex_eq (t : TypeTable) {table column : String} (ht : Identifier.Valid table)
    (hc : Identifier.Valid column) : t.createIndex table column =
      "CREATE INDEX idx_" ++ table ++ "_" ++ column ++ " ON " ++ table ++ " (" ++ column ++ ")" := by
  have hname : t.name ("idx_" ++ table ++ "_" ++ column) = "idx_" ++ table ++ "_" ++ column :=
    (ht.indexName hc).quoteReserved _
  have htable : t.name table = table := ht.quoteReserved _
  have hcolumn : t.name column = column := hc.quoteReserved _
  have hstart : "CREATE INDEX " ++ "idx_" = "CREATE INDEX idx_" := rfl
  unfold createIndex
  rw [hname, htable, hcolumn]
  simp only [← String.append_assoc, hstart]

end TypeTable

namespace Schema

variable {s : Schema} {f : Field}

/-- **A column is defined** by what its field says and by the number of primary keys. -/
theorem Checked.definedAs (hs : s.Checked) (hf : f ∈ s.fields) (t : TypeTable) : f.DefinedAs s t (t.define s f) := by
  have hnull := refusesNull_iff hs hf
  have hlisted := mem_listedKeys_iff hf
  constructor
  case starts => exact ⟨_, (t.define s f).text_eq⟩
  case column => rfl
  case key =>
    by_cases h : s.primaryKeys = [f]
    · exact iff_of_true (if_pos h) h
    · rw [TypeTable.kind_define_of_ne h]
      exact iff_of_false ColumnKind.noConfusion h
  case plain =>
    intro h
    exact ⟨f.refusesNull, TypeTable.kind_define_of_ne h⟩
  case null =>
    rw [hnull, hlisted]
    by_cases h : s.primaryKeys = [f]
    · have hkey : f.primaryKey = true := (mem_primaryKeys.1 (h ▸ List.mem_singleton_self f)).2
      rw [TypeTable.kind_define_of_eq h, Field.refusesNull, hkey, Bool.or_true]
      exact iff_of_true (.inr (.inl rfl)) rfl
    · -- a listed primary key is marked as well
      rw [TypeTable.kind_define_of_ne h]
      simp only [ColumnKind.marksNull, ColumnKind.isKey, Field.refusesNull, Bool.or_eq_true, ne_eq, h,
        not_false_eq_true, and_true, Bool.false_eq_true, false_or, or_assoc, or_self]
  case unique => rw [TypeTable.define, Bool.and_eq_true, Bool.not_eq_true']
  case default => rfl
  case references => rfl

/-- **A script of a checked schema** creates its table. -/
theorem Checked.createdAs (hs : s.Checked) {t : TypeTable} {script : TableScript} (h : t.script s = .ok script) :
    s.CreatedAs t script (t.define s) := by
  have hname : t.name s.table = s.table := hs.table.quoteReserved _
  obtain ⟨hcreate, hindexes⟩ := TypeTable.script_ok h
  constructor
  case created =>
    rw [hcreate, hname, TypeTable.tableBody_definition hs]
    rfl
  case columns => exact fun f hf => hs.definedAs hf t
  case indexes =>
    rw [hindexes]
    exact List.map_congr_left fun f hf => t.createIndex_eq hs.table (hs.columns f (List.mem_filter.1 hf).1)

/-- **The script of a schema with fields** can be made in every dialect. It defines one column for each field in the
order of columns, with a constraint for several primary keys behind them, and one index for each indexed field; and
its columns refuse null where validation does. -/
theorem exists_createdAs (hs : s.Made) (hfields : s.isEmpty = false) (t : TypeTable) :
    ∃ script define, t.script s = .ok script ∧ s.CreatedAs t script define := by
  obtain ⟨script, hok⟩ := t.exists_script hfields
  exact ⟨script, t.define s, hok, hs.checked.createdAs hok⟩

/-- Two primary keys are marked at their columns and listed behind them. -/
theorem createdAs_orderLine :
    let s : Schema := ⟨"order_line", "order_line", orderLineFields⟩
    s.Made ∧ s.isEmpty = false ∧
      (Dialect.mysqlTypes.script s).toOption.map (·.statements) =
        some ["CREATE TABLE order_line (\n    id BIGINT NOT NULL,\n    order_ INT NOT NULL,\n    " ++
            "owner BIGINT DEFAULT 0 REFERENCES accounts(user_id),\n    PRIMARY KEY (id, order_)\n)",
          "CREATE INDEX idx_order_line_owner ON order_line (owner)"] ∧
      ∃ script define, Dialect.mysqlTypes.script s = .ok script ∧ s.CreatedAs Dialect.mysqlTypes script define := by
  intro s
  have hnew : Schema.new "order_line" orderLineFields = .ok s := rfl
  have hs : s.Made := .new hnew
  refine ⟨hs, rfl, by decide +kernel, exists_createdAs hs rfl Dialect.mysqlTypes⟩

end Schema

end SchemaSql
