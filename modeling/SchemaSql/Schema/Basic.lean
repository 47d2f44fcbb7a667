import SchemaSql.Declaration.Fields
import SchemaSql.Field.Fingerprint

/-!
# Schemas

A schema binds fields, in the order of columns, to a table. Its qualifier stands before the columns in
statements: the name of the table, or an alias under which the table occurs. A field reference is a field
of a schema with that qualifier; `FieldRef.label` is the label under which a statement selects it, and
`Schema.fieldOfLabel?` finds the field of a label.
-/

namespace SchemaSql

/-- **The fields of a table.** -/
structure Schema where
  table : String
  qualifier : String
  fields : List Field

/-- **A column in a statement**, behind the name of the table or an alias of it. -/
structure ColumnRef where
  qualifier : String
  column : String
deriving DecidableEq

/-- **A field of a schema**, as statements refer to it. -/
structure FieldRef where
  table : String
  qualifier : String
  column : String
  name : String
  type : ScalarType
deriving DecidableEq

namespace ColumnRef

/-- The column behind its qualifier. -/
def text (c : ColumnRef) : String :=
  c.qualifier ++ "." ++ c.column

/-- **The label under which a column is selected.** -/
def label (c : ColumnRef) : String :=
  c.qualifier ++ "__" ++ c.column

end ColumnRef

namespace FieldRef

/-- The column of a field. -/
def ref (f : FieldRef) : ColumnRef :=
  ⟨f.qualifier, f.column⟩

/-- The same field under an alias of its table. -/
def aliased (f : FieldRef) (aliasName : String) : FieldRef :=
  { f with qualifier := aliasName }

end FieldRef

namespace Schema

/-- Checks the fields of a table one after the other: names are distinct, and columns are identifiers. -/
def checkFields (table : String) (seen : List String) : List Field → Except Error Unit
  | [] => .ok ()
  | f :: fs =>
    if f.name ∈ seen then .error (.duplicateField f.name)
    else match Identifier.check f.column with
      | .error e => .error (.invalidIdentifier (.column table f.name) e)
      | .ok _ => checkFields table (f.name :: seen) fs

/-- **The schema of a table with the given fields**, which are brought into the order of columns. -/
def new (table : String) (fields : List Field) : Except Error Schema :=
  match Identifier.check table with
  | .error e => .error (.invalidIdentifier .table e)
  | .ok _ => do
    checkFields table [] fields
    .ok ⟨table, table, Field.sorted fields⟩

/-- **The schema of a declaration.** -/
def ofDeclaration (d : Declaration) : Except Error Schema := do
  let fields ← d.fields
  let table ← d.table
  new table fields

/-- The schema occurs under an alias. -/
def isAliased (s : Schema) : Bool :=
  s.qualifier != s.table

/-- The same schema under an alias. -/
def aliased (s : Schema) (aliasName : String) : Schema :=
  { s with qualifier := aliasName }

def isEmpty (s : Schema) : Bool :=
  s.fields.isEmpty

/-- The field with a name. -/
def field? (s : Schema) (name : String) : Option Field :=
  s.fields.find? fun f => f.name == name

/-- The primary keys in the order of columns. -/
def primaryKeys (s : Schema) : List Field :=
  s.fields.filter (·.primaryKey)

/-- A field of the schema as statements refer to it. -/
def bind (s : Schema) (f : Field) : FieldRef :=
  ⟨s.table, s.qualifier, f.column, f.name, f.type⟩

/-- **The reference to the field with a name.** -/
def ref (s : Schema) (name : String) : Except Error FieldRef :=
  match s.field? name with
  | some f => .ok (s.bind f)
  | none => .error (.unknownField s.table name)

/-- The references to all fields in the order of columns. -/
def refs (s : Schema) : List FieldRef :=
  s.fields.map s.bind

/-- The text before and after the first two underscores in a row. -/
def splitLabel : List Char → Option (List Char × List Char)
  | [] => none
  | c :: rest =>
    match c, rest with
    | '_', '_' :: after => some ([], after)
    | _, _ => (splitLabel rest).map fun (before, after) => (c :: before, after)

/-- The parts of a label make it up again. -/
theorem eq_of_splitLabel {cs qualifier column : List Char} (h : splitLabel cs = some (qualifier, column)) :
    cs = qualifier ++ '_' :: '_' :: column := by
  fun_induction splitLabel cs generalizing qualifier with
  | case1 => cases h
  | case2 after => cases h; rfl
  | case3 c rest _ ih =>
    obtain ⟨⟨before, after⟩, hs, hp⟩ := Option.map_eq_some_iff.1 h
    cases hp
    rw [ih hs, List.cons_append]

/-- **The field that is selected under a label.** A label is cut at the first two underscores in a row
into qualifier and column. -/
def fieldOfLabel? (s : Schema) (label : String) : Option Field :=
  match splitLabel label.toList with
  | none => none
  | some (qualifier, column) =>
    if String.ofList qualifier = s.qualifier then s.fields.find? fun f => f.column == String.ofList column else none

/-- The fingerprint of the table. -/
def fingerprint (s : Schema) : String :=
  Fingerprint.of s.table s.fields

end Schema

end SchemaSql
