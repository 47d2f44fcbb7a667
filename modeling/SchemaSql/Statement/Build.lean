import SchemaSql.Predicate.Join
import SchemaSql.RecordValue

/-!
# Statements in pieces

The statements that read and write the rows of a table, with every value in its place. Columns are selected
under labels that tell their table and column. Statements that change or delete rows need a predicate with a
text and a table that occurs under its own name; they are refused otherwise, never weakened. What is sent to a
database is assembled without pieces, to the same effect.
-/

namespace SchemaSql

/-- **A direction of sorting.** -/
inductive Direction where
  | ascending
  | descending
deriving DecidableEq

def Direction.sql : Direction → String
  | ascending => "ASC"
  | descending => "DESC"

/-- **A window on the rows of a result**, in an order. -/
structure Page where
  order : List (FieldRef × Direction) := []
  limit : UInt64
  offset : UInt64 := 0

/-- **Where the values to write come from**: the value of a field, if there is one. -/
abbrev ValueSource := String → Option Json

/-- The members of an object as values to write; other values have none. -/
def ValueSource.ofJson (j : Json) : ValueSource :=
  fun name => j.get? name

/-- The values of a record value. -/
def ValueSource.ofRecord (v : RecordValue) : ValueSource :=
  fun name => v.get? name

/-- A word as a JSON value. -/
def Json.word (n : UInt64) : Json :=
  .int ⟨n.toNat, by omega, by have := n.toNat_lt; omega⟩

namespace Schema

/-- The occurrence of a schema's table. -/
def source (s : Schema) : TableRef :=
  ⟨s.table, if s.isAliased then some s.qualifier else none⟩

end Schema

namespace Build

/-- Columns under their labels. -/
def projection (cs : List FieldRef) : String :=
  ", ".intercalate (cs.map fun c => c.ref.text ++ " AS " ++ c.ref.label)

/-- A schema that is there and has fields. -/
def nonEmpty (s : Option Schema) : Except Error Schema :=
  match s with
  | some s => if s.isEmpty then .error .emptySchema else .ok s
  | none => .error .emptySchema

/-- A table that occurs under its own name. -/
def unaliased (verb : Verb) (s : Schema) : Except Error Unit :=
  if s.isAliased then .error (.aliasedTarget verb s.table s.qualifier) else .ok ()

/-- A predicate that is there and has a text. -/
def required (verb : Verb) (filter : Option Predicate) : Except Error Fragment :=
  match filter with
  | some p => if p.render.isEmpty then .error (.missingWhere verb) else .ok p.render
  | none => .error (.missingWhere verb)

/-- **All rows of a table** for which a predicate holds. -/
def select (s : Option Schema) (filter : Option Predicate) : Except Error Fragment := do
  let s ← nonEmpty s
  .ok (.text ("SELECT " ++ projection s.refs ++ " FROM " ++ s.source.text) :: Predicate.whereClause filter)

/-- **The rows of joined tables** for which a predicate holds. -/
def selectJoin (base : Schema) (columns : List FieldRef) (joins : List Join) (filter : Option Predicate) :
    Except Error Fragment :=
  if columns.isEmpty then .error .emptySchema
  else
    .ok (.text ("SELECT " ++ projection columns ++ " FROM " ++ base.source.text) ::
      joins.flatMap (fun j => .text " " :: j.clause) ++ Predicate.whereClause filter)

/-- The columns for which there are values, with the values. -/
def assignments (s : Schema) (values : ValueSource) : List (String × Json) :=
  s.fields.filterMap fun f => (values f.name).map fun v => (f.column, v)

/-- The columns for which there are values, at least one. -/
def someAssignments (verb : Verb) (s : Schema) (values : ValueSource) : Except Error (List (String × Json)) :=
  let cs := assignments s values
  if cs.isEmpty then .error (.noFields verb) else .ok cs

/-- **A new row** with the values that are there. -/
def insert (s : Schema) (values : ValueSource) : Except Error Fragment := do
  let cs ← someAssignments .insert s values
  .ok (.text ("INSERT INTO " ++ s.table ++ " (" ++ ", ".intercalate (cs.map (·.1)) ++ ") VALUES (") ::
    Fragment.values (cs.map (·.2)) ++ [.text ")"])

/-- **New values** in the rows for which a predicate holds. -/
def update (s : Schema) (values : ValueSource) (filter : Option Predicate) : Except Error Fragment := do
  unaliased .update s
  let condition ← required .update filter
  let cs ← someAssignments .update s values
  let sets := Fragment.joined ", " (cs.map fun c => [.text (c.1 ++ " = "), .value c.2])
  .ok (.text ("UPDATE " ++ s.table ++ " SET ") :: sets ++ .text " WHERE " :: condition)

/-- **No more rows** for which a predicate holds. -/
def delete (s : Schema) (filter : Option Predicate) : Except Error Fragment := do
  unaliased .delete s
  let condition ← required .delete filter
  .ok (.text ("DELETE FROM " ++ s.table ++ " WHERE ") :: condition)

/-- **The number of rows** for which a predicate holds. -/
def count (s : Schema) (filter : Option Predicate) : Except Error Fragment :=
  .ok (.text ("SELECT COUNT(*) AS count FROM " ++ s.source.text) :: Predicate.whereClause filter)

/-- The columns by which a page is sorted: those that it names, or the primary keys. -/
def orderTerms (s : Schema) (p : Page) : List String :=
  if p.order.isEmpty then s.primaryKeys.map fun f => (s.bind f).ref.text ++ " " ++ Direction.ascending.sql
  else p.order.map fun o => o.1.ref.text ++ " " ++ o.2.sql

/-- The clause by which a page is sorted, if there is anything to sort by. -/
def orderClause (s : Schema) (p : Page) : String :=
  let terms := orderTerms s p
  if terms.isEmpty then "" else " ORDER BY " ++ ", ".intercalate terms

/-- **One page of the rows** for which a predicate holds. -/
def selectPage (s : Option Schema) (filter : Option Predicate) (p : Page) : Except Error Fragment := do
  let rows ← select s filter
  let s ← nonEmpty s
  .ok (rows ++ [.text (orderClause s p ++ " LIMIT "), .value (.word p.limit), .text " OFFSET ", .value (.word p.offset)])

end Build

end SchemaSql
