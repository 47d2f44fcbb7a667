import SchemaSql.Schema.Validate

/-!
# Rows as record values

A row of a result holds the columns of one or more tables, each under the label that tells its table. A
schema takes the columns that are its own and validates them like any other input. A joined table may have
no row to match; then all its columns are null, and there is no record value.
-/

namespace SchemaSql

namespace Schema

/-- The values that a row has for the fields of a schema. Of several columns for one field the last one
counts. -/
def rowValues (s : Schema) (r : Row) : Keyed Json :=
  Keyed.ofList (r.filterMap fun column => (s.fieldOfLabel? column.1).map fun f => (f.name, column.2.toJson))

/-- **The record value of a row.** -/
def readRow (s : Schema) (r : Row) : Except Error RecordValue :=
  s.validate (.object (s.rowValues r))

/-- A row has nothing for a schema but nulls. -/
def isUnmatched (s : Schema) (r : Row) : Bool :=
  (s.rowValues r).all fun e => e.2.isNull

/-- **The record value of a joined table**, `none` if the row has no match in it. -/
def readMatch (s : Schema) (r : Row) : Except Error (Option RecordValue) :=
  if s.isUnmatched r then .ok none else (s.readRow r).map some

end Schema

/-- **A row of joined tables**: the record value of the first one, and those of the others that match. -/
structure JoinedRow where
  base : RecordValue
  joined : List (Option RecordValue)

namespace JoinedRow

/-- **Reads a row of joined tables**, the first one before the others. -/
def read (base : Schema) (joined : List Schema) (r : Row) : Except Error JoinedRow := do
  let first ← base.readRow r
  let others ← joined.mapM fun s => s.readMatch r
  .ok ⟨first, others⟩

end JoinedRow

end SchemaSql
