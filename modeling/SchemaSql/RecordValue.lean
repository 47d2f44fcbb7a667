import SchemaSql.Error

/-!
# Record values

The values of the fields of a record, under the names of the fields. Validation makes them, both from
input and from the rows of a database; they are read back by name, as they are or as typed values.
-/

namespace SchemaSql

/-- **Validated values** of one table, in the order of their names. -/
structure RecordValue where
  table : String
  values : Keyed Json

namespace RecordValue

/-- The value of a field. -/
def get? (v : RecordValue) (name : String) : Option Json :=
  v.values.get? name

/-- There is a value for a field, which may be null. -/
def has (v : RecordValue) (name : String) : Bool :=
  v.values.hasKey name

/-- The number of values. -/
def size (v : RecordValue) : Nat :=
  v.values.length

def isEmpty (v : RecordValue) : Bool :=
  v.values.isEmpty

/-- The names of the fields that have values, in order. -/
def names (v : RecordValue) : List String :=
  v.values.keys

/-- The values as an object. -/
def toJson (v : RecordValue) : Json :=
  .object v.values

/-- The written form: the table and the values. -/
def written (v : RecordValue) : Json :=
  .object [("table", .string v.table), ("values", v.toJson)]

/-- **Reads the written form.** -/
def ofWritten? (w : Json.Written) : Option RecordValue := do
  match ← w.parts? ["table", "values"] with
  | [table, values] =>
    let table ← Json.Written.stringPart? table
    let values ← (← values).value?
    let members ← values.members?
    some ⟨table, members⟩
  | _ => none

/-- **Reads a record value** from a JSON text. -/
def parse? (text : String) : Option RecordValue :=
  (Json.Written.read? text).bind ofWritten?

/-- **The value of a field with a reader**: `none` if it is missing or null. -/
def read {α : Type} (v : RecordValue) (name : String) (reader : Json → Except Json.ReadFault α) :
    Except Error (Option α) :=
  match Json.readOptional reader (v.get? name) with
  | .ok r => .ok r
  | .error f => .error (.validation (.unexpectedType name f))

/-- The value of a field that a structure requires. -/
def require {α : Type} (v : RecordValue) (name : String) (reader : Json → Except Json.ReadFault α) : Except Error α :=
  match (v.get? name).map reader with
  | some (.ok a) => .ok a
  | _ => .error .json

/-- The value of a field that a structure may lack. -/
def accept {α : Type} (v : RecordValue) (name : String) (reader : Json → Except Json.ReadFault α) :
    Except Error (Option α) :=
  match Json.readOptional reader (v.get? name) with
  | .ok r => .ok r
  | .error _ => .error .json

end RecordValue

end SchemaSql
