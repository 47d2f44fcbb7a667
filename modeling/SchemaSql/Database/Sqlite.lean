import SchemaSql.Database.Exchange
import SchemaSql.Json.Printer

/-!
# Values in SQLite

How arguments of statements become values of SQLite, and these the values of a row. Truth values are stored as the
integers 0 and 1, arrays and objects as their JSON text, and integers beyond 63 bits are refused. `database` lets an
engine run statements after all their arguments are bound. The engine is a parameter.
-/

namespace SchemaSql.Sqlite

/-- **A value as SQLite stores it**: its storage class and its content. -/
inductive Stored where
  | null
  | integer (n : Int64)
  | real (x : Binary64)
  | text (s : String)
  | blob (bs : List UInt8)

/-- **The value of a row for a stored value**, by its storage class. Truth values have no class of their own. -/
def Stored.scan : Stored → SqlValue
  | null => .null
  | integer n => .int n
  | real x => .float x
  | text s => .text s
  | blob bs => .bytes bs

/-- The row for stored values under their labels. -/
def scanRow (r : List (String × Stored)) : Row :=
  r.map fun c => (c.1, c.2.scan)

/-- **The value to which an argument is bound.** -/
def bind : Json → Except Error Stored
  | .null => .ok .null
  | .bool b => .ok (.integer (if b then 1 else 0))
  | .int n =>
    if n.val < 9223372036854775808 then .ok (.integer (Int64.ofInt n.val))
    else .error (.validation (.beyondSqliteRange n.val))
  | .float x => .ok (.real (.finite x))
  | .string s => .ok (.text s)
  | .array xs => .ok (.text (Json.array xs).text)
  | .object ms => .ok (.text (Json.object ms).text)

/-- The values of all arguments of a statement, or what is wrong with the first faulty one. -/
def bindAll (args : List Json) : Except Error (List Stored) :=
  args.mapM bind

/-! ## Statements -/

/-- **An engine** that runs SQL text with values in the places of its parameters, on a state that it changes. -/
structure Engine (σ : Type) where
  query : String → List Stored → σ → Except Error (List (List (String × Stored))) × σ
  execute : String → List Stored → σ → Except Error WriteResult × σ

/-- **The database of an engine.** All arguments of a statement are bound before it runs. -/
def database {σ : Type} (engine : Engine σ) : Database σ where
  query s state :=
    match bindAll s.args with
    | .error e => (.error e, state)
    | .ok vs =>
      let (answer, state) := engine.query s.sql vs state
      (answer.map fun rows => rows.map scanRow, state)
  execute s state :=
    match bindAll s.args with
    | .error e => (.error e, state)
    | .ok vs => engine.execute s.sql vs state

end SchemaSql.Sqlite
