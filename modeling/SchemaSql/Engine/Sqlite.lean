import SchemaSql.Database.Sqlite

/-!
# What SQLite does

This module is no part of the library: it says what the engine behind it does with the few statements that give
arguments back, from which stored values come back as they were bound. Runs without an engine use it in its place. No
definition of the library and no theorem about it rests on it; where the theory needs an engine it takes any that has
the property in question.
-/

namespace SchemaSql.Sqlite

/-- The text of a number has fifteen digits, trailing zeros dropped, which stand around the point from
`1e-4` to below `1e15`. -/
def floatLayout : Binary64.Layout :=
  { digits := .rounded 15, low := -4, high := 15, plus := true, pointed := true, exponentWidth := 2 }

/-- The text of a number. Zero has no sign. -/
def floatText (x : Binary64.Finite) : String :=
  String.ofList (floatLayout.text (if x.index = 0 then .zero false else x))

/-- The text of a value as bytes. Null has no bytes. -/
def castToBytes : Stored → Stored
  | .text s => .blob s.toUTF8.toList
  | .integer n => .blob (Decimal.ofInt n.toInt).toUTF8.toList
  | .real (.finite x) => .blob (floatText x).toUTF8.toList
  | v => v

/-- Values under the labels `c0`, `c1` and so on. -/
def labelled (vs : List Stored) : List (String × Stored) :=
  vs.zipIdx.map fun v => ("c" ++ toString v.2, v.1)

/-- The greatest number of columns in a row. -/
def maxColumns : Nat := 2000

/-- **The row that gives arguments back**, some of them cast to bytes. A row has at least one column. -/
def echo (args : List (Json × Bool)) : Except Error Row := do
  let vs ← bindAll (args.map (·.1))
  if vs.isEmpty ∨ maxColumns < vs.length then .error .sql
  else .ok (scanRow (labelled ((vs.zip (args.map (·.2))).map fun v => if v.2 then castToBytes v.1 else v.1)))

/-- **A store** with room for one table of one column without a type. -/
structure Store where
  column : Option (List Stored) := none

namespace Store

/-- Creates the table, unless there is one. -/
def createTable (s : Store) : Except Error Store :=
  match s.column with
  | none => .ok ⟨some []⟩
  | some _ => .error .sql

/-- The values in the table, in the order in which they were inserted. -/
def values (s : Store) : List SqlValue :=
  (s.column.getD []).map Stored.scan

/-- **Inserts a value.** Rows count from one, and a value that cannot be bound makes none. -/
def insert (s : Store) (v : Json) : Except Error (WriteResult × Store) :=
  match s.column with
  | none => .error .sql
  | some vs =>
    match bind v with
    | .error e => .error e
    | .ok w => .ok (⟨1, some (Int64.ofNat (vs.length + 1))⟩, ⟨some (vs ++ [w])⟩)

end Store

end SchemaSql.Sqlite
