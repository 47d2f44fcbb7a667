import SchemaSql.Dialect.Basic
import SchemaSql.Json.Record
import SchemaSql.Scalar.Basic
import SchemaSql.Text.Blank
import SchemaSql.Text.CaseMap

/-!
# Column types

How a dialect spells the type of a column and a primary key that numbers itself. Each dialect has a table
of its own; others can be read from JSON.
-/

namespace SchemaSql

/-- **The column types of a dialect.** -/
structure TypeTable where
  dialect : Dialect
  types : List (ScalarType × String)
  /-- The types whose primary keys number themselves, without arguments. -/
  integerFamily : List String
  /-- The spelling of such a primary key, with a mark in the place of its type. -/
  keyTemplate : String
  /-- The types that are spelled otherwise in such a primary key. -/
  keyTypes : Keyed String
  /-- The type of what has no entry. -/
  fallback : String

namespace TypeTable

/-- The text `{type}` in a template replaced by a type. -/
def fillTemplate (type : List Char) : List Char → List Char
  | '\x7b' :: 't' :: 'y' :: 'p' :: 'e' :: '\x7d' :: rest => type ++ fillTemplate type rest
  | c :: rest => c :: fillTemplate type rest
  | [] => []

/-- **The type of a column**: what its tag says, unless that is blank, or the entry for its scalar type. -/
def columnType (t : TypeTable) (type : ScalarType) (override : Option String) : String :=
  let given := Text.trimmed (override.getD "")
  if given ≠ "" then given else (t.types.lookup type).getD t.fallback

/-- The name of a column type without arguments and further words, in upper case. -/
def baseName (sqlType : String) : List Char :=
  Text.upper ((Text.trim sqlType.toList).takeWhile fun c => !(c = '(' || Text.isBlank c))

/-- Two names differ at most in the case of letters of ASCII. -/
def sameName (a b : List Char) : Bool :=
  a.map Char.toLower == b.map Char.toLower

/-- A column type is one of the integer family. -/
def isInteger (t : TypeTable) (sqlType : String) : Bool :=
  t.integerFamily.any fun n => sameName n.toList (baseName sqlType)

/-- **A warning about a primary key** that is too narrow. -/
structure NarrowKey where
  dialect : Dialect
  type : ScalarType
  width : IntWidth

/-- The wording of a warning. -/
def NarrowKey.message (w : NarrowKey) : String :=
  w.dialect.name ++ ": primary key of type " ++ w.type.name ++ " (" ++ toString w.width.bits ++
    "-bit) is discouraged; small-width primary keys overflow quickly"

/-- The warning about a primary key of a type of at most 16 bits. -/
def narrowKey? (t : TypeTable) (type : ScalarType) : Option NarrowKey :=
  match type.width? with
  | some w => if w.bits ≤ 16 then some ⟨t.dialect, type, w⟩ else none
  | none => none

/-- **The spelling of a primary key** of a column type, and a warning if there is one. -/
def keyClause (t : TypeTable) (type : ScalarType) (sqlType : String) : String × Option NarrowKey :=
  if t.isInteger sqlType then
    let base := baseName sqlType
    let resolved := match t.keyTypes.find? fun e => sameName e.1.toList base with
      | some e => e.2
      | none => sqlType
    (String.ofList (fillTemplate resolved.toList t.keyTemplate.toList), t.narrowKey? type)
  else (sqlType ++ " PRIMARY KEY", none)

/-! ## The written form -/

/-- **The written form of a table of column types.** -/
def toJson (t : TypeTable) : Json :=
  .object
    [("dialect", .string t.dialect.name),
     ("types", .object (t.types.map fun e => (e.1.name, .string e.2))),
     ("integer_family", .array (t.integerFamily.map .string)),
     ("pk_template", .string t.keyTemplate),
     ("pk_type_rewrite", .object (t.keyTypes.map fun e => (e.1, .string e.2))),
     ("fallback", .string t.fallback)]

/-- Texts under keys, in key order. -/
def texts? (w : Json.Written) : Option (Keyed String) := do
  let ms ← w.members?
  let texts ← ms.mapM fun m => (m.2.string?).map fun s => (m.1, s)
  some (Keyed.ofList texts)

/-- The entries of a table for scalar types, in the order of the types. -/
def entries? (m : Keyed String) : Option (List (ScalarType × String)) := do
  let entries ← m.mapM fun e => (ScalarType.ofName? e.1).map fun t => (t, e.2)
  some (ScalarType.all.filterMap fun t => (entries.lookup t).map fun s => (t, s))

/-- Texts under keys that may be missing. -/
def optionalTexts? : Option Json.Written → Option (Keyed String)
  | none => some []
  | some w => texts? w

/-- **Reads a table of column types** as it is written. -/
def ofWritten? (w : Json.Written) : Option TypeTable := do
  match ← w.parts? ["dialect", "types", "integer_family", "pk_template", "pk_type_rewrite", "fallback"] with
  | [dialect, types, family, template, keyTypes, fallback] =>
    let dialect ← Dialect.ofName? (← (← dialect).plainChoice? false)
    let types ← entries? (← texts? (← types))
    let family ← (← (← family).items?).mapM Json.Written.string?
    let template ← Json.Written.stringPart? template
    let keyTypes ← optionalTexts? keyTypes
    let fallback ← Json.Written.stringPart? fallback
    some ⟨dialect, types, family, template, keyTypes, fallback⟩
  | _ => none

/-- **Reads a table of column types** from a JSON text. -/
def parse? (text : String) : Option TypeTable :=
  (Json.Written.read? text).bind ofWritten?

end TypeTable

/-! ## The tables of the dialects -/

namespace Dialect

/-- Primary keys number themselves through serial types. -/
def postgresTypes : TypeTable where
  dialect := postgres
  types :=
    [(.signed .w8, "SMALLINT"), (.signed .w16, "SMALLINT"), (.signed .w32, "INTEGER"), (.signed .w64, "BIGINT"),
     (.unsigned .w8, "SMALLINT"), (.unsigned .w16, "INTEGER"), (.unsigned .w32, "BIGINT"),
     (.unsigned .w64, "BIGINT"), (.float32, "REAL"), (.float64, "DOUBLE PRECISION"), (.bool, "BOOLEAN"),
     (.text, "TEXT"), (.dateTime, "TIMESTAMPTZ")]
  integerFamily := ["SMALLINT", "INTEGER", "INT", "BIGINT"]
  keyTemplate := "\x7btype\x7d PRIMARY KEY"
  keyTypes := [("BIGINT", "BIGSERIAL"), ("INT", "SERIAL"), ("INTEGER", "SERIAL"), ("SMALLINT", "SMALLSERIAL")]
  fallback := "TEXT"

/-- Primary keys number themselves by a word behind them. -/
def mysqlTypes : TypeTable where
  dialect := mysql
  types :=
    [(.signed .w8, "TINYINT"), (.signed .w16, "SMALLINT"), (.signed .w32, "INT"), (.signed .w64, "BIGINT"),
     (.unsigned .w8, "TINYINT UNSIGNED"), (.unsigned .w16, "SMALLINT UNSIGNED"), (.unsigned .w32, "INT UNSIGNED"),
     (.unsigned .w64, "BIGINT UNSIGNED"), (.float32, "FLOAT"), (.float64, "DOUBLE"), (.bool, "BOOLEAN"),
     (.text, "VARCHAR(255)"), (.dateTime, "DATETIME")]
  integerFamily := ["TINYINT", "SMALLINT", "MEDIUMINT", "INT", "INTEGER", "BIGINT"]
  keyTemplate := "\x7btype\x7d PRIMARY KEY AUTO_INCREMENT"
  keyTypes := []
  fallback := "LONGTEXT"

/-- Primary keys number themselves if they are of the one integer type. -/
def sqliteTypes : TypeTable where
  dialect := sqlite
  types :=
    [(.signed .w8, "INTEGER"), (.signed .w16, "INTEGER"), (.signed .w32, "INTEGER"), (.signed .w64, "INTEGER"),
     (.unsigned .w8, "INTEGER"), (.unsigned .w16, "INTEGER"), (.unsigned .w32, "INTEGER"),
     (.unsigned .w64, "INTEGER"), (.float32, "REAL"), (.float64, "REAL"), (.bool, "BOOLEAN"), (.text, "TEXT"),
     (.dateTime, "DATETIME")]
  integerFamily := ["INTEGER"]
  keyTemplate := "INTEGER PRIMARY KEY"
  keyTypes := []
  fallback := "TEXT"

/-- **The column types of a dialect.** -/
def types : Dialect → TypeTable
  | postgres => postgresTypes
  | mysql => mysqlTypes
  | sqlite => sqliteTypes

end Dialect

end SchemaSql
