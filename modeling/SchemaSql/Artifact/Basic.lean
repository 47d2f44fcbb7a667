import SchemaSql.Predicate.Join
import SchemaSql.Statement.TableScript
import SchemaSql.Text.Literal

/-!
# Artifacts of a record

For each record a source text with constants for its table and its fields, in the Rust language, and for
each dialect a script that creates the table. All of them are made before anything is written.
-/

namespace SchemaSql

/-- **What is generated**: for which dialects, into which directory, and whether with a source text. -/
structure ArtifactConfig where
  directory : String
  dialects : List Dialect := Dialect.all
  withSource : Bool := true

/-- **Everything that is generated for a record.** -/
structure Artifacts where
  typeName : String
  table : String
  source : String
  scripts : List TableScript
  warnings : List String
  fingerprint : String

namespace Artifacts

/-- A declaration of a constant with a string. -/
def constant (name value : String) : String :=
  "pub const " ++ name ++ ": &str = " ++ Text.Literal.ofString value ++ ";\n"

/-- The name of the constant of a field: its name in snake case, in upper case. -/
def constantName (f : Field) : String :=
  Text.uppercase (SnakeCase.ofName f.name)

/-- The declaration of the array with the names of all fields. -/
def fieldArray (fs : List Field) : String :=
  "pub const FIELDS: [&str; " ++ toString fs.length ++ "] = [" ++
    ", ".intercalate (fs.map fun f => Text.Literal.ofString f.name) ++ "];\n"

/-- The declaration of the constant of a field, under its column. -/
def fieldConstant (f : Field) : String :=
  "    /// Column \x60" ++ f.column ++ "\x60\n    " ++ constant (constantName f) f.name

/-- **The source text of a record.** -/
def sourceText (typeName : String) (s : Schema) : String :=
  "// Code generated by metasql for " ++ typeName ++ ". DO NOT EDIT.\n\n" ++
    constant "TABLE" s.table ++
    constant "CONTENT_HASH" s.fingerprint ++
    constant "SELF_JOIN_ALIAS" (s.table ++ Join.selfSuffix) ++
    "\n/// Field names in column order\n" ++ fieldArray s.fields ++
    "\npub mod fields \x7b\n" ++ String.join (s.fields.map fieldConstant) ++ "\x7d\n"

/-- **The artifacts of a schema.** -/
def ofSchema (dialects : List Dialect) (typeName : String) (s : Schema) : Except Error Artifacts := do
  let scripts ← dialects.mapM fun d => d.types.script s
  .ok
    { typeName := typeName
      table := s.table
      source := sourceText typeName s
      scripts := scripts
      warnings := scripts.flatMap (·.warnings)
      fingerprint := s.fingerprint }

/-- **The artifacts of a declaration.** -/
def ofDeclaration (dialects : List Dialect) (d : Declaration) : Except Error Artifacts := do
  let s ← Schema.ofDeclaration d
  ofSchema dialects d.typeName s

end Artifacts

end SchemaSql
