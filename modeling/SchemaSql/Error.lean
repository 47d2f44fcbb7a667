import SchemaSql.Database.Value
import SchemaSql.Declaration.HostType
import SchemaSql.Json.Read
import SchemaSql.Scalar.Coerce
import SchemaSql.Tag

/-!
# Errors

What can go wrong between a declaration and a row, by its cause. `Error.message` is the wording of each
cause; causes that come from outside, from a database or from text that is no JSON, have none of the
library's own.
-/

namespace SchemaSql

/-- **The statements that write.** -/
inductive Verb where
  | insert
  | update
  | delete
deriving DecidableEq

def Verb.name : Verb → String
  | insert => "INSERT"
  | update => "UPDATE"
  | delete => "DELETE"

/-- **Whose name an identifier is.** -/
inductive NameSite where
  | table
  | column (table field : String)
  | tableOf (typeName : String)
deriving DecidableEq

/-- What stands before the fault of an identifier in a message. -/
def NameSite.lead : NameSite → String
  | table => ""
  | column tableName field => tableName ++ "." ++ field ++ ": "
  | tableOf typeName => "table name for " ++ typeName ++ ": "

/-- **Why values do not fit a schema or a database.** -/
inductive ValidationFault where
  | notAnObject
  | unknownField (field table : String)
  | nullNotAllowed (field : String)
  | invalidValue (field : String) (cause : CoerceError)
  | unexpectedType (field : String) (cause : Json.ReadFault)
  | beyondSqliteRange (n : Int)
  | reported (text : String)

/-- The wording of a validation fault. -/
def ValidationFault.message : ValidationFault → String
  | notAnObject => "Input must be a JSON object"
  | unknownField field table => "Unknown field '" ++ field ++ "' for table '" ++ table ++ "'"
  | nullNotAllowed field => "Field '" ++ field ++ "' does not allow NULL values"
  | invalidValue field cause => "Invalid value for field '" ++ field ++ "': " ++ cause.message
  | unexpectedType field cause => "Field '" ++ field ++ "' has unexpected type: " ++ cause.message
  | beyondSqliteRange n => "Integer " ++ Decimal.ofInt n ++ " exceeds the SQLite range"
  | reported text => text

/-- **Why the rows of a result do not make sense.** -/
inductive MappingFault where
  | negativeCount (n : Int64)
  | unexpectedCount (found : Option SqlValue)
  | reported (text : String)

/-- The wording of a mapping fault. -/
def MappingFault.message : MappingFault → String
  | negativeCount n => "negative count " ++ Decimal.ofInt n.toInt
  | unexpectedCount found => "COUNT(*) returned unexpected value: " ++ SqlValue.describeOption found
  | reported text => text

/-- **An error**, by its cause. -/
inductive Error where
  | unsupportedType (field : String) (type : HostType)
  | duplicateField (name : String)
  | invalidTag (field : String) (cause : TagFault)
  | invalidIdentifier (site : NameSite) (cause : Identifier.Fault)
  | emptySchema
  | missingWhere (verb : Verb)
  | noFields (verb : Verb)
  | aliasedTarget (verb : Verb) (table qualifier : String)
  | unknownField (table field : String)
  | joinTargetMismatch (expected found : String)
  | validation (cause : ValidationFault)
  | mapping (cause : MappingFault)
  | registry (text : String)
  | sql
  | json
  | io

namespace Error

/-- **The wording of an error.** What only a database, a reader of JSON or a file system says has none. -/
def message? : Error → Option String
  | unsupportedType field type => some ("Unsupported type for field '" ++ field ++ "': " ++ type.describe)
  | duplicateField name => some ("Duplicate field: " ++ name)
  | invalidTag field cause => some ("Invalid tag on field '" ++ field ++ "': " ++ cause.message)
  | invalidIdentifier site cause => some ("Invalid identifier: " ++ site.lead ++ cause.message)
  | emptySchema => some "Schema is missing or has no fields"
  | missingWhere verb => some (verb.name ++ " requires a non-empty WHERE clause")
  | noFields verb => some (verb.name ++ " has no fields to write")
  | aliasedTarget verb table qualifier =>
    some (verb.name ++ " cannot target table '" ++ table ++ "' through alias '" ++ qualifier ++ "'")
  | unknownField table field => some ("Unknown field '" ++ field ++ "' on table '" ++ table ++ "'")
  | joinTargetMismatch expected found =>
    some ("Join target mismatch: expected '" ++ expected ++ "', found '" ++ found ++ "'")
  | validation cause => some ("Validation error: " ++ cause.message)
  | mapping cause => some ("Mapping error: " ++ cause.message)
  | registry text => some ("Registry error: " ++ text)
  | sql => none
  | json => none
  | io => none

/-- **An error of a declaration**, which ends the generation of its artifacts. -/
def isMetadata : Error → Bool
  | unsupportedType _ _ => true
  | duplicateField _ => true
  | invalidTag _ _ => true
  | invalidIdentifier _ _ => true
  | _ => false

end Error

end SchemaSql
