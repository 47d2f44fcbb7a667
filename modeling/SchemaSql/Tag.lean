import SchemaSql.Identifier
import SchemaSql.Text.Blank
import SchemaSql.Text.Split

/-!
# Tags

The tag of a declared field is a list of directives with semicolons between them. A directive is a word, or
a key and a value with a colon between them; blanks around directives, keys and values do not count, and
neither do empty directives. `Directive.parse` reads one directive and `Tag.parse` a whole tag; of several
directives with one key the last one counts.
-/

namespace SchemaSql

/-- **The column that a foreign key refers to.** -/
structure ForeignKey where
  table : String
  column : String
deriving DecidableEq

/-- **One directive of a tag.** -/
inductive Directive where
  | ignore
  | primaryKey
  | notNull
  | unique
  | index
  | column (name : String)
  | sqlType (text : String)
  | default (literal : String)
  | foreignKey (target : ForeignKey)
deriving DecidableEq

/-- **Why a tag cannot be read.** -/
inductive TagFault where
  | identifier (fault : Identifier.Fault)
  | foreignKeyTarget (target : String)
  | unrecognized (directive : String)
  | defaultColumn (fault : Identifier.Fault)
deriving DecidableEq

/-- The wording of a fault of a tag. -/
def TagFault.message : TagFault → String
  | identifier f => f.message
  | foreignKeyTarget t => "fk target '" ++ t ++ "' must be table.column"
  | unrecognized d => "unrecognized directive '" ++ d ++ "'"
  | defaultColumn f => "default column name: " ++ f.message

/-- **What the directives of a tag say together.** -/
structure Tag where
  ignore : Bool := false
  primaryKey : Bool := false
  notNull : Bool := false
  unique : Bool := false
  index : Bool := false
  column : Option String := none
  sqlType : Option String := none
  default : Option String := none
  foreignKey : Option ForeignKey := none
deriving DecidableEq

namespace Directive

/-- A name that passes the check of identifiers. -/
def identifier (name : String) : Except TagFault String :=
  match Identifier.check name with
  | .ok _ => .ok name
  | .error f => .error (.identifier f)

/-- The column that a foreign key refers to, a table and a column with a point between them. -/
def parseTarget (target : List Char) : Except TagFault ForeignKey :=
  match Text.splitOnce '.' target with
  | none => .error (.foreignKeyTarget (String.ofList target))
  | some (left, right) => do
    let tableName ← identifier (String.ofList left)
    let columnName ← identifier (String.ofList right)
    .ok ⟨tableName, columnName⟩

/-- The directive that is one word. -/
def ofWord? (word : String) : Option Directive :=
  if word = "-" then some ignore
  else if word = "pk" then some primaryKey
  else if word = "not_null" then some notNull
  else if word = "unique" then some unique
  else if word = "index" then some index
  else none

/-- The directive with a key and a value, `none` if there is none. -/
def ofPair (key : String) (value : List Char) : Except TagFault (Option Directive) :=
  if key = "column" then do
    let name ← identifier (String.ofList value)
    .ok (some (.column name))
  else if key = "type" then .ok (if value.isEmpty then none else some (.sqlType (String.ofList value)))
  else if key = "default" then .ok (if value.isEmpty then none else some (.default (String.ofList value)))
  else if key = "fk" then do
    let target ← parseTarget value
    .ok (some (.foreignKey target))
  else .ok none

/-- **Reads a directive** without blanks around it. -/
def parse (cs : List Char) : Except TagFault Directive := do
  let found ← match Text.splitOnce ':' cs with
    | none => .ok (ofWord? (String.ofList cs))
    | some (key, value) => ofPair (String.ofList (Text.trim key)) (Text.trim value)
  match found with
  | some d => .ok d
  | none => .error (.unrecognized (String.ofList cs))

end Directive

namespace Tag

/-- A tag with one more directive. -/
def apply (t : Tag) : Directive → Tag
  | .ignore => { t with ignore := true }
  | .primaryKey => { t with primaryKey := true }
  | .notNull => { t with notNull := true }
  | .unique => { t with unique := true }
  | .index => { t with index := true }
  | .column name => { t with column := some name }
  | .sqlType text => { t with sqlType := some text }
  | .default literal => { t with default := some literal }
  | .foreignKey target => { t with foreignKey := some target }

/-- **What a list of directives says together.** -/
def ofDirectives (ds : List Directive) : Tag :=
  ds.foldl apply {}

/-- The texts of the directives of a tag, without blanks around them and without the empty ones. -/
def directiveTexts (cs : List Char) : List (List Char) :=
  ((Text.pieces ';' cs).map Text.trim).filter fun d => !d.isEmpty

/-- **Reads a tag**, or says what is wrong with its first faulty directive. -/
def parse (tag : String) : Except TagFault Tag := do
  let ds ← (directiveTexts tag.toList).mapM Directive.parse
  .ok (ofDirectives ds)

end Tag

end SchemaSql
