import SchemaSql.Declaration.HostType
import SchemaSql.Error

/-!
# Record declarations

A declaration lists the members of a record: fields with a declared type, and records that are embedded
with all their own members. Each member has a tag. `toJson` and `ofWritten?` are the written form of a
declaration.
-/

namespace SchemaSql

/-- **How a record names its table.** Only a literal name is used; names that are computed or depend on
something fall back to the name of the record. -/
inductive TableNaming where
  | literal (name : String)
  | computed
  | conditional
deriving DecidableEq

/-- **A member of a record**: a field, or an embedded record. -/
inductive Member where
  | field (name tag : String) (type : HostType)
  | embedded (name tag typeName : String) (members : List Member) (naming : Option TableNaming)

/-- **The declaration of a record.** -/
structure Declaration where
  typeName : String
  members : List Member
  naming : Option TableNaming := none

namespace Member

def name : Member → String
  | field name _ _ => name
  | embedded name _ _ _ _ => name

def tag : Member → String
  | field _ tag _ => tag
  | embedded _ tag _ _ _ => tag

end Member

/-! ## The written form -/

/-- The written form of how a record names its table. -/
def TableNaming.toJson : TableNaming → Json
  | literal name => .object [("shape", .string "literal"), ("value", .string name)]
  | computed => .object [("shape", .string "computed")]
  | conditional => .object [("shape", .string "conditional")]

/-- The names of the ways in which a record names its table. -/
def TableNaming.shapeNames : List String :=
  ["literal", "computed", "conditional"]

/-- Reads how a record names its table. -/
def TableNaming.ofWritten? (w : Json.Written) : Option TableNaming := do
  let choice ← w.choice? "shape" "value" shapeNames false
  match choice.kind with
  | "literal" => (Json.Written.stringPart? choice.detail).map literal
  | "computed" => (Json.Written.noDetail? choice.detail).map fun _ => computed
  | "conditional" => (Json.Written.noDetail? choice.detail).map fun _ => conditional
  | _ => none

namespace Declaration

/-- The written form of a record from that of its members. -/
def recordJson (typeName : String) (members : List Json) (naming : Option TableNaming) : Json :=
  .object ([("type_name", .string typeName), ("fields", .array members)] ++
    match naming with
    | some n => [("table_name_fn", n.toJson)]
    | none => [])

/-- The written form of a member from that of its content. -/
def memberJson (name tag key : String) (content : Json) : Json :=
  .object [("name", .string name), ("kind", .object [(key, content)]), ("tag", .string tag)]

mutual
/-- The written form of a member. -/
def ofMember : Member → Json
  | .field name tag type => memberJson name tag "value" type.toJson
  | .embedded name tag typeName members naming =>
    memberJson name tag "embedded" (recordJson typeName (ofMembers members) naming)
/-- The written forms of members. -/
def ofMembers : List Member → List Json
  | [] => []
  | m :: ms => ofMember m :: ofMembers ms
end

/-- **The written form of a declaration.** -/
def toJson (d : Declaration) : Json :=
  recordJson d.typeName (ofMembers d.members) d.naming

/-- Reads the part for how a record names its table, which may be missing or null. -/
def naming? : Option Json.Written → Option (Option TableNaming)
  | none => some none
  | some .null => some none
  | some w => (TableNaming.ofWritten? w).map some

/-- Reads the tag of a member, which is empty if it is missing. -/
def tag? : Option Json.Written → Option String
  | none => some ""
  | some w => w.string?

/-- Reads a member, with the given reader of embedded records. -/
def memberOfWritten? (record : Json.Written → Option Declaration) (w : Json.Written) : Option Member := do
  match ← w.parts? ["name", "kind", "tag"] with
  | [name, kind, tag] =>
    let name ← Json.Written.stringPart? name
    let kind ← kind
    let tag ← tag? tag
    match kind with
    | .object [("value", content)] => (HostType.ofWritten? content).map (.field name tag)
    | .object [("embedded", content)] =>
      (record content).map fun d => .embedded name tag d.typeName d.members d.naming
    | _ => none
  | _ => none

/-- Reads a declaration with at most the given number of records inside each other. -/
def ofWrittenWithin? : Nat → Json.Written → Option Declaration
  | 0, _ => none
  | depth + 1, w => do
    match ← w.parts? ["type_name", "fields", "table_name_fn"] with
    | [typeName, members, naming] =>
      let typeName ← Json.Written.stringPart? typeName
      let items ← members.bind Json.Written.items?
      let members ← items.mapM (memberOfWritten? (ofWrittenWithin? depth))
      let naming ← naming? naming
      some ⟨typeName, members, naming⟩
    | _ => none

/-- **Reads a declaration** as it is written. -/
def ofWritten? (w : Json.Written) : Option Declaration :=
  ofWrittenWithin? w.depth w

/-- Reads a declaration from a value. -/
def ofJson? (j : Json) : Option Declaration :=
  ofWritten? (.ofJson j)

/-- **Reads a declaration** from a JSON text. -/
def parse? (text : String) : Option Declaration :=
  (Json.Written.read? text).bind ofWritten?

/-- The declaration of a JSON text, or the error of a text that is none. -/
def ofText (text : String) : Except Error Declaration :=
  match parse? text with
  | some d => .ok d
  | none => .error .json

end Declaration

end SchemaSql
