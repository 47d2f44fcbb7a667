import SchemaSql.Declaration.Basic
import SchemaSql.Error
import SchemaSql.Field.Basic

/-!
# The fields of a declaration

A declaration is flattened in the order in which it is written: members of an embedded record stand where
the record stands. A member whose tag says so is left out with all that is inside it. The first member
with a fault in that order decides the error; after that, the first name that occurs twice does.
-/

namespace SchemaSql

/-- A fault of a tag as an error of the member. -/
def Member.invalidTag {α : Type} (name : String) (cause : TagFault) : Except Error α :=
  .error (.invalidTag name cause)

/-- The tag of a member. -/
def Member.readTag (name tag : String) : Except Error Tag :=
  match Tag.parse tag with
  | .ok t => .ok t
  | .error f => invalidTag name f

/-- The name of the column of a field: the one that its tag gives, or its own name in snake case, which
then has to be an identifier. -/
def Member.columnName (name : String) (tag : Tag) : Except Error String :=
  match tag.column with
  | some c => .ok c
  | none =>
    let c := SnakeCase.ofName name
    match Identifier.check c with
    | .ok _ => .ok c
    | .error f => invalidTag name (.defaultColumn f)

/-- **The field that a member of a declared type becomes**, if it becomes one. -/
def Member.fieldOf (inEmbedded : Bool) (name : String) (tag : Tag) (type : HostType) : Except Error (Option Field) :=
  match type.classify with
  | .skip => .ok none
  | .unsupported => .error (.unsupportedType name type)
  | .column scalar => do
    let column ← columnName name tag
    let plain : Field := { name := name, column := column, type := scalar }
    .ok (some { plain.tagged tag with embedded := inEmbedded })

mutual
/-- The fields that a member stands for. -/
def Member.fields (inEmbedded : Bool) : Member → Except Error (List Field)
  | .field name tag type => do
    let t ← Member.readTag name tag
    if t.ignore then .ok [] else
      let found ← Member.fieldOf inEmbedded name t type
      .ok found.toList
  | .embedded name tag _ members _ => do
    let t ← Member.readTag name tag
    if t.ignore then .ok [] else fieldsOfAll true members
/-- The fields that members stand for, in their order. -/
def fieldsOfAll (inEmbedded : Bool) : List Member → Except Error (List Field)
  | [] => .ok []
  | m :: ms => do
    let fs ← m.fields inEmbedded
    let rest ← fieldsOfAll inEmbedded ms
    .ok (fs ++ rest)
end

namespace Declaration

/-- **The fields of a declaration** in the order in which it is written. -/
def fields (d : Declaration) : Except Error (List Field) := do
  let fs ← fieldsOfAll false d.members
  match Field.firstRepeated (fs.map (·.name)) with
  | some n => .error (.duplicateField n)
  | none => .ok fs

/-- **The table of a declaration**: the literal name that it gives, or the name of the record in snake
case. -/
def table (d : Declaration) : Except Error String :=
  match d.naming with
  | some (.literal name) =>
    match Identifier.check name with
    | .ok _ => .ok name
    | .error f => .error (.invalidIdentifier (.tableOf d.typeName) f)
  | _ => .ok (SnakeCase.ofName d.typeName)

end Declaration

end SchemaSql
