import SchemaSql.Fallible
import SchemaSql.Json.Parser
import SchemaSql.RecordValue
import SchemaSql.Schema.Basic

/-!
# Validation

An object is valid for a schema if each of its keys names a field, no null stands where the column refuses
it, and each value can be brought into the form of its type. The values in that form make up a record
value. Fields that the object lacks stay away.
-/

namespace SchemaSql.Schema

/-- A value for the field with a name, in the form of its type. -/
def validateValue (s : Schema) (name : String) (value : Json) : Except ValidationFault Json :=
  match s.field? name with
  | none => .error (.unknownField name s.table)
  | some f =>
    if value.isNull && f.refusesNull then .error (.nullNotAllowed name)
    else match f.type.coerce value with
      | .ok v => .ok v
      | .error e => .error (.invalidValue name e)

/-- The members of an object one after the other, each in the form of its field. -/
def validateMembers (s : Schema) : List (String × Json) → Except ValidationFault (List (String × Json))
  | [] => .ok []
  | (name, value) :: ms => do
    let v ← s.validateValue name value
    let rest ← validateMembers s ms
    .ok ((name, v) :: rest)

/-- **Validated members have the keys of the input**, in the same order. -/
theorem validateMembers_keys {s : Schema} {ms vs : List (String × Json)} (h : s.validateMembers ms = .ok vs) :
    vs.map (·.1) = ms.map (·.1) := by
  induction ms generalizing vs with
  | nil => cases h; rfl
  | cons m ms ih =>
    obtain ⟨_, _, h⟩ := bind_eq_ok_iff.1 h
    obtain ⟨rest, hrest, h⟩ := bind_eq_ok_iff.1 h
    cases h
    rw [List.map_cons, List.map_cons, ih hrest]

/-- **The record value of an input**, or what is wrong with its first faulty member. -/
def validate (s : Schema) (input : Json) : Except Error RecordValue :=
  match input with
  | .object ms =>
    match s.validateMembers ms with
    | .ok vs => .ok ⟨s.table, vs⟩
    | .error e => .error (.validation e)
  | _ => .error (.validation .notAnObject)

/-- The record value of a JSON text. -/
def validateText (s : Schema) (text : String) : Except Error RecordValue :=
  match Json.parse? text with
  | some j => s.validate j
  | none => .error .json

end SchemaSql.Schema
