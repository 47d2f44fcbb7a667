import SchemaSql.Scalar.Basic
import SchemaSql.Binary64.Reader
import SchemaSql.Decimal.Integer
import SchemaSql.Instant.Parser
import SchemaSql.Instant.Printer
import SchemaSql.Json.Printer
import SchemaSql.Text.CaseMap

/-!
# Coercion to a scalar type

`ScalarType.coerce` brings a JSON value into the one form in which values of a type are kept, or says why
it cannot. Null passes through every type: whether a column admits it is not for the type to say. Numbers,
truth values and instants are also read from text, since tables of text and some databases hand them over
so, and the integers 0 and 1 stand for truth values.
-/

namespace SchemaSql

/-- **Why a value is no value of a type.** -/
inductive CoerceError where
  | notConvertible (value : Json) (type : ScalarType)
  | textNotConvertible (text : String) (type : ScalarType)
  | outOfRange (n : Int) (type : ScalarType)
  | noInstant (text : String)
  | mismatch (value : Json) (type : ScalarType)

/-- The wording of a coercion error. -/
def CoerceError.message : CoerceError → String
  | notConvertible v t => "Cannot convert " ++ v.text ++ " to " ++ t.name
  | textNotConvertible s t => "Cannot convert '" ++ s ++ "' to " ++ t.name
  | outOfRange n t => "Value " ++ Decimal.ofInt n ++ " out of range for " ++ t.name
  | noInstant s => "Invalid datetime format: '" ++ s ++ "'"
  | mismatch v t => "Type mismatch: expected " ++ t.name ++ ", got " ++ v.text

namespace ScalarType

/-- The integer that a value stands for: an integer number, or text of one with any blanks around it. -/
def integerOf? : Json → Option Int
  | .int n => some n.val
  | .string s => Decimal.parseInt? (Text.trim s.toList)
  | _ => none

/-- A value as an integer of a range. -/
def coerceInteger (t : ScalarType) (r : IntRange) (v : Json) : Except CoerceError Json :=
  match integerOf? v with
  | none => .error (.notConvertible v t)
  | some n =>
    if h : r.low ≤ n ∧ n ≤ r.high then
      .ok (.int ⟨n, Int.le_trans r.low_ge h.1, Int.lt_of_le_of_lt h.2 r.high_lt⟩)
    else .error (.outOfRange n t)

/-- A value as a binary64 number. What is not finite is null. -/
def coerceFloat (t : ScalarType) (v : Json) : Except CoerceError Json :=
  match v with
  | .float x => .ok (.float x)
  | .int n => .ok (.ofBinary64 (.ofInt n.val))
  | .string s =>
    match Binary64.parse? (Text.trim s.toList) with
    | some x => .ok (.ofBinary64 x)
    | none => .error (.textNotConvertible s t)
  | v => .error (.mismatch v t)

/-- The words for true. -/
def trueWords : List String := ["true", "1", "yes"]

/-- The words for false. -/
def falseWords : List String := ["false", "0", "no"]

/-- A value as a truth value. -/
def coerceBool (v : Json) : Except CoerceError Json :=
  match v with
  | .bool b => .ok (.bool b)
  | .int n =>
    if n.val = 0 then .ok (.bool false)
    else if n.val = 1 then .ok (.bool true)
    else .error (.notConvertible v .bool)
  | .float _ => .error (.notConvertible v .bool)
  | .string s =>
    let word := Text.lowercase s
    if word ∈ trueWords then .ok (.bool true)
    else if word ∈ falseWords then .ok (.bool false)
    else .error (.textNotConvertible s .bool)
  | v => .error (.mismatch v .bool)

/-- A value as text. -/
def coerceText (v : Json) : Except CoerceError Json :=
  match v with
  | .string s => .ok (.string s)
  | v => .error (.mismatch v .text)

/-- A value as the text of an instant in universal time. -/
def coerceDateTime (v : Json) : Except CoerceError Json :=
  match v with
  | .string s =>
    match Instant.parse? s.toList with
    | some t => .ok (.string (String.ofList t.text))
    | none => .error (.noInstant s)
  | v => .error (.mismatch v .dateTime)

/-- **A value in the form of a type.** -/
def coerce (t : ScalarType) (v : Json) : Except CoerceError Json :=
  match v with
  | .null => .ok .null
  | v =>
    match t.range? with
    | some r => coerceInteger t r v
    | none =>
      match t with
      | .bool => coerceBool v
      | .text => coerceText v
      | .dateTime => coerceDateTime v
      | t => coerceFloat t v

end ScalarType

end SchemaSql
