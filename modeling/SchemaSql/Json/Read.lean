import SchemaSql.Json.Printer
import SchemaSql.Text.Literal

/-!
# Reading JSON values as typed ones

A reader takes a value for one of a type or says what it found instead. Integers are read within a range
and also as binary64 numbers; a binary64 number is never read as an integer.
-/

namespace SchemaSql.Json

/-- **Why a value cannot be read**: it is of another kind than expected, or an integer out of range. -/
inductive ReadFault where
  | kind (found : Json) (expected : String)
  | range (n : Integer) (expected : String)

/-- The text by which messages show a value of the wrong kind. -/
def describeKind : Json → String
  | null => "null"
  | bool b => "boolean \x60" ++ (if b then "true" else "false") ++ "\x60"
  | int n => "integer \x60" ++ Decimal.ofInt n.val ++ "\x60"
  | float x => "floating point \x60" ++ String.ofList (floatLayout.text x) ++ "\x60"
  | string s => "string " ++ Text.Literal.ofString s
  | array _ => "sequence"
  | object _ => "map"

/-- The wording of a fault. -/
def ReadFault.message : ReadFault → String
  | kind found expected => "invalid type: " ++ found.describeKind ++ ", expected " ++ expected
  | range n expected => "invalid value: integer \x60" ++ Decimal.ofInt n.val ++ "\x60, expected " ++ expected

/-- Reads an integer from `low` to `high`. -/
def readInt (low high : Int) (expected : String) : Json → Except ReadFault Int
  | int n => if low ≤ n.val ∧ n.val ≤ high then .ok n.val else .error (.range n expected)
  | j => .error (.kind j expected)

/-- Reads a signed integer of 64 bits. -/
def readInt64 : Json → Except ReadFault Int :=
  readInt (-9223372036854775808) 9223372036854775807 "i64"

/-- Reads an unsigned integer of 64 bits. -/
def readUInt64 : Json → Except ReadFault Int :=
  readInt 0 18446744073709551615 "u64"

/-- Reads a signed integer of 32 bits. -/
def readInt32 : Json → Except ReadFault Int :=
  readInt (-2147483648) 2147483647 "i32"

/-- Reads an unsigned integer of eight bits. -/
def readUInt8 : Json → Except ReadFault Int :=
  readInt 0 255 "u8"

/-- Reads a binary64 number. -/
def readFloat : Json → Except ReadFault Binary64
  | float x => .ok (.finite x)
  | int n => .ok (.ofInt n.val)
  | j => .error (.kind j "f64")

/-- Reads a truth value. -/
def readBool : Json → Except ReadFault Bool
  | bool b => .ok b
  | j => .error (.kind j "a boolean")

/-- Reads a text. -/
def readString : Json → Except ReadFault String
  | string s => .ok s
  | j => .error (.kind j "a string")

/-- Reads a list, each item with a reader. -/
def readList {α : Type} (item : Json → Except ReadFault α) : Json → Except ReadFault (List α)
  | array xs => xs.mapM item
  | j => .error (.kind j "a sequence")

/-- Reads a value that may be missing or null. -/
def readOptional {α : Type} (read : Json → Except ReadFault α) : Option Json → Except ReadFault (Option α)
  | none => .ok none
  | some null => .ok none
  | some j => (read j).map some

end SchemaSql.Json
