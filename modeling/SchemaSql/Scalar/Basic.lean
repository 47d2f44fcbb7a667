import SchemaSql.Json.Basic

/-!
# Scalar types

The closed set of types that a column can hold. Integers have a width and may be signed; their range is
computed from both and always fits a JSON integer.
-/

namespace SchemaSql

/-- **The widths of an integer.** -/
inductive IntWidth where
  | w8
  | w16
  | w32
  | w64
deriving DecidableEq

/-- The number of bits of a width. -/
def IntWidth.bits : IntWidth → Nat
  | w8 => 8
  | w16 => 16
  | w32 => 32
  | w64 => 64

/-- The number of integers of a width. -/
def IntWidth.count (w : IntWidth) : Nat :=
  Nat.pow 2 w.bits

/-- **The type of the values of a column.** -/
inductive ScalarType where
  | signed (w : IntWidth)
  | unsigned (w : IntWidth)
  | float32
  | float64
  | bool
  | text
  | dateTime
deriving DecidableEq

/-- **A range of integers** that JSON numbers denote exactly. -/
structure IntRange where
  low : Int
  high : Int
  low_ge : -9223372036854775808 ≤ low
  high_lt : high < 18446744073709551616

namespace ScalarType

/-- All types in their order. -/
def all : List ScalarType :=
  [.signed .w8, .signed .w16, .signed .w32, .signed .w64, .unsigned .w8, .unsigned .w16, .unsigned .w32,
   .unsigned .w64, .float32, .float64, .bool, .text, .dateTime]

/-- The name by which tables of column types and messages know a type. -/
def name : ScalarType → String
  | signed w => "i" ++ toString w.bits
  | unsigned w => "u" ++ toString w.bits
  | float32 => "f32"
  | float64 => "f64"
  | bool => "bool"
  | text => "string"
  | dateTime => "datetime"

/-- The type with a name. -/
def ofName? (s : String) : Option ScalarType :=
  all.find? fun t => t.name == s

/-- The width of an integer type. -/
def width? : ScalarType → Option IntWidth
  | signed w => some w
  | unsigned w => some w
  | _ => none

/-- **The range of an integer type.** -/
def range? : ScalarType → Option IntRange
  | signed w => some ⟨-(w.count / 2 : Nat), (w.count / 2 : Nat) - 1, by cases w <;> decide, by cases w <;> decide⟩
  | unsigned w => some ⟨0, w.count - 1, by decide, by cases w <;> decide⟩
  | _ => none

def isInteger (t : ScalarType) : Bool :=
  t.range?.isSome

/-- Each type is the one with its name. -/
theorem ofName?_name (t : ScalarType) : ofName? t.name = some t := by
  cases t <;> first | rfl | (rename_i w; cases w <;> rfl)

end ScalarType

end SchemaSql
