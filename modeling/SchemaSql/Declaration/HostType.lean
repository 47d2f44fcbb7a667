import SchemaSql.Json.Record
import SchemaSql.Scalar.Basic

/-!
# Declared types

The type of a field as its record declares it. `classify` says whether such a field becomes a column, is
left out, or cannot be stored; `toJson` and `ofWritten?` are the written form of a declared type.
-/

namespace SchemaSql

/-- **Kinds of types that no column can hold.** -/
inductive Unstorable where
  | channel
  | map
  | sequence
  | callable
deriving DecidableEq

/-- **A type as a record declares it.** Numbers have a width in bits, which need not be one that a column
can have; types that no column can hold are described by a text. -/
inductive HostType where
  | int (width : UInt8)
  | uint (width : UInt8)
  | float (width : UInt8)
  | bool
  | string
  | dateTime
  | optional (inner : HostType)
  | record (name : String)
  | unstorable (kind : Unstorable) (description : String)
deriving DecidableEq

/-- **What becomes of a field of a type.** -/
inductive Classification where
  | column (type : ScalarType)
  | skip
  | unsupported
deriving DecidableEq

namespace HostType

/-- The width of an integer column with a number of bits. -/
def intWidth? (bits : UInt8) : Option IntWidth :=
  if bits = 8 then some .w8 else if bits = 16 then some .w16 else if bits = 32 then some .w32
  else if bits = 64 then some .w64 else none

/-- A column of an integer type, if its width is one of a column. -/
def integerColumn (type : IntWidth → ScalarType) (bits : UInt8) : Classification :=
  match intWidth? bits with
  | some w => .column (type w)
  | none => .unsupported

/-- **The classification of a declared type.** An optional type is stored like the type inside it; a
nested record that is not embedded is left out. -/
def classify : HostType → Classification
  | int w => integerColumn .signed w
  | uint w => integerColumn .unsigned w
  | float w => if w = 32 then .column .float32 else if w = 64 then .column .float64 else .unsupported
  | bool => .column .bool
  | string => .column .text
  | dateTime => .column .dateTime
  | optional inner => inner.classify
  | record _ => .skip
  | unstorable _ _ => .unsupported

/-- The text by which messages show a declared type. -/
def describe : HostType → String
  | int w => "int" ++ toString w.toNat
  | uint w => "uint" ++ toString w.toNat
  | float w => "float" ++ toString w.toNat
  | bool => "bool"
  | string => "string"
  | dateTime => "datetime"
  | optional inner => "optional<" ++ inner.describe ++ ">"
  | record name => "record " ++ name
  | unstorable _ description => description

/-! ## The written form -/

/-- The name of a kind of type that no column can hold. -/
def unstorableName : Unstorable → String
  | .channel => "channel"
  | .map => "map"
  | .sequence => "sequence"
  | .callable => "callable"

/-- The names of the kinds in their order. -/
def kindNames : List String :=
  ["int", "uint", "float", "bool", "string", "datetime", "optional", "record", "channel", "map", "sequence",
   "callable"]

/-- A choice in its written form. -/
def choiceJson (kind : String) (detail : Json) : Json :=
  .object [("kind", .string kind), ("detail", detail)]

/-- **The written form of a declared type.** -/
def toJson : HostType → Json
  | int w => choiceJson "int" (.nat w.toNat)
  | uint w => choiceJson "uint" (.nat w.toNat)
  | float w => choiceJson "float" (.nat w.toNat)
  | bool => .object [("kind", .string "bool")]
  | string => .object [("kind", .string "string")]
  | dateTime => .object [("kind", .string "datetime")]
  | optional inner => choiceJson "optional" inner.toJson
  | record name => choiceJson "record" (.string name)
  | unstorable kind description => choiceJson (unstorableName kind) (.string description)

/-- A width of 0 to 255 bits. -/
def width? (detail : Option Json.Written) : Option UInt8 :=
  match detail with
  | some (.int n) => if 0 ≤ n.val ∧ n.val < 256 then some (UInt8.ofNat n.val.toNat) else none
  | _ => none

/-- Reads a declared type with at most the given number of types inside each other. `aside` says that the
type is part of a detail that is written before its kind. -/
def ofWrittenWithin? : Nat → Bool → Json.Written → Option HostType
  | 0, _, _ => none
  | depth + 1, aside, w => do
    let choice ← w.choice? "kind" "detail" kindNames aside
    let described (kind : Unstorable) := (Json.Written.stringPart? choice.detail).map (unstorable kind)
    match choice.kind with
    | "int" => (width? choice.detail).map int
    | "uint" => (width? choice.detail).map uint
    | "float" => (width? choice.detail).map float
    | "bool" => (Json.Written.noDetail? choice.detail).map fun _ => bool
    | "string" => (Json.Written.noDetail? choice.detail).map fun _ => string
    | "datetime" => (Json.Written.noDetail? choice.detail).map fun _ => dateTime
    | "optional" => do
      let inner ← choice.detail
      (ofWrittenWithin? depth choice.aside inner).map optional
    | "record" => (Json.Written.stringPart? choice.detail).map record
    | "channel" => described .channel
    | "map" => described .map
    | "sequence" => described .sequence
    | "callable" => described .callable
    | _ => none

/-- **Reads a declared type** as it is written. -/
def ofWritten? (w : Json.Written) : Option HostType :=
  ofWrittenWithin? w.depth false w

/-- Reads a declared type from a value. -/
def ofJson? (j : Json) : Option HostType :=
  ofWritten? (.ofJson j)

end HostType

end SchemaSql
