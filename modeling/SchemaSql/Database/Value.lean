import SchemaSql.Binary64.Layout
import SchemaSql.Instant.Printer
import SchemaSql.Json.Basic
import SchemaSql.Text.Literal
import SchemaSql.Text.Utf8

/-!
# Values of a database

What a database hands over for one column of a row. `toJson` brings it into the form in which values are
validated: bytes are read as text and instants are written as text.
-/

namespace SchemaSql

/-- **A value as a database hands it over.** -/
inductive SqlValue where
  | null
  | int (n : Int64)
  | float (x : Binary64)
  | text (s : String)
  | bytes (bs : List UInt8)
  | bool (b : Bool)
  | time (t : Instant)

/-- **A row of a result**: labels with their values, in the order of the columns. -/
abbrev Row := List (String × SqlValue)

/-- The value under the first column with a label. -/
def Row.get? (r : Row) (label : String) : Option SqlValue :=
  Keyed.get? r label

namespace SqlValue

def isNull : SqlValue → Bool
  | null => true
  | _ => false

/-- An integer of 64 bits as a JSON integer. -/
def jsonInteger (n : Int64) : Json.Integer where
  val := n.toInt
  lower := Int64.le_toInt n
  upper := Int.lt_trans (Int64.toInt_lt n) (by decide)

/-- **The value in the form in which it is validated.** -/
def toJson : SqlValue → Json
  | null => .null
  | int n => .int (jsonInteger n)
  | float x => .ofBinary64 x
  | text s => .string s
  | bytes bs => .string (String.ofList (Text.Utf8.decode bs))
  | bool b => .bool b
  | time t => .string (String.ofList t.text)

/-! ## In messages -/

/-- In messages numbers stand with their digits around the point from `1e-4` to below `1e16`, and have an
exponent without a plus sign outside. Of two shortest decimals that are equally near, the greater is
taken. -/
def floatLayout : Binary64.Layout :=
  { digits := .shortest .up, low := -4, high := 16, plus := false }

/-- A number in a message. -/
def floatText : Binary64 → String
  | .finite x => String.ofList (floatLayout.text x)
  | .infinite negative => if negative then "-inf" else "inf"
  | .nan => "NaN"

/-- The text by which messages show a value. -/
def describe : SqlValue → String
  | null => "Null"
  | int n => "Int(" ++ Decimal.ofInt n.toInt ++ ")"
  | float x => "Float(" ++ floatText x ++ ")"
  | text s => "Text(" ++ Text.Literal.ofString s ++ ")"
  | bytes bs => "Bytes([" ++ ", ".intercalate (bs.map fun b => toString b.toNat) ++ "])"
  | bool b => "Bool(" ++ (if b then "true" else "false") ++ ")"
  | time t => "Time(" ++ String.ofList t.shortText ++ ")"

/-- The text by which messages show a value that may be missing. -/
def describeOption : Option SqlValue → String
  | none => "None"
  | some v => "Some(" ++ v.describe ++ ")"

end SqlValue

end SchemaSql
