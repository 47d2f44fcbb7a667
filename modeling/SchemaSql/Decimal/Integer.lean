import SchemaSql.Decimal.Numeral

/-!
# Reading decimal integers

A text stands for an integer if it is one optional sign and at least one digit, and the integer fits
128 bits.
-/

namespace SchemaSql.Decimal

/-- The natural number that a text of digits stands for. -/
def parseNat? (cs : List Char) : Option Nat :=
  if cs.isEmpty || !cs.all Char.isDigit then none else some (ofDigits cs)

/-- An integer that a text stands for, of any size. -/
def parseSigned? : List Char → Option Int
  | '-' :: rest => (parseNat? rest).map fun n => -(n : Int)
  | '+' :: rest => (parseNat? rest).map fun n => (n : Int)
  | cs => (parseNat? cs).map fun n => (n : Int)

/-- The least positive integer that takes more than 128 bits, one of them for the sign. -/
def integerBound : Int := 170141183460469231731687303715884105728

/-- **The integer of at most 128 bits that a text stands for.** -/
def parseInt? (cs : List Char) : Option Int :=
  (parseSigned? cs).filter fun n => decide (-integerBound ≤ n ∧ n < integerBound)

end SchemaSql.Decimal
