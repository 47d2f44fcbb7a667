import SchemaSql.Binary64.Basic
import SchemaSql.Decimal.Numeral

/-!
# Reading binary64 numbers

`parse?` reads the texts that stand for a number in an input value: a decimal numeral that may lack the
digits on one side of its point, or a word for infinity or for what is no number. The result is the
nearest number to the value of the numeral.
-/

namespace SchemaSql.Binary64

/-- The value of a decimal numeral rounded to the nearest number. Numerals far outside the range are
answered without the power of ten of their exponent. -/
def ofNumeral (negative : Bool) (n : Decimal.Numeral) : Binary64 :=
  let c := n.coefficient
  if c = 0 then .finite (.zero negative) else
    let p : Int := (Decimal.digits c).length + n.scale
    if 310 < p then .infinite negative
    else if p < -330 then .finite (.zero negative)
    else
      let (num, den) := scaleTen c 1 n.scale
      round negative num den

/-- Splits a sign off a text. -/
def splitSign : List Char → Bool × List Char
  | '-' :: rest => (true, rest)
  | '+' :: rest => (false, rest)
  | cs => (false, cs)

/-- An unsigned numeral that fills the whole text. At least one digit stands beside the point, which may
be left out with the digits after it. -/
def looseNumeral? (cs : List Char) : Option Decimal.Numeral :=
  let (integer, rest) := Decimal.spanDigits cs
  let (fraction, rest) := match rest with
    | '.' :: rest => Decimal.spanDigits rest
    | rest => ([], rest)
  if integer.isEmpty && fraction.isEmpty then none else
    match Decimal.exponentPart rest with
    | some (e, []) => some ⟨integer, fraction, e⟩
    | some (_, _ :: _) => none
    | none => none

/-- **The number that a text stands for**, in full: a signed numeral, or `inf`, `infinity` or `nan` in any
mixture of cases, signed too. -/
def parse? (cs : List Char) : Option Binary64 :=
  let (negative, body) := splitSign cs
  let word := body.map Char.toLower
  if word = "inf".toList || word = "infinity".toList then some (.infinite negative)
  else if word = "nan".toList then some .nan
  else (looseNumeral? body).map (ofNumeral negative)

end SchemaSql.Binary64
