import SchemaSql.Binary64.Shortest
import SchemaSql.Decimal.Numeral

/-!
# The text of a binary64 number

A text format decides which digits of a number are written, where they stand around a point, and how an
exponent looks. `Layout` holds these decisions and `Layout.text` carries them out.
-/

namespace SchemaSql.Binary64

/-- **Which digits of a number are written**: as few as read back as the number, or a count of them. -/
inductive Digits where
  | shortest (tie : Tie)
  | rounded (count : Nat)
deriving DecidableEq

/-- **The magnitude at a positive index with a number of digits**, a half upwards. -/
def rounded (count i : Nat) : ShortDecimal :=
  let v := magnitude i
  let g := decimalPoint v.1 v.2 - count
  let (n, d) := scaleTen v.1 v.2 (-g)
  ⟨(2 * n + d) / (2 * d), g⟩

/-- The decimal that is written for the magnitude at a positive index. -/
def Digits.decimal : Digits → Nat → ShortDecimal
  | .shortest tie, i => Binary64.shortest tie i
  | .rounded count, i => Binary64.rounded count i

/-- **How a number is laid out.** A decimal `0.d₁d₂… * 10 ^ p` is written with its digits around the
point if `low < p ≤ high`, and otherwise with one digit before the point and an exponent. -/
structure Layout where
  digits : Digits
  low : Int
  high : Int
  /-- A positive exponent has a plus sign. -/
  plus : Bool
  /-- A single digit before an exponent is followed by a point and a zero. -/
  pointed : Bool := false
  /-- The least number of digits of an exponent. -/
  exponentWidth : Nat := 1

/-- Zeros at the end of a list of digits dropped. -/
def dropTrailingZeros (ds : List Char) : List Char :=
  (ds.reverse.dropWhile (· == '0')).reverse

/-- Digits around the point that stands `p` places after their beginning, with at least one on each
side. -/
def placePoint (ds : List Char) (p : Int) : List Char :=
  if p ≤ 0 then '0' :: '.' :: (List.replicate (-p).toNat '0' ++ ds)
  else if ds.length ≤ p.toNat then ds ++ List.replicate (p.toNat - ds.length) '0' ++ ['.', '0']
  else ds.take p.toNat ++ '.' :: ds.drop p.toNat

/-- Digits before an exponent: the point stands after the first. -/
def Layout.mantissa (l : Layout) : List Char → List Char
  | [] => []
  | [d] => if l.pointed then [d, '.', '0'] else [d]
  | d :: ds => d :: '.' :: ds

/-- The exponent of a power of ten. -/
def Layout.exponentPart (l : Layout) (x : Int) : List Char :=
  let sign := if x < 0 then ['-'] else if l.plus then ['+'] else []
  let ds := Decimal.digits x.natAbs
  'e' :: sign ++ List.replicate (l.exponentWidth - ds.length) '0' ++ ds

/-- The digits of a positive decimal, placed around the point or before an exponent. -/
def Layout.write (l : Layout) (s : ShortDecimal) : List Char :=
  let all := Decimal.digits s.coefficient
  let p : Int := all.length + s.scale
  let ds := dropTrailingZeros all
  if l.low < p && p ≤ l.high then placePoint ds p else l.mantissa ds ++ l.exponentPart (p - 1)

/-- **The text of a finite number** in a layout: the sign of zero is kept, and there is always a point or
an exponent. -/
def Layout.text (l : Layout) (x : Finite) : List Char :=
  let body := if x.index = 0 then ['0', '.', '0'] else l.write (l.digits.decimal x.index)
  if x.negative then '-' :: body else body

end SchemaSql.Binary64
