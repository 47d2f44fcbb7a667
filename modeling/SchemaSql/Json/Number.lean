import SchemaSql.Json.Written
import SchemaSql.Decimal.Numeral

/-!
# The value of a JSON number

A numeral without point and exponent that fits 64 bits is an integer. Every other numeral is a binary64
number, found with at most 64 bits of the coefficient: the leading digits that fit are taken as a natural
number and rounded, and the result is multiplied or divided by the nearest number to a power of ten and
rounded again. Digits that do not fit are dropped; those before the point still count as places. A number
beyond the largest finite one is unreadable.
-/

namespace SchemaSql.Json

/-- The first natural number that does not fit 64 bits. -/
def wordBound : Nat := 18446744073709551616

/-- Appends digits to a coefficient as long as it fits 64 bits, and returns the digits left over. -/
def appendDigits : Nat → List Char → Nat × List Char
  | s, [] => (s, [])
  | s, d :: ds =>
    let next := 10 * s + (d.toNat - '0'.toNat)
    if next < wordBound then appendDigits next ds else (s, d :: ds)

/-- **The index of `s * 10 ^ e`** for a coefficient of 64 bits. A coefficient divided by `10 ^ 308` twice
is below the least positive number, so nothing is left of it. -/
def decimalIndex (s : Nat) (e : Int) : Nat :=
  let i := Binary64.nearestIndex s 1
  if 308 < e then (if s = 0 then 0 else Binary64.indexBound)
  else if 0 ≤ e then Binary64.mulPowerOfTen i e.toNat
  else if -308 ≤ e then Binary64.divPowerOfTen i (-e).toNat
  else if -616 ≤ e then Binary64.divPowerOfTen (Binary64.divPowerOfTen i 308) (-e - 308).toNat
  else 0

/-- **A JSON number**: sign, numeral, and whether it has neither point nor exponent. -/
structure Literal where
  negative : Bool
  numeral : Decimal.Numeral
  integral : Bool

/-- The number of a literal as a binary64 number. -/
def Literal.float (l : Literal) : Written :=
  let (s, extra) := appendDigits 0 l.numeral.integer
  let (s, dropped) := appendDigits s l.numeral.fraction
  let e := l.numeral.exponent + extra.length - (l.numeral.fraction.length - dropped.length : Nat)
  match Binary64.Finite.ofIndex? l.negative (decimalIndex s e) with
  | some x => .float x
  | none => .unreadable

/-- **The number of a literal**: an integer if it is one and fits, where minus zero is none. -/
def Literal.number (l : Literal) : Written :=
  let n : Int := Decimal.ofDigits l.numeral.integer
  let exact := if l.negative then (if n = 0 ∨ n > 9223372036854775808 then none else Integer.ofInt? (-n))
    else Integer.ofInt? n
  match l.integral, exact with
  | true, some n => .int n
  | _, _ => l.float

end SchemaSql.Json
