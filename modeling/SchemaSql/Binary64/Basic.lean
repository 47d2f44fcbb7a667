/-!
# Binary floating-point numbers of 64 bits

A finite number is its sign and the **index** of its magnitude: the place that the magnitude has among
all finite magnitudes in increasing order, counted from zero. Neighbouring magnitudes have neighbouring
indices, so that rounding and the interval of reals that round to a number are stated on natural numbers.

`nearestIndex` rounds a ratio of natural numbers to the nearest magnitude, a half to the even index; all
conversions and all arithmetic here are that one function applied to an exact ratio.
-/

namespace SchemaSql

/-- The number of magnitudes from one power of two up to the next, which is `2 ^ 52`. -/
def Binary64.binade : Nat := 4503599627370496

/-- The index that follows the largest finite magnitude. -/
def Binary64.indexBound : Nat := 2047 * Binary64.binade

/-- **A finite number**: its sign and the index of its magnitude. Zero has both signs. -/
structure Binary64.Finite where
  negative : Bool
  index : Nat
  index_lt : index < Binary64.indexBound
deriving DecidableEq

/-- **A binary64 number**: finite, infinite with a sign, or not a number. -/
inductive Binary64 where
  | finite (x : Binary64.Finite)
  | infinite (negative : Bool)
  | nan
deriving DecidableEq

namespace Binary64

/-! ## The magnitude at an index -/

/-- The magnitude at an index is `significand i * 2 ^ exponent i`. -/
def significand (i : Nat) : Nat :=
  if i < 2 * binade then i else binade + i % binade

/-- The power of two that scales the significand at an index. -/
def exponent (i : Nat) : Int :=
  if i < 2 * binade then -1074 else (i / binade : Nat) - 1075

/-- `num / den` multiplied by `2 ^ e`, as a ratio. -/
def scaleTwo (num den : Nat) (e : Int) : Nat × Nat :=
  if 0 ≤ e then (num * Nat.pow 2 e.toNat, den) else (num, den * Nat.pow 2 (-e).toNat)

/-- `num / den` multiplied by `10 ^ e`, as a ratio. -/
def scaleTen (num den : Nat) (e : Int) : Nat × Nat :=
  if 0 ≤ e then (num * Nat.pow 10 e.toNat, den) else (num, den * Nat.pow 10 (-e).toNat)

/-- The magnitude at an index, as a ratio of natural numbers. -/
def magnitude (i : Nat) : Nat × Nat :=
  scaleTwo (significand i) 1 (exponent i)

/-! ## Rounding -/

/-- A quotient rounded to the nearest natural number, a half to the even one. -/
def divNearestEven (num den : Nat) : Nat :=
  let q := num / den
  let twice := 2 * (num % den)
  if twice < den then q else if den < twice then q + 1 else if q % 2 = 0 then q else q + 1

/-- The exponent `k` with `2 ^ k ≤ num / den < 2 ^ (k + 1)`, for a positive ratio. -/
def floorLogTwo (num den : Nat) : Int :=
  let k : Int := (Nat.log2 num : Int) - (Nat.log2 den : Int)
  let (bound, unit) := scaleTwo 1 1 k
  if num * unit < den * bound then k - 1 else k

/-- **The index nearest to a ratio**, a half to the even index. Beyond the largest finite magnitude the
indices run on as if the exponents had no end, so that a result of at least `indexBound` is an overflow. -/
def nearestIndex (num den : Nat) : Nat :=
  if num = 0 then 0 else
    let q := max (floorLogTwo num den - 52) (-1074)
    let (n, d) := scaleTwo num den (-q)
    (q + 1074).toNat * binade + divNearestEven n d

/-- **A signed ratio rounded** to the nearest number, beyond the largest finite one to infinity. -/
def round (negative : Bool) (num den : Nat) : Binary64 :=
  let i := nearestIndex num den
  if h : i < indexBound then .finite ⟨negative, i, h⟩ else .infinite negative

/-- An integer rounded to the nearest number. -/
def ofInt (n : Int) : Binary64 :=
  round (decide (n < 0)) n.natAbs 1

/-! ## Arithmetic with powers of ten -/

/-- The number nearest to `10 ^ e`. -/
def powerOfTen (e : Nat) : Nat × Nat :=
  magnitude (nearestIndex (Nat.pow 10 e) 1)

/-- The magnitude at an index times the number nearest to `10 ^ e`, rounded. -/
def mulPowerOfTen (i e : Nat) : Nat :=
  let (n, d) := magnitude i
  let (pn, pd) := powerOfTen e
  nearestIndex (n * pn) (d * pd)

/-- The magnitude at an index divided by the number nearest to `10 ^ e`, rounded. -/
def divPowerOfTen (i e : Nat) : Nat :=
  let (n, d) := magnitude i
  let (pn, pd) := powerOfTen e
  nearestIndex (n * pd) (d * pn)

namespace Finite

/-- Zero with a sign. -/
def zero (negative : Bool) : Finite :=
  ⟨negative, 0, by decide⟩

/-- The finite number with a sign and an index, if the index is one of a finite magnitude. -/
def ofIndex? (negative : Bool) (i : Nat) : Option Finite :=
  if h : i < indexBound then some ⟨negative, i, h⟩ else none

end Finite

/-- The finite number that a number is, if it is finite. -/
def finite? : Binary64 → Option Finite
  | .finite x => some x
  | .infinite _ => none
  | .nan => none

end Binary64

end SchemaSql
