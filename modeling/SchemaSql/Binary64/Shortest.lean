import SchemaSql.Binary64.Basic

/-!
# The shortest decimal of a binary64 number

Of all decimals that round to a finite number, `shortest` finds the one with the fewest digits, and of
those the nearest to the number; which of two equally near ones is taken is left to the format.

The decimals that round to the magnitude at an index fill the interval between the midpoints to its two
neighbours, ends included exactly if the index is even. For one, two, … seventeen digits the two
neighbours of the magnitude on the grid of that many digits are tested against the interval, in exact
arithmetic on natural numbers.
-/

namespace SchemaSql.Binary64

/-- **A positive decimal**: `coefficient * 10 ^ scale`. -/
structure ShortDecimal where
  coefficient : Nat
  scale : Int
deriving DecidableEq

/-- **Which of two equally near decimals is taken**: the one with the even last digit, or the greater one. -/
inductive Tie where
  | even
  | up
deriving DecidableEq

/-- The last place of the decimal that is taken of the two at `t` and `t + 1`. -/
def Tie.choose : Tie → Nat → Nat
  | even, t => if t % 2 = 0 then t else t + 1
  | up, t => t + 1

/-- `a ≤ b` on ratios with positive denominators. -/
def ratioLe (a b : Nat × Nat) : Bool :=
  decide (a.1 * b.2 ≤ b.1 * a.2)

/-- `a < b` on ratios with positive denominators. -/
def ratioLt (a b : Nat × Nat) : Bool :=
  decide (a.1 * b.2 < b.1 * a.2)

/-- **The reals that round to the magnitude at an index**: the two ends, and whether they belong. -/
structure RoundingInterval where
  low : Nat × Nat
  high : Nat × Nat
  closed : Bool

/-- The interval of a positive index. Below the first magnitude of a binade the gap is half as wide. -/
def roundingInterval (i : Nat) : RoundingInterval :=
  let m := 4 * significand i
  let e := exponent i - 2
  let below := if 2 * binade ≤ i && i % binade = 0 then 1 else 2
  ⟨scaleTwo (m - below) 1 e, scaleTwo (m + 2) 1 e, i % 2 = 0⟩

/-- A ratio lies in the interval. -/
def RoundingInterval.holds (r : RoundingInterval) (x : Nat × Nat) : Bool :=
  if r.closed then ratioLe r.low x && ratioLe x r.high else ratioLt r.low x && ratioLt x r.high

/-- The exponent `p` with `10 ^ (p - 1) ≤ num / den < 10 ^ p`, for a positive ratio. -/
def decimalPoint (num den : Nat) : Int :=
  let p := floorLogTwo num den * 30103 / 100000 + 1
  if ratioLe (scaleTen 1 1 p) (num, den) then p + 1 else p

/-- The decimal on the grid `10 ^ g` that is taken for a magnitude, if one of the two neighbours of the
magnitude on that grid rounds to it. -/
def onGrid (tie : Tie) (r : RoundingInterval) (v : Nat × Nat) (g : Int) : Option ShortDecimal :=
  let (n, d) := scaleTen v.1 v.2 (-g)
  let t := n / d
  let point (c : Nat) := scaleTen c 1 g
  match r.holds (point t), r.holds (point (t + 1)) with
  | false, false => none
  | true, false => some ⟨t, g⟩
  | false, true => some ⟨t + 1, g⟩
  | true, true =>
    let twice := 2 * (n % d)
    some ⟨if twice < d then t else if d < twice then t + 1 else tie.choose t, g⟩

/-- The first grid with a hit, from `count` digits on; `fuel` grids are tried. -/
def searchGrids (tie : Tie) (r : RoundingInterval) (v : Nat × Nat) (p : Int) : Nat → Nat → ShortDecimal
  | 0, count => ⟨v.1 / v.2, p - count⟩
  | fuel + 1, count =>
    match onGrid tie r v (p - count) with
    | some s => s
    | none => searchGrids tie r v p fuel (count + 1)

/-- **The shortest decimal of the magnitude at a positive index.** Seventeen digits always suffice. -/
def shortest (tie : Tie) (i : Nat) : ShortDecimal :=
  let v := magnitude i
  searchGrids tie (roundingInterval i) v (decimalPoint v.1 v.2) 17 1

end SchemaSql.Binary64
