/-!
# Decimal numerals

The parts of a decimal numeral (digits before the point, digits after it, exponent) and the readers of
those parts. Which parts may be missing is for the format that uses them: JSON text and the texts that
stand for floating-point numbers differ there.
-/

namespace SchemaSql.Decimal

/-- **An unsigned decimal numeral**: `integer.fraction * 10 ^ exponent`. -/
structure Numeral where
  integer : List Char
  fraction : List Char
  exponent : Int
deriving DecidableEq

/-- Splits off the leading digits of a text. -/
def spanDigits (cs : List Char) : List Char × List Char :=
  (cs.takeWhile Char.isDigit, cs.dropWhile Char.isDigit)

/-- The natural number that a list of digits denotes. -/
def ofDigits (ds : List Char) : Nat :=
  Nat.ofDigitChars 10 ds 0

/-- The decimal digits of a natural number. -/
def digits (n : Nat) : List Char :=
  Nat.toDigits 10 n

/-- The digits of a natural number as a string. -/
def ofNat (n : Nat) : String :=
  String.ofList (digits n)

/-- The digits of an integer after a minus sign if it is negative. -/
def ofInt (n : Int) : String :=
  if n < 0 then "-" ++ ofNat n.natAbs else ofNat n.natAbs

/-- The digits of a natural number, with zeros in front up to a width. -/
def padded (width n : Nat) : List Char :=
  let ds := digits n
  List.replicate (width - ds.length) '0' ++ ds

/-- Reads the sign of an exponent; a plus sign may be left out. -/
def exponentSign : List Char → Bool × List Char
  | '-' :: rest => (true, rest)
  | '+' :: rest => (false, rest)
  | cs => (false, cs)

/-- **Reads an exponent** if one starts here: `none` if an exponent mark has no digits, otherwise the
exponent, zero without a mark, and the rest. -/
def exponentPart (cs : List Char) : Option (Int × List Char) :=
  match cs with
  | c :: rest =>
    if c = 'e' || c = 'E' then
      let (negative, rest) := exponentSign rest
      match spanDigits rest with
      | ([], _) => none
      | (ds, rest) => some (if negative then -(ofDigits ds : Int) else ofDigits ds, rest)
    else some (0, cs)
  | [] => some (0, [])

namespace Numeral

/-- All digits of a numeral as one natural number. -/
def coefficient (n : Numeral) : Nat :=
  ofDigits (n.integer ++ n.fraction)

/-- The power of ten that scales the coefficient. -/
def scale (n : Numeral) : Int :=
  n.exponent - n.fraction.length

end Numeral

theorem ofDigits_digits (n : Nat) : ofDigits (digits n) = n :=
  Nat.ofDigitChars_toDigits (by decide) (by decide)

theorem isDigit_of_mem_digits {n : Nat} {c : Char} (h : c ∈ digits n) : c.isDigit = true :=
  Nat.isDigit_of_mem_toDigits (by decide) (by decide) h

theorem digits_ne_nil (n : Nat) : digits n ≠ [] :=
  Nat.toDigits_ne_nil

/-- Digits followed by something else are split off whole. -/
theorem spanDigits_append {ds rest : List Char} (hd : ∀ c ∈ ds, c.isDigit = true)
    (hr : ∀ c ∈ rest.head?, c.isDigit = false) : spanDigits (ds ++ rest) = (ds, rest) := by
  have hnil : rest.takeWhile Char.isDigit = [] ∧ rest.dropWhile Char.isDigit = rest := by
    cases rest with
    | nil => exact ⟨rfl, rfl⟩
    | cons c rest => simp [hr c rfl]
  simp only [spanDigits, List.takeWhile_append_of_pos hd, List.dropWhile_append_of_pos hd, hnil.1, hnil.2,
    List.append_nil]

end SchemaSql.Decimal
