import SchemaSql.Json.Basic
import SchemaSql.Binary64.Layout

/-!
# JSON text of a value

The compact form: no blanks, members in the order in which they stand, every character above the control
characters written as itself except the quote and the backslash.
-/

namespace SchemaSql.Json

/-- Numbers stand with their digits around the point from `1e-5` to below `1e16`, and have a signed
exponent outside. Of two shortest decimals that are equally near, the one with the even last digit is
taken. -/
def floatLayout : Binary64.Layout :=
  { digits := .shortest .even, low := -5, high := 16, plus := true }

/-- The digit of a value below sixteen, in lower case. -/
def hexDigit (n : Nat) : Char :=
  if n < 10 then Char.ofNat (48 + n) else Char.ofNat (87 + n)

/-- **One character inside a string literal.** -/
def escapeChar (c : Char) : List Char :=
  if c = '"' then ['\\', '"']
  else if c = '\\' then ['\\', '\\']
  else if c = '\x08' then ['\\', 'b']
  else if c = '\x0c' then ['\\', 'f']
  else if c = '\n' then ['\\', 'n']
  else if c = '\r' then ['\\', 'r']
  else if c = '\t' then ['\\', 't']
  else if c.toNat < 0x20 then ['\\', 'u', '0', '0', hexDigit (c.toNat / 16), hexDigit (c.toNat % 16)]
  else [c]

/-- The string literal of a list of characters. -/
def quote (cs : List Char) : List Char :=
  '"' :: cs.flatMap escapeChar ++ ['"']

/-- The digits of an integer, after a minus sign if it is negative. -/
def integerText (n : Integer) : List Char :=
  if n.val < 0 then '-' :: Decimal.digits n.val.natAbs else Decimal.digits n.val.natAbs

mutual
/-- **The compact text of a value.** -/
def render : Json → List Char
  | null => "null".toList
  | bool true => "true".toList
  | bool false => "false".toList
  | int n => integerText n
  | float x => floatLayout.text x
  | string s => quote s.toList
  | array [] => ['[', ']']
  | array (x :: xs) => '[' :: (x.render ++ renderItems xs)
  | object [] => ['\x7b', '\x7d']
  | object ((k, v) :: ms) => '\x7b' :: (quote k.toList ++ ':' :: (v.render ++ renderMembers ms))
/-- The items that follow the first one, up to the closing bracket. -/
def renderItems : List Json → List Char
  | [] => [']']
  | x :: xs => ',' :: (x.render ++ renderItems xs)
/-- The members that follow the first one, up to the closing brace. -/
def renderMembers : List (String × Json) → List Char
  | [] => ['\x7d']
  | (k, v) :: ms => ',' :: (quote k.toList ++ ':' :: (v.render ++ renderMembers ms))
end

/-- The compact text of a value as a string. -/
def text (j : Json) : String :=
  String.ofList j.render

end SchemaSql.Json
