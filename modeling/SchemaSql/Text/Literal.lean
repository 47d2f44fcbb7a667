import SchemaSql.Text.CaseMap
import SchemaSql.Text.ExtendTable
import SchemaSql.Text.UnprintableTable

/-!
# String literals

A text between double quotes, as it stands in generated source and in messages. The quote, the backslash
and four control characters are escaped with a backslash; characters without a printed form, and those
that would join the character before them, are written as their code point; the halfwidth sound marks stand
beside it and are written as themselves.
-/

namespace SchemaSql.Text.Literal

/-- The two halfwidth sound marks, which extend a character but have a width of their own. -/
def isHalfwidthSoundMark (n : Nat) : Bool :=
  n = 0xFF9E || n = 0xFF9F

/-- A character is written as its code point. -/
def needsCodePoint (c : Char) : Bool :=
  let n := c.toNat
  if 0x20 ≤ n && n < 0x7F then false
  else inRanges unprintableRanges n || (inRanges extendRanges n && !isHalfwidthSoundMark n)

/-- A code point between braces. -/
def codePoint (c : Char) : List Char :=
  '\\' :: 'u' :: '\x7b' :: Nat.toDigits 16 c.toNat ++ ['\x7d']

/-- **One character inside a literal.** -/
def escapeChar (c : Char) : List Char :=
  if c = '"' then ['\\', '"']
  else if c = '\\' then ['\\', '\\']
  else if c = '\n' then ['\\', 'n']
  else if c = '\r' then ['\\', 'r']
  else if c = '\t' then ['\\', 't']
  else if c = '\x00' then ['\\', '0']
  else if needsCodePoint c then codePoint c
  else [c]

/-- **The literal of a text.** -/
def quote (cs : List Char) : List Char :=
  '"' :: cs.flatMap escapeChar ++ ['"']

/-- The literal of a string. -/
def ofString (s : String) : String :=
  String.ofList (quote s.toList)

end SchemaSql.Text.Literal
