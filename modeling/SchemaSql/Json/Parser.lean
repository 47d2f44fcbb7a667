import SchemaSql.Json.Number

/-!
# Reading JSON text

The strict grammar: no comments, no trailing commas, no raw control characters in strings.
`Written.read?` returns what is written in a text that follows it; numbers beyond the range, strings with
half a pair of surrogates, and more than `maxDepth` arrays and objects around each other are unreadable
parts of it. `parse?` returns the normal value of a text of which all can be read.

The readers of this module take a text and return what they read with the rest of the text. A value is
read by recursion on the number of arrays and objects that may still be opened; the items of an array and
the members of an object by recursion on a number of steps. The length of the whole text bounds both.
-/

namespace SchemaSql.Json

/-- The number of arrays and objects that may stand around each other. -/
def maxDepth : Nat := 127

/-- The blanks between the tokens of JSON text. -/
def isSpace (c : Char) : Bool :=
  c = ' ' || c = '\n' || c = '\r' || c = '\t'

/-- Text from its first token on. -/
def skipSpace (cs : List Char) : List Char :=
  cs.dropWhile isSpace

/-! ## Strings -/

/-- What a string literal holds at one place: a character, or a code unit that is written as a number. -/
inductive StringPart where
  | char (c : Char)
  | unit (u : Nat)

/-- The value of a hexadecimal digit. -/
def hexValue? (c : Char) : Option Nat :=
  let n := c.toNat
  if 48 ≤ n && n ≤ 57 then some (n - 48)
  else if 65 ≤ n && n ≤ 70 then some (n - 55)
  else if 97 ≤ n && n ≤ 102 then some (n - 87)
  else none

/-- The code unit of four hexadecimal digits. -/
def codeUnit? (a b c d : Char) : Option Nat :=
  match hexValue? a, hexValue? b, hexValue? c, hexValue? d with
  | some a, some b, some c, some d => some (((a * 16 + b) * 16 + c) * 16 + d)
  | _, _, _, _ => none

/-- The character that a backslash and one character stand for. -/
def shortEscape? (c : Char) : Option Char :=
  if c = '"' then some '"'
  else if c = '\\' then some '\\'
  else if c = '/' then some '/'
  else if c = 'b' then some '\x08'
  else if c = 'f' then some '\x0c'
  else if c = 'n' then some '\n'
  else if c = 'r' then some '\r'
  else if c = 't' then some '\t'
  else none

/-- The parts of a string literal after its opening quote, up to the closing quote. -/
def stringParts : List Char → Option (List StringPart × List Char)
  | [] => none
  | '"' :: rest => some ([], rest)
  | '\\' :: 'u' :: a :: b :: c :: d :: rest =>
    match codeUnit? a b c d, stringParts rest with
    | some u, some (ps, rest) => some (.unit u :: ps, rest)
    | _, _ => none
  | '\\' :: e :: rest =>
    match shortEscape? e, stringParts rest with
    | some c, some (ps, rest) => some (.char c :: ps, rest)
    | _, _ => none
  | c :: rest =>
    if c = '\\' || c.toNat < 0x20 then none
    else (stringParts rest).map fun (ps, rest) => (.char c :: ps, rest)

/-- A unit that stands first in a pair. -/
def isLeading (u : Nat) : Bool :=
  0xD800 ≤ u && u < 0xDC00

/-- A unit that stands second in a pair. -/
def isTrailing (u : Nat) : Bool :=
  0xDC00 ≤ u && u < 0xE000

/-- **The characters of a string literal.** Two units that form a pair are one character; a surrogate
outside a pair is none. -/
def joinUnits : List StringPart → Option (List Char)
  | [] => some []
  | .char c :: ps => (joinUnits ps).map (c :: ·)
  | .unit u :: .unit v :: ps =>
    if isLeading u && isTrailing v then
      (joinUnits ps).map (Char.ofNat (0x10000 + (u - 0xD800) * 0x400 + (v - 0xDC00)) :: ·)
    else if isLeading u || isTrailing u then none
    else (joinUnits (.unit v :: ps)).map (Char.ofNat u :: ·)
  | .unit u :: ps =>
    if isLeading u || isTrailing u then none else (joinUnits ps).map (Char.ofNat u :: ·)

/-- Reads a string literal after its opening quote: its text, if its units form one. -/
def stringBody (cs : List Char) : Option (Option String × List Char) :=
  (stringParts cs).map fun (ps, rest) => ((joinUnits ps).map String.ofList, rest)

/-! ## Numbers -/

/-- The digits before the point: a single zero, or digits that start with none. -/
def integerDigits (cs : List Char) : Option (List Char × List Char) :=
  match Decimal.spanDigits cs with
  | ([], _) => none
  | ('0' :: _ :: _, _) => none
  | (ds, rest) => some (ds, rest)

/-- The digits after the point, at least one if there is a point. -/
def fractionDigits (cs : List Char) : Option (List Char × List Char) :=
  match cs with
  | '.' :: rest =>
    match Decimal.spanDigits rest with
    | ([], _) => none
    | (ds, rest) => some (ds, rest)
  | cs => some ([], cs)

/-- An exponent follows. -/
def startsExponent : List Char → Bool
  | 'e' :: _ => true
  | 'E' :: _ => true
  | _ => false

/-- Reads the literal of a number without its sign. -/
def literal (negative : Bool) (cs : List Char) : Option (Literal × List Char) :=
  match integerDigits cs with
  | none => none
  | some (integer, rest) =>
    match fractionDigits rest with
    | none => none
    | some (fraction, rest') =>
      match Decimal.exponentPart rest' with
      | none => none
      | some (e, rest'') =>
        some (⟨negative, ⟨integer, fraction, e⟩, fraction.isEmpty && !startsExponent rest'⟩, rest'')

/-- Reads a number. -/
def number (cs : List Char) : Option (Written × List Char) :=
  let found := match cs with
    | '-' :: rest => literal true rest
    | cs => literal false cs
  found.map fun (l, rest) => (l.number, rest)

/-! ## Values -/

/-- A string with the text of a literal. -/
def stringOf : Option String → Written
  | some s => .string s
  | none => .unreadable

/-- Reads a value that is neither array nor object. -/
def scalar : List Char → Option (Written × List Char)
  | 'n' :: 'u' :: 'l' :: 'l' :: rest => some (.null, rest)
  | 't' :: 'r' :: 'u' :: 'e' :: rest => some (.bool true, rest)
  | 'f' :: 'a' :: 'l' :: 's' :: 'e' :: rest => some (.bool false, rest)
  | '"' :: rest => (stringBody rest).map fun (s, rest) => (stringOf s, rest)
  | cs => number cs

/-- Reads the items of an array after its opening bracket or a comma, in at most the given number of
steps. -/
def items (value : List Char → Option (Written × List Char)) : Nat → List Char → Option (List Written × List Char)
  | 0, _ => none
  | steps + 1, cs =>
    match value cs with
    | none => none
    | some (x, rest) =>
      match skipSpace rest with
      | ',' :: rest => (items value steps rest).map fun (xs, rest) => (x :: xs, rest)
      | ']' :: rest => some ([x], rest)
      | _ => none

/-- Reads one member of an object: its key, a colon and its value. -/
def member (value : List Char → Option (Written × List Char)) (cs : List Char) :
    Option ((Option String × Written) × List Char) :=
  match skipSpace cs with
  | '"' :: rest =>
    match stringBody rest with
    | none => none
    | some (k, rest) =>
      match skipSpace rest with
      | ':' :: rest => (value rest).map fun (v, rest) => ((k, v), rest)
      | _ => none
  | _ => none

/-- Reads the members of an object after its opening brace or a comma, in at most the given number of
steps. -/
def members (value : List Char → Option (Written × List Char)) :
    Nat → List Char → Option (List (Option String × Written) × List Char)
  | 0, _ => none
  | steps + 1, cs =>
    match member value cs with
    | none => none
    | some (m, rest) =>
      match skipSpace rest with
      | ',' :: rest => (members value steps rest).map fun (ms, rest) => (m :: ms, rest)
      | '\x7d' :: rest => some ([m], rest)
      | _ => none

/-- Members under keys that have a text. -/
def keyed? (ms : List (Option String × Written)) : Option (List (String × Written)) :=
  ms.mapM fun m => m.1.map fun k => (k, m.2)

/-- An object with members, unreadable if the text of a key is. -/
def objectOf (ms : List (Option String × Written)) : Written :=
  match keyed? ms with
  | some ms => .object ms
  | none => .unreadable

/-- Reads an array after its opening bracket. -/
def arrayBody (value : List Char → Option (Written × List Char)) (steps : Nat) (cs : List Char) :
    Option (Written × List Char) :=
  match skipSpace cs with
  | ']' :: rest => some (.array [], rest)
  | _ => (items value steps cs).map fun (xs, rest) => (.array xs, rest)

/-- Reads an object after its opening brace. -/
def objectBody (value : List Char → Option (Written × List Char)) (steps : Nat) (cs : List Char) :
    Option (Written × List Char) :=
  match skipSpace cs with
  | '\x7d' :: rest => some (.object [], rest)
  | _ => (members value steps cs).map fun (ms, rest) => (objectOf ms, rest)

/-- **Reads a value** that opens at most the given number of arrays and objects inside each other, of which
none has more items or members than the given number of steps. -/
def value (steps : Nat) : Nat → List Char → Option (Written × List Char)
  | 0 => fun cs => scalar (skipSpace cs)
  | openings + 1 => fun cs =>
    match skipSpace cs with
    | '[' :: rest => arrayBody (value steps openings) steps rest
    | '\x7b' :: rest => objectBody (value steps openings) steps rest
    | cs => scalar cs

/-- **What is written in a JSON text.** -/
def Written.read? (s : String) : Option Written :=
  match value s.toList.length s.toList.length s.toList with
  | none => none
  | some (w, rest) => if (skipSpace rest).isEmpty then some (w.limit maxDepth) else none

/-- **The normal value of a JSON text.** -/
def parse? (s : String) : Option Json :=
  (Written.read? s).bind Written.value?

/-- What is parsed is normal. -/
theorem normal_of_parse? {s : String} {j : Json} (h : parse? s = some j) : j.Normal := by
  obtain ⟨_, _, hw⟩ := Option.bind_eq_some_iff.1 h
  exact Written.normal_of_value? hw

/-- What is read from a text is at most as deep as texts may be. -/
theorem Written.depth_le_of_read? {s : String} {w : Written} (h : read? s = some w) : w.depth ≤ maxDepth := by
  unfold read? at h
  split at h
  · cases h
  · split at h
    · exact Option.some.inj h ▸ depth_limit_le maxDepth _
    · cases h

end SchemaSql.Json
