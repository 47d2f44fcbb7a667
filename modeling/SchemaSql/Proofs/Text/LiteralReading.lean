import Mathlib.Tactic.SplitIfs
import SchemaSql.Text.Literal

/-!
# Reading string literals

A literal in source text is read from left to right by the rules of the language it is written in: characters stand for
themselves, apart from the quote that ends the literal, a carriage return, which may not stand there, and the
backslash. Behind a backslash stand a quote, a short escape, a byte of ASCII in two hexadecimal digits, or a code point
in up to six between braces; a backslash at the end of a line takes the blanks before the next text away.

These rules know nothing of how a text was escaped. `Walks` says that a part of a literal is read from one place to
another. The escaped form of a character leads from text to text and yields the character (`walks_escapeChar`), so that
the literal of a text is read as the text, whatever stands behind it (`read?_quote`).
-/

namespace SchemaSql.Text.Literal

/-! ## The rules -/

/-- **Where a reader stands inside a literal.** -/
inductive Place where
  | text
  /-- Behind a backslash. -/
  | escape
  /-- Behind the backslash and the `x` of a byte, with the first of its two digits if that was read. -/
  | byte (high : Option Nat)
  /-- Before the braces of a code point. -/
  | brace
  /-- Between the braces, behind a number of digits. -/
  | scalar (count value : Nat)
  /-- In the blanks behind a backslash that ended a line. -/
  | gap

/-- What a character of a literal does: it ends the literal, or yields some text and leads to another place. -/
inductive Move where
  | close
  | go (out : List Char) (next : Place)

/-- The value of a hexadecimal digit in either case. -/
def hexValue? (c : Char) : Option Nat :=
  if '0' ≤ c ∧ c ≤ '9' then some (c.toNat - '0'.toNat)
  else if 'a' ≤ c ∧ c ≤ 'f' then some (c.toNat - 'a'.toNat + 10)
  else if 'A' ≤ c ∧ c ≤ 'F' then some (c.toNat - 'A'.toNat + 10)
  else none

/-- The character of a short escape. -/
def shortEscape? : Char → Option Char
  | '"' => some '"'
  | '\'' => some '\''
  | '\\' => some '\\'
  | 'n' => some '\n'
  | 'r' => some '\r'
  | 't' => some '\t'
  | '0' => some '\x00'
  | _ => none

/-- A character in text. -/
def moveText (c : Char) : Option Move :=
  if c = '"' then some .close
  else if c = '\\' then some (.go [] .escape)
  else if c = '\r' then none
  else some (.go [c] .text)

/-- A character behind a backslash. -/
def moveEscape (c : Char) : Option Move :=
  match shortEscape? c with
  | some d => some (.go [d] .text)
  | none =>
    if c = 'x' then some (.go [] (.byte none))
    else if c = 'u' then some (.go [] .brace)
    else if c = '\n' then some (.go [] .gap)
    else none

/-- A character between the braces of a code point: a digit, an underscore behind one, or the end, which needs one to
six digits and the code point of a character. -/
def moveScalar (count value : Nat) (c : Char) : Option Move :=
  if c = '\x7d' then if 0 < count ∧ value.isValidChar then some (.go [Char.ofNat value] .text) else none
  else if c = '_' then if 0 < count then some (.go [] (.scalar count value)) else none
  else (hexValue? c).bind fun d => if count < 6 then some (.go [] (.scalar (count + 1) (16 * value + d))) else none

/-- **What a character does** where a reader stands. -/
def move : Place → Char → Option Move
  | .text, c => moveText c
  | .escape, c => moveEscape c
  | .byte none, c => (hexValue? c).bind fun d => if d < 8 then some (.go [] (.byte (some d))) else none
  | .byte (some high), c => (hexValue? c).map fun d => .go [Char.ofNat (16 * high + d)] .text
  | .brace, c => if c = '\x7b' then some (.go [] (.scalar 0 0)) else none
  | .scalar count value, c => moveScalar count value c
  | .gap, c => if c = ' ' ∨ c = '\t' ∨ c = '\n' then some (.go [] .gap) else moveText c

/-- Reads to the end of a literal, and returns what follows it. -/
def readFrom : Place → List Char → Option (List Char × List Char)
  | _, [] => none
  | place, c :: cs =>
    match move place c with
    | none => none
    | some .close => some ([], cs)
    | some (.go out next) => (readFrom next cs).map fun (text, rest) => (out ++ text, rest)

/-- **Reads a literal** at the start of a text, and returns what follows it. -/
def read? : List Char → Option (List Char × List Char)
  | '"' :: cs => readFrom .text cs
  | _ => none

/-! ## Parts of literals -/

/-- **A part of a literal leads from one place to another** and yields a text, whatever stands behind it. -/
def Walks (place : Place) (part out : List Char) (next : Place) : Prop :=
  ∀ rest, readFrom place (part ++ rest) = (readFrom next rest).map fun (text, rest) => (out ++ text, rest)

variable {place next last : Place} {part part' out out' : List Char}

theorem Walks.nil (place : Place) : Walks place [] [] place := by
  intro rest
  rw [List.nil_append]
  cases readFrom place rest <;> rfl

theorem Walks.append (h : Walks place part out next) (h' : Walks next part' out' last) :
    Walks place (part ++ part') (out ++ out') last := by
  intro rest
  rw [List.append_assoc, h, h']
  cases readFrom last rest with
  | none => rfl
  | some found => simp only [Option.map_some, List.append_assoc]

/-- A single character. -/
theorem walks_of_move {c : Char} (h : move place c = some (.go out next)) : Walks place [c] out next := by
  intro rest
  rw [List.singleton_append, readFrom, h]

/-- A backslash and the character of a short escape. -/
theorem walks_shortEscape {c d : Char} (h : shortEscape? c = some d) : Walks .text ['\\', c] [d] .text := by
  have hback : Walks .text ['\\'] [] .escape := walks_of_move rfl
  have hshort : Walks .escape [c] [d] .text := walks_of_move (by rw [move, moveEscape, h])
  exact hback.append hshort

/-! ## Code points -/

theorem hexValue?_digitChar : ∀ d < 16, hexValue? (Nat.digitChar d) = some d := by
  decide

/-- A digit inside braces. -/
theorem walks_digitChar {count value d : Nat} (hd : d < 16) (hcount : count < 6) :
    Walks (.scalar count value) [Nat.digitChar d] [] (.scalar (count + 1) (16 * value + d)) := by
  have hmarks : ∀ d < 16, Nat.digitChar d ≠ '\x7d' ∧ Nat.digitChar d ≠ '_' := by decide
  refine walks_of_move ?_
  rw [move, moveScalar, if_neg (hmarks d hd).1, if_neg (hmarks d hd).2, hexValue?_digitChar d hd, Option.bind_some,
    if_pos hcount]

/-- **The digits of a number are read as the number**, if they are six at most. -/
theorem walks_toDigits (n : Nat) (h : n < 0x1000000) :
    Walks (.scalar 0 0) (Nat.toDigits 16 n) [] (.scalar (Nat.toDigits 16 n).length n) := by
  induction n using Nat.strongRecOn with
  | ind n ih =>
    by_cases hsmall : n < 16
    · have hdigit : Walks (.scalar 0 0) [Nat.digitChar n] [] (.scalar 1 (16 * 0 + n)) :=
        walks_digitChar hsmall (by decide)
      rw [Nat.mul_zero, Nat.zero_add] at hdigit
      rw [Nat.toDigits_of_lt_base hsmall]
      exact hdigit
    · -- the last digit comes behind those of the quotient, which are five at most
      have hfront := ih (n / 16) (by omega) (by omega)
      have hcount : (Nat.toDigits 16 (n / 16)).length < 6 :=
        Nat.lt_succ_of_le ((Nat.length_toDigits_le_iff (by decide) (by decide)).2 (by omega))
      have hdigit : Walks _ _ _ (.scalar _ (16 * (n / 16) + n % 16)) :=
        walks_digitChar (Nat.mod_lt n (by decide)) hcount
      rw [Nat.div_add_mod] at hdigit
      rw [Nat.toDigits_of_base_le (by decide) (Nat.le_of_not_lt hsmall), List.length_append, List.length_singleton]
      exact hfront.append hdigit

/-- **A code point between braces stands for its character.** -/
theorem walks_codePoint (c : Char) : Walks .text (codePoint c) [c] .text := by
  have hopen : Walks .text ['\\', 'u', '\x7b'] [] (.scalar 0 0) :=
    ((walks_of_move rfl : Walks .text ['\\'] [] .escape).append
      (walks_of_move rfl : Walks .escape ['u'] [] .brace)).append (walks_of_move rfl : Walks .brace ['\x7b'] [] _)
  have hvalid : c.toNat.isValidChar := c.valid
  have hdigits := walks_toDigits c.toNat (by rcases hvalid with h | h <;> omega)
  have hclose : Walks (.scalar (Nat.toDigits 16 c.toNat).length c.toNat) ['\x7d'] [c] .text := by
    refine walks_of_move ?_
    rw [move, moveScalar, if_pos rfl, if_pos ⟨Nat.length_toDigits_pos, hvalid⟩, Char.ofNat_toNat]
  exact hopen.append (hdigits.append hclose)

/-! ## Whole literals -/

/-- **The escaped form of a character is read as the character**, and leads from text to text. -/
theorem walks_escapeChar (c : Char) : Walks .text (escapeChar c) [c] .text := by
  unfold escapeChar
  split_ifs with hquote hslash hline hreturn htab hzero
  · subst hquote; exact walks_shortEscape rfl
  · subst hslash; exact walks_shortEscape rfl
  · subst hline; exact walks_shortEscape rfl
  · subst hreturn; exact walks_shortEscape rfl
  · subst htab; exact walks_shortEscape rfl
  · subst hzero; exact walks_shortEscape rfl
  · exact walks_codePoint c
  · refine walks_of_move ?_
    rw [move, moveText, if_neg hquote, if_neg hslash, if_neg hreturn]

/-- **The escaped form of a text is read as the text.** -/
theorem walks_escaped (cs : List Char) : Walks .text (cs.flatMap escapeChar) cs .text := by
  induction cs with
  | nil => exact .nil _
  | cons c cs ih => exact (walks_escapeChar c).append ih

/-- The end of a literal is where the escaped text ends. -/
theorem readFrom_escaped (cs rest : List Char) :
    readFrom .text (cs.flatMap escapeChar ++ '"' :: rest) = some (cs, rest) := by
  rw [walks_escaped, readFrom]
  simp only [move, moveText, ↓reduceIte, Option.map_some, List.append_nil]

/-- **The literal of a text is read as the text**, whatever stands behind it. -/
theorem read?_quote (cs rest : List Char) : read? (quote cs ++ rest) = some (cs, rest) := by
  rw [quote, List.cons_append, List.cons_append, List.append_assoc, List.singleton_append, read?, readFrom_escaped]

/-- Forms that no escaped text has are read as well: bytes, digits in upper case, and lines that go on. -/
example : read? "\"\\x41\\'\\u\x7b1_F6\x7d\\\n  b\", 1".toList = some (['A', '\'', 'Ƕ', 'b'], ", 1".toList) := by
  decide

end SchemaSql.Text.Literal
