import SchemaSql.Instant.Basic
import SchemaSql.Decimal.Numeral
import SchemaSql.Text.Blank

/-!
# Reading instants

Three spellings are read: the strict one with an offset, and two loose ones without, taken as universal
time. The loose ones leave out leading zeros, let blanks stand before each number, and know signed years;
between date and time one has blanks, the other a `T`.

Each reader of a part takes a text and returns what it read with the rest of the text.
-/

namespace SchemaSql.Instant

/-! ## Parts -/

/-- Reads at least `least` and at most `most` digits. -/
def number (least most : Nat) (cs : List Char) : Option (Nat × List Char) :=
  let ds := (cs.take most).takeWhile Char.isDigit
  if ds.length < least then none else some (Decimal.ofDigits ds, cs.drop ds.length)

/-- Reads one given character. -/
def mark (c : Char) : List Char → Option (List Char)
  | d :: rest => if c = d then some rest else none
  | [] => none

/-- Reads the nanoseconds after a point: at least one digit, of which those after the ninth are dropped. -/
def fraction (cs : List Char) : Option (Nat × List Char) :=
  match Decimal.spanDigits cs with
  | ([], _) => none
  | (ds, rest) =>
    let kept := ds.take 9
    some (Decimal.ofDigits kept * Nat.pow 10 (9 - kept.length), rest)

/-- Reads a fraction if a point starts here. -/
def optionalFraction (cs : List Char) : Option (Nat × List Char) :=
  match cs with
  | '.' :: rest => fraction rest
  | cs => some (0, cs)

/-- **The parts of a date and a time** as a text gives them. -/
structure Fields where
  year : Int
  month : Nat
  day : Nat
  hour : Nat
  minute : Nat
  second : Nat
  nanos : Nat

/-- The instant that the parts stand for in universal time, if calendar and clock have it. -/
def Fields.instant? (f : Fields) : Option Instant :=
  match Date.of? f.year f.month f.day, TimeOfDay.ofClock? f.hour f.minute f.second f.nanos with
  | some date, some time => some ⟨date, time⟩
  | _, _ => none

/-! ## The strict spelling -/

/-- Reads the offset from universal time in minutes: the letter `Z`, or a sign with hours and minutes. -/
def offset (cs : List Char) : Option (Int × List Char) :=
  let signed (sign : Int) (rest : List Char) : Option (Int × List Char) := do
    let (hours, rest) ← number 2 2 rest
    let rest ← mark ':' rest
    let (minutes, rest) ← number 2 2 rest
    if hours ≤ 23 ∧ minutes ≤ 59 then some (sign * (hours * 60 + minutes), rest) else none
  match cs with
  | 'Z' :: rest => some (0, rest)
  | 'z' :: rest => some (0, rest)
  | '+' :: rest => signed 1 rest
  | '-' :: rest => signed (-1) rest
  | '\u2212' :: rest => signed (-1) rest
  | _ => none

/-- Reads what may stand between date and time in the strict spelling. -/
def strictSeparator : List Char → Option (List Char)
  | 'T' :: rest => some rest
  | 't' :: rest => some rest
  | ' ' :: rest => some rest
  | _ => none

/-- Reads date and time with all leading zeros. -/
def strictFields (cs : List Char) : Option (Fields × List Char) := do
  let (year, cs) ← number 4 4 cs
  let cs ← mark '-' cs
  let (month, cs) ← number 2 2 cs
  let cs ← mark '-' cs
  let (day, cs) ← number 2 2 cs
  let cs ← strictSeparator cs
  let (hour, cs) ← number 2 2 cs
  let cs ← mark ':' cs
  let (minute, cs) ← number 2 2 cs
  let cs ← mark ':' cs
  let (second, cs) ← number 2 2 cs
  let (nanos, cs) ← optionalFraction cs
  some (⟨year, month, day, hour, minute, second, nanos⟩, cs)

/-- **Reads the strict spelling**: an instant with its offset from universal time. -/
def parseStrict? (cs : List Char) : Option Instant := do
  let (fields, cs) ← strictFields cs
  let (minutes, cs) ← offset cs
  let t ← fields.instant?
  if cs.isEmpty then t.minutesEarlier? minutes else none

/-! ## The loose spellings -/

/-- Reads a year: up to four digits, or a sign and any number of them. -/
def looseYear (cs : List Char) : Option (Int × List Char) :=
  match Text.dropBlanks cs with
  | '-' :: rest => (number 1 rest.length rest).map fun (n, rest) => (-(n : Int), rest)
  | '+' :: rest => (number 1 rest.length rest).map fun (n, rest) => ((n : Int), rest)
  | rest => (number 1 4 rest).map fun (n, rest) => ((n : Int), rest)

/-- Reads one or two digits after any blanks. -/
def looseNumber (cs : List Char) : Option (Nat × List Char) :=
  number 1 2 (Text.dropBlanks cs)

/-- **Reads a loose spelling**, with the given reader of what stands between date and time. -/
def parseLoose? (separator : List Char → Option (List Char)) (cs : List Char) : Option Instant := do
  let (year, cs) ← looseYear cs
  let cs ← mark '-' cs
  let (month, cs) ← looseNumber cs
  let cs ← mark '-' cs
  let (day, cs) ← looseNumber cs
  let cs ← separator cs
  let (hour, cs) ← looseNumber cs
  let cs ← mark ':' cs
  let (minute, cs) ← looseNumber cs
  let cs ← mark ':' cs
  let (second, cs) ← looseNumber cs
  let (nanos, cs) ← optionalFraction cs
  if cs.isEmpty then Fields.instant? ⟨year, month, day, hour, minute, second, nanos⟩ else none

/-- **The instant that a text stands for**, in the first spelling that fits. -/
def parse? (cs : List Char) : Option Instant :=
  parseStrict? cs <|> parseLoose? (fun cs => some (Text.dropBlanks cs)) cs <|> parseLoose? (mark 'T') cs

end SchemaSql.Instant
