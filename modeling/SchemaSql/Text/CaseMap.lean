import SchemaSql.Text.CaseTable
import SchemaSql.Text.CasedTable

/-!
# Upper and lower case of text

The full mappings: a character may become several, and a capital sigma at the end of a word becomes the
final one. All other characters are mapped on their own.
-/

namespace SchemaSql.Text

/-- A code point lies in one of the ranges. -/
def inRanges (ranges : List (Nat × Nat)) (n : Nat) : Bool :=
  ranges.any fun r => r.1 ≤ n && n ≤ r.2

/-- A code point belongs to a run. -/
def CaseRun.covers (r : CaseRun) (n : Nat) : Bool :=
  r.first ≤ n && n ≤ r.last && (n - r.first) % r.step == 0

/-- A character mapped by a table of runs and a table of sequences. -/
def mapChar (runs : List CaseRun) (sequences : List (Nat × List Nat)) (c : Char) : List Char :=
  match sequences.lookup c.toNat with
  | some ns => ns.map Char.ofNat
  | none =>
    match runs.find? fun r => r.covers c.toNat with
    | some r => [Char.ofNat (c.toNat + r.shift).toNat]
    | none => [c]

/-- The upper form of a character. -/
def upperChar (c : Char) : List Char :=
  if c.toNat < 0x80 then [c.toUpper] else mapChar upperRuns upperSequences c

/-- The lower form of a character that stands alone. -/
def lowerChar (c : Char) : List Char :=
  if c.toNat < 0x80 then [c.toLower] else mapChar lowerRuns lowerSequences c

/-- **Text in upper case.** -/
def upper (cs : List Char) : List Char :=
  cs.flatMap upperChar

/-- Past characters without a say in case, a cased one follows. -/
def reachesCased (cs : List Char) : Bool :=
  match cs.dropWhile fun c => inRanges caseIgnorableRanges c.toNat with
  | c :: _ => inRanges casedRanges c.toNat
  | [] => false

/-- Text in lower case that stands after the characters `before`, the nearest first. -/
def lowerAfter (before : List Char) : List Char → List Char
  | [] => []
  | c :: rest =>
    let form := if c = 'Σ' then (if reachesCased before && !reachesCased rest then ['ς'] else ['σ'])
      else lowerChar c
    form ++ lowerAfter (c :: before) rest

/-- **Text in lower case.** A capital sigma after a cased character with none behind it is final. -/
def lower (cs : List Char) : List Char :=
  lowerAfter [] cs

/-- A string in upper case. -/
def uppercase (s : String) : String :=
  String.ofList (upper s.toList)

/-- A string in lower case. -/
def lowercase (s : String) : String :=
  String.ofList (lower s.toList)

end SchemaSql.Text
