import Mathlib.Data.List.Basic
import SchemaSql.Artifact.Basic
import SchemaSql.Proofs.Scalar.Integer
import SchemaSql.Proofs.Text.LiteralReading

/-!
# The names in a source text

A source text writes the name of each field twice, in an array of all names and as the constant of the field. The array
is read as it is declared: its length, and between brackets the literals of its items, behind each other with commas
(`readArray?`). Names may hold quotes, commas and brackets, and still the items are told apart, since a literal ends
only where its text does (`items?_quotes`).
-/

namespace SchemaSql

theorem Decimal.parseNat?_digits (n : Nat) : parseNat? (digits n) = some n := by
  have hdigits := digits_ofDigits (digits_ne_nil n) fun _ => isDigit_of_mem_digits
  rw [ofDigits_digits] at hdigits
  exact parseNat?_eq_some_iff.2 hdigits

namespace Artifacts

open Text.Literal

/-- **Where a reader stands in an array**: before an item, behind one, or inside its literal with the text so far. -/
inductive Spot where
  | item
  | behind
  | inside (place : Place) (text : List Char)

/-- Reads items up to the end of their brackets, and returns what follows it. -/
def items? : Spot → List Char → Option (List String × List Char)
  | _, [] => none
  | .item, c :: cs =>
    if c = '"' then items? (.inside .text []) cs
    else if c = ']' then some ([], cs)
    else if c = ' ' then items? .item cs
    else none
  | .behind, c :: cs =>
    if c = ',' then items? .item cs
    else if c = ']' then some ([], cs)
    else if c = ' ' then items? .behind cs
    else none
  | .inside place text, c :: cs =>
    match move place c with
    | none => none
    | some .close => (items? .behind cs).map fun (items, rest) => (String.ofList text :: items, rest)
    | some (.go out next) => items? (.inside next (text ++ out)) cs

/-- **Reads the declaration of an array of names**: the length that it states, and its items. -/
def readArray? (line : List Char) : Option (Nat × List String) := do
  let typed ← line.dropPrefix? "pub const FIELDS: [&str; ".toList
  let (digits, behind) := Decimal.spanDigits typed
  let length ← Decimal.parseNat? digits
  let body ← behind.dropPrefix? "] = [".toList
  match ← items? .item body with
  | (items, [';', '\n']) => some (length, items)
  | _ => none

/-- An item is what its literal is read as. -/
theorem items?_inside {place : Place} {text found cs rest : List Char} (h : readFrom place cs = some (found, rest)) :
    items? (.inside place text) cs =
      (items? .behind rest).map fun (items, rest) => (String.ofList (text ++ found) :: items, rest) := by
  induction cs generalizing place text found with
  | nil => cases h
  | cons c cs ih =>
    rw [readFrom] at h
    rw [items?]
    cases hmove : move place c with
    | none =>
      rw [hmove] at h
      cases h
    | some m =>
      rw [hmove] at h
      cases m with
      | close =>
        cases h
        rw [List.append_nil]
      | go out next =>
        obtain ⟨⟨found', rest'⟩, hread, heq⟩ := Option.map_eq_some_iff.1 h
        obtain ⟨rfl, rfl⟩ := Prod.mk.inj heq
        have hnext : items? (.inside next (text ++ out)) cs = _ := ih hread
        rwa [List.append_assoc] at hnext

/-- A literal in front of other text is one item. -/
theorem items?_literal (name : String) (rest : List Char) :
    items? .item ((ofString name).toList ++ rest) =
      (items? .behind rest).map fun (items, rest) => (name :: items, rest) := by
  have hread := readFrom_escaped name.toList rest
  rw [ofString, String.toList_ofList, quote, List.cons_append, List.cons_append, List.append_assoc,
    List.singleton_append, items?, if_pos rfl, items?_inside hread, List.nil_append, String.ofList_toList]

/-- **Literals between commas are told apart**, whatever their texts hold. -/
theorem items?_quotes (names : List String) (rest : List Char) :
    items? .item ((", ".intercalate (names.map ofString)).toList ++ ']' :: rest) = some (names, rest) := by
  induction names with
  | nil => rfl
  | cons name names ih =>
    cases names with
    | nil =>
      rw [List.map_singleton, String.intercalate_singleton, items?_literal]
      rfl
    | cons next names =>
      rw [List.map_cons, List.map_cons, String.intercalate_cons_cons, String.toList_append, String.toList_append,
        List.append_assoc, List.append_assoc, items?_literal, ← List.map_cons]
      show (items? .item ((", ".intercalate ((next :: names).map ofString)).toList ++ ']' :: rest)).map _ = _
      rw [ih]
      rfl

theorem toList_fieldArray (fs : List Field) :
    (fieldArray fs).toList = "pub const FIELDS: [&str; ".toList ++ (Decimal.digits fs.length ++ ("] = [".toList ++
      ((", ".intercalate ((fs.map (·.name)).map ofString)).toList ++ ']' :: [';', '\n']))) := by
  have hlength : (toString fs.length).toList = Decimal.digits fs.length := Nat.toList_repr
  have hend : "];\n".toList = [']', ';', '\n'] := by decide
  unfold fieldArray
  simp only [String.toList_append, hlength, hend, List.map_map, List.append_assoc]
  rfl

/-- **The array of names reads back**, with its length. -/
theorem readArray?_fieldArray (fs : List Field) :
    readArray? (fieldArray fs).toList = some (fs.length, fs.map (·.name)) := by
  have hbehind : ∀ c ∈ ("] = [".toList ++ ((", ".intercalate ((fs.map (·.name)).map ofString)).toList ++
      ']' :: [';', '\n'])).head?, c.isDigit = false := by
    rintro _ ⟨⟩
    rfl
  rw [toList_fieldArray, readArray?, List.dropPrefix?_append_of_beq _ BEq.rfl, Option.bind_eq_bind, Option.bind_some,
    Decimal.spanDigits_append (fun _ => Decimal.isDigit_of_mem_digits) hbehind]
  simp only [Decimal.parseNat?_digits, List.dropPrefix?_append_of_beq _ BEq.rfl, items?_quotes, Option.bind_eq_bind,
    Option.bind_some]

/-- **The names in a source text read back.** The source text declares an array of names and one constant for each
field, in the order of columns. The array has the stated length, and its items are the names of the fields. The literal
of a constant is the name of its field, whatever stands behind it. So names that differ make arrays that differ. -/
theorem names_read_back :
    (∀ typeName (s : Schema), ∃ head, sourceText typeName s =
      head ++ "\n/// Field names in column order\n" ++ fieldArray s.fields ++
        "\npub mod fields \x7b\n" ++ String.join (s.fields.map fieldConstant) ++ "\x7d\n") ∧
    (∀ s : Schema, readArray? (fieldArray s.fields).toList = some (s.fields.length, s.fields.map (·.name))) ∧
    (∀ f, ∃ literal, fieldConstant f =
        "    /// Column \x60" ++ f.column ++ "\x60\n    " ++
          ("pub const " ++ constantName f ++ ": &str = " ++ literal ++ ";\n") ∧
      ∀ rest, read? (literal.toList ++ rest) = some (f.name.toList, rest)) ∧
    (∀ s t : Schema, s.fields.map (·.name) ≠ t.fields.map (·.name) → fieldArray s.fields ≠ fieldArray t.fields) := by
  refine ⟨fun typeName s => ⟨_, rfl⟩, fun s => readArray?_fieldArray s.fields, fun f => ?_, fun s t hne heq => hne ?_⟩
  · refine ⟨ofString f.name, rfl, fun rest => ?_⟩
    rw [ofString, String.toList_ofList, read?_quote]
  · have hs := readArray?_fieldArray s.fields
    rw [heq, readArray?_fieldArray] at hs
    exact (Prod.mk.inj (Option.some.inj hs)).2.symm

end Artifacts

end SchemaSql
