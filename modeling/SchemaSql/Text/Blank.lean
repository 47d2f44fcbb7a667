/-!
# Blank characters

The characters with the property `White_Space`, and trimming text of them. Directives of a tag, the
texts that stand for numbers and the overrides of column types are all read without the blanks around
them.
-/

namespace SchemaSql.Text

/-- The characters with the property `White_Space`. -/
def isBlank (c : Char) : Bool :=
  let n := c.toNat
  (9 ≤ n && n ≤ 13) || n == 0x20 || n == 0x85 || n == 0xA0 || n == 0x1680 ||
    (0x2000 ≤ n && n ≤ 0x200A) || n == 0x2028 || n == 0x2029 || n == 0x202F || n == 0x205F || n == 0x3000

/-- **Text without its leading blanks.** -/
def dropBlanks (cs : List Char) : List Char :=
  cs.dropWhile isBlank

/-- **Text without the blanks at either end.** -/
def trim (cs : List Char) : List Char :=
  (dropBlanks (dropBlanks cs).reverse).reverse

/-- A string without the blanks at either end. -/
def trimmed (s : String) : String :=
  String.ofList (trim s.toList)

/-- What is left after the leading blanks starts with no blank. -/
theorem dropBlanks_head {cs : List Char} {c : Char} {rest : List Char} (h : dropBlanks cs = c :: rest) :
    isBlank c = false := by
  have hc : (cs.dropWhile isBlank).head? = some c := by rw [show cs.dropWhile isBlank = c :: rest from h]; rfl
  have := List.head?_dropWhile_not isBlank cs
  rw [hc] at this
  exact this

theorem mem_of_mem_dropBlanks {cs : List Char} {c : Char} (h : c ∈ dropBlanks cs) : c ∈ cs :=
  (List.dropWhile_sublist isBlank).subset h

/-- Trimming brings no character into a text. -/
theorem mem_of_mem_trim {cs : List Char} {c : Char} (h : c ∈ trim cs) : c ∈ cs :=
  mem_of_mem_dropBlanks (List.mem_reverse.1 (mem_of_mem_dropBlanks (List.mem_reverse.1 h)))

end SchemaSql.Text
