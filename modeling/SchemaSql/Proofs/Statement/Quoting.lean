import Mathlib.Logic.Function.Defs
import SchemaSql.Proofs.Text.SnakeCase

/-!
# Names between quotes

A quoted name is read from its opening quote on: two quotes in a row stand for one, and the first quote that is not
doubled closes it. So a text reads as a name exactly if it is the quoted name (`Text.Doubled.decode_eq_some_iff`), and
at the start of a longer text a quoted name ends where it was meant to (`Text.Doubled.read?_eq_some_iff`). Of the names
that are written in statements only reserved words are quoted, and then every word is read as itself
(`Identifier.readName?_quoteReserved`).
-/

namespace SchemaSql

namespace Text.Doubled

variable {q : Char} {cs name rest : List Char}

/-- **Reads a quoted text** at the start of another, and returns what follows it. -/
def read? (q : Char) : List Char → Option (List Char × List Char)
  | [] => none
  | c :: cs => if c = q then decodeBody q cs else none

/-- **The inside of a quoted text ends** at the first quote that is not doubled. -/
theorem decodeBody_eq_some_iff :
    decodeBody q cs = some (name, rest) ↔ cs = body q name ++ q :: rest ∧ rest.head? ≠ some q := by
  constructor
  · intro h
    fun_induction decodeBody q cs generalizing name with
    | case1 => cases h
    | case2 cs ih =>
      -- a doubled quote
      obtain ⟨⟨name', rest'⟩, hread, heq⟩ := Option.map_eq_some_iff.1 h
      obtain ⟨rfl, rfl⟩ := Prod.mk.inj heq
      obtain ⟨rfl, hrest⟩ := ih hread
      refine ⟨?_, hrest⟩
      rw [body, if_pos rfl, List.cons_append, List.cons_append]
    | case3 c cs hc =>
      cases h
      exact ⟨rfl, fun hhead => hc (Option.some.inj hhead)⟩
    | case4 =>
      cases h
      exact ⟨rfl, (Option.some_ne_none q).symm⟩
    | case5 c cs hc ih =>
      obtain ⟨⟨name', rest'⟩, hread, heq⟩ := Option.map_eq_some_iff.1 h
      obtain ⟨rfl, rfl⟩ := Prod.mk.inj heq
      obtain ⟨rfl, hrest⟩ := ih hread
      refine ⟨?_, hrest⟩
      rw [body, if_neg hc, List.cons_append]
  · rintro ⟨rfl, hrest⟩
    exact decodeBody_body name hrest

/-- **What is read as a quoted text** is the quoted text, unless a quote follows and doubles its last one. -/
theorem read?_eq_some_iff :
    read? q cs = some (name, rest) ↔ cs = encode q name ++ rest ∧ rest.head? ≠ some q := by
  have hencode : encode q name ++ rest = q :: (body q name ++ q :: rest) := by
    rw [encode, List.append_assoc, List.cons_append, List.singleton_append]
  rw [hencode]
  cases cs with
  | nil => exact iff_of_false (Option.some_ne_none _).symm fun h => List.cons_ne_nil _ _ h.1.symm
  | cons c cs =>
    rw [read?, List.cons.injEq]
    split
    · rename_i hc
      rw [decodeBody_eq_some_iff, and_iff_right hc]
    · rename_i hc
      exact iff_of_false (Option.some_ne_none _).symm fun h => hc h.1.1

/-- **A text is read as a whole exactly if it is a quoted text.** -/
theorem decode_eq_some_iff : decode q cs = some name ↔ cs = encode q name := by
  constructor
  · intro h
    unfold decode at h
    split at h
    · cases h
    · split at h
      · rename_i c cs hc
        split at h
        · rename_i found hfound
          cases h
          rw [(decodeBody_eq_some_iff.1 hfound).1, hc]
          rfl
        · cases h
      · cases h
  · rintro rfl
    exact decode_encode q name

end Text.Doubled

namespace Identifier

open Text

variable {name : String} {rest : List Char}

theorem toList_quote (d : Dialect) (name : String) :
    (quote d name).toList = Doubled.encode d.quoteChar name.toList :=
  String.toList_ofList

/-- **Reads a name** at the start of a text, and returns what follows it: a name between the quotes of a dialect, or a
word that no dialect reserves. -/
def readName? (d : Dialect) (cs : List Char) : Option (String × List Char) :=
  match Doubled.read? d.quoteChar cs with
  | some (name, rest) => some (String.ofList name, rest)
  | none =>
    let word := String.ofList (cs.takeWhile isPart)
    if Valid word then some (word, cs.dropWhile isPart) else none

/-- **Nothing breaks out of a quoted name.** A text is read as a name by the rule of a dialect exactly if it is the
quoted name, whatever quotes the name holds. In a longer text it ends behind its last quote exactly if no further quote
follows. So names that differ are quoted differently. A name that may be reserved is written as it is, unless it is
reserved and written as a text that is read as the name. -/
theorem quoted_names_read_back (d : Dialect) :
    (∀ text name : String, Doubled.decode d.quoteChar text.toList = some name.toList ↔ text = quote d name) ∧
    (∀ (name : String) (rest : List Char),
      Doubled.read? d.quoteChar ((quote d name).toList ++ rest) = some (name.toList, rest) ↔
        rest.head? ≠ some d.quoteChar) ∧
    Function.Injective (quote d) ∧
    (∀ name, isReserved name = false ∧ quoteReserved d name = name ∨
      isReserved name = true ∧ Doubled.decode d.quoteChar (quoteReserved d name).toList = some name.toList) := by
  have hdecode (text name : String) :
      Doubled.decode d.quoteChar text.toList = some name.toList ↔ text = quote d name := by
    rw [Doubled.decode_eq_some_iff, ← toList_quote, String.toList_inj]
  refine ⟨hdecode, fun name rest => ?_, fun name name' h => ?_, fun name => ?_⟩
  · rw [Doubled.read?_eq_some_iff, toList_quote, and_iff_right rfl]
  · have hname := (hdecode _ _).2 h
    rw [(hdecode _ _).2 rfl, Option.some.injEq, String.toList_inj] at hname
    exact hname
  · rw [quoteReserved]
    cases hreserved : isReserved name with
    | true => exact .inr ⟨rfl, (hdecode _ _).2 rfl⟩
    | false => exact .inl ⟨rfl, rfl⟩

/-- Quotes at both ends of a name and next to each other are told from the one that closes. -/
example :
    quote .mysql "`a``b\"`" = "```a````b\"```" ∧ quote .sqlite "`a``b\"`" = "\"`a``b\"\"`\"" ∧
      readName? .mysql "```a````b\"``` (key)".toList = some ("`a``b\"`", " (key)".toList) := by
  decide +kernel

end Identifier

end SchemaSql
