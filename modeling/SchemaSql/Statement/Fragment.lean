import SchemaSql.Json.Basic

/-!
# Fragments of statements

A fragment is written as a list of pieces: text, and values in their places. Its text has a question mark
in the place of each value, and its arguments are the values in the same order, so that the two cannot
fall apart. Statements are not sent as fragments; these are the form in which it is seen where their values
belong.
-/

namespace SchemaSql

/-- **A piece of a statement.** -/
inductive Piece where
  | text (s : String)
  | value (v : Json)

/-- **A part of a statement**, or a whole one. -/
abbrev Fragment := List Piece

/-- **A statement as it is sent to a database**: text with placeholders, and the arguments for them. -/
structure Statement where
  sql : String
  args : List Json

namespace Piece

/-- The text of a piece, a placeholder for a value. -/
def sql : Piece → String
  | text s => s
  | value _ => "?"

/-- The argument that a piece brings. -/
def arg? : Piece → Option Json
  | text _ => none
  | value v => some v

end Piece

namespace Fragment

/-- The text of a fragment. -/
def sql (f : Fragment) : String :=
  String.join (f.map Piece.sql)

/-- The arguments of a fragment in the order of their placeholders. -/
def args (f : Fragment) : List Json :=
  f.filterMap Piece.arg?

/-- **The statement of a fragment.** -/
def statement (f : Fragment) : Statement :=
  ⟨sql f, args f⟩

/-- Fragments with a text between them. -/
def joined (sep : String) : List Fragment → Fragment
  | [] => []
  | [f] => f
  | f :: g :: rest => f ++ .text sep :: joined sep (g :: rest)

/-- Values with commas between them. -/
def values (vs : List Json) : Fragment :=
  joined ", " (vs.map fun v => [.value v])

theorem sql_append (f g : Fragment) : sql (f ++ g) = sql f ++ sql g := by
  simp [sql, String.join_append]

theorem args_append (f g : Fragment) : args (f ++ g) = args f ++ args g := by
  simp [args]

theorem args_cons_text (t : String) (f : Fragment) : args (.text t :: f) = args f := rfl

theorem args_cons_value (v : Json) (f : Fragment) : args (.value v :: f) = v :: args f := rfl

/-- A text between fragments brings no arguments. -/
theorem args_joined (sep : String) (fs : List Fragment) : args (joined sep fs) = fs.flatMap args := by
  fun_induction joined sep fs with
  | case1 => rfl
  | case2 f => rw [List.flatMap_singleton]
  | case3 f g rest ih => rw [args_append, args_cons_text, ih]; rfl

/-- **The values between commas are the arguments.** -/
theorem args_values (vs : List Json) : args (values vs) = vs := by
  rw [values, args_joined, List.flatMap_map]
  induction vs with
  | nil => rfl
  | cons v vs ih => rw [List.flatMap_cons, ih]; rfl

end Fragment

end SchemaSql
