import SchemaSql.Dialect.Basic
import SchemaSql.Text.CaseMap
import SchemaSql.Text.Doubled
import SchemaSql.Text.Split

/-!
# Identifiers

Names of tables and columns stand bare in the statements, so they have to be words of ASCII letters, digits
and underscores, and no reserved word of any dialect. `Identifier.check` says what is wrong with a name;
`quote` and `quoteReserved` write names that nobody checked.
-/

namespace SchemaSql.Identifier

/-- **The words that some dialect reserves**, in upper case. -/
def reservedWords : List String :=
  ["ADD", "ALL", "ALTER", "AND", "ANY", "AS", "ASC", "BETWEEN", "BY", "CASE", "CHECK", "COLUMN", "CONSTRAINT",
   "CREATE", "CROSS", "DEFAULT", "DELETE", "DESC", "DISTINCT", "DROP", "ELSE", "END", "EXISTS", "FALSE", "FOR",
   "FOREIGN", "FROM", "FULL", "GROUP", "HAVING", "IN", "INDEX", "INNER", "INSERT", "INTO", "IS", "JOIN", "KEY",
   "LEFT", "LIKE", "LIMIT", "NOT", "NULL", "OFFSET", "ON", "OR", "ORDER", "OUTER", "PRIMARY", "REFERENCES",
   "RIGHT", "SELECT", "SET", "TABLE", "THEN", "TO", "TRUE", "UNION", "UNIQUE", "UPDATE", "USER", "USING",
   "VALUES", "WHEN", "WHERE", "WITH"]

/-- A name is a reserved word in some mixture of cases. -/
def isReserved (name : String) : Bool :=
  reservedWords.contains (Text.uppercase name)

/-- A letter of ASCII or an underscore. -/
def isStart (c : Char) : Bool :=
  c.isAlpha || c = '_'

/-- A letter or digit of ASCII or an underscore. -/
def isPart (c : Char) : Bool :=
  c.isAlphanum || c = '_'

/-- A word that starts with no digit. -/
def isWord : List Char → Bool
  | [] => false
  | c :: rest => isStart c && rest.all isPart

/-- **Why a name cannot be used.** -/
inductive Fault where
  | empty
  | malformed (name : String)
  | reserved (name : String)
deriving DecidableEq

/-- The wording of a fault. -/
def Fault.message : Fault → String
  | empty => "Identifier cannot be empty"
  | malformed n => "Identifier '" ++ n ++
      "' is invalid. Must start with a letter or underscore and contain only letters, numbers, and underscores."
  | reserved n => "Identifier '" ++ n ++ "' is a reserved SQL keyword and cannot be used unquoted"

/-- **Checks a name** and returns what is wrong with it. -/
def check (name : String) : Except Fault Unit :=
  if name = "" then .error .empty
  else if !isWord name.toList then .error (.malformed name)
  else if isReserved name then .error (.reserved name)
  else .ok ()

/-- A name passes the check. -/
def Valid (name : String) : Prop :=
  isWord name.toList = true ∧ isReserved name = false

instance (name : String) : Decidable (Valid name) :=
  inferInstanceAs (Decidable (_ ∧ _))

/-- The check passes exactly the valid names. -/
theorem check_eq_ok_iff {name : String} : check name = .ok () ↔ Valid name := by
  unfold check Valid
  split
  · rename_i h; subst h; simp [isWord]
  · split
    · rename_i h; simp_all
    · split
      · rename_i h; simp_all
      · rename_i h1 h2; simp_all

theorem isPart_of_isStart {c : Char} (h : isStart c = true) : isPart c = true := by
  rw [isStart, Bool.or_eq_true] at h
  rw [isPart, Bool.or_eq_true, Char.isAlphanum, Bool.or_eq_true]
  exact h.imp_left .inl

/-- An identifier consists of letters, digits and underscores. -/
theorem Valid.all_isPart {s : String} (h : Valid s) : s.toList.all isPart = true := by
  have hword := h.1
  cases hcs : s.toList with
  | nil => rfl
  | cons c cs =>
    rw [hcs, isWord, Bool.and_eq_true] at hword
    rw [List.all_cons, isPart_of_isStart hword.1, hword.2]
    rfl

/-- **An identifier lacks every character** that is no letter, digit or underscore. -/
theorem Valid.lacks {s : String} (h : Valid s) {c : Char} (hc : isPart c = false) : Text.Lacks c s := by
  intro hmem
  have hpart := List.all_eq_true.1 h.all_isPart c hmem
  exact absurd (hc.symm.trans hpart) Bool.false_ne_true

/-- **A name between the quote characters of a dialect.** -/
def quote (d : Dialect) (name : String) : String :=
  String.ofList (Text.Doubled.encode d.quoteChar name.toList)

/-- A name, between quotes if it is a reserved word. -/
def quoteReserved (d : Dialect) (name : String) : String :=
  if isReserved name then quote d name else name

end SchemaSql.Identifier
