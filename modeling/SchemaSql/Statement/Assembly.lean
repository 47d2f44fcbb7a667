import SchemaSql.Statement.Build

/-!
# Statements assembled of texts and arguments

Texts and arguments are gathered apart. Each part brings a text and a list of arguments; texts are written into
texts, and arguments are appended to arguments. Nothing here ties a question mark to the argument that it
stands for: that they are in one order is due to the order in which parts are gathered.
-/

namespace SchemaSql

/-- **What is gathered in a loop over parts**: their texts, and their arguments in a list of their own. -/
structure Parts where
  texts : List String
  args : List Json

namespace Parts

/-- Nothing gathered yet. -/
def empty : Parts := ⟨[], []⟩

/-- One more text, and its arguments behind those that are there. -/
def push (ps : Parts) (text : String) (args : List Json) : Parts :=
  ⟨ps.texts ++ [text], ps.args ++ args⟩

/-- One more clause, if it has a text. -/
def pushClause (ps : Parts) (clause : Statement) : Parts :=
  if clause.sql = "" then ps else ps.push clause.sql clause.args

/-- The texts in parentheses with a connective between them, or nothing at all. -/
def group (c : Connective) (ps : Parts) : Statement :=
  if ps.texts.isEmpty then ⟨"", []⟩ else ⟨"(" ++ c.sql.intercalate ps.texts ++ ")", ps.args⟩

end Parts

/-- Question marks with commas between them. -/
def placeholders (n : Nat) : String :=
  ", ".intercalate (List.replicate n "?")

/-- The negation of a clause, in parentheses unless it has them. -/
def Statement.negated (hasParentheses : Bool) (clause : Statement) : Statement :=
  if clause.sql = "" then clause
  else if hasParentheses then ⟨"NOT " ++ clause.sql, clause.args⟩
  else ⟨"NOT (" ++ clause.sql ++ ")", clause.args⟩

/-- The clause that a table has a row on which some predicates hold, with their group. -/
def Statement.existing (source : TableRef) (on : Statement) : Statement :=
  ⟨"EXISTS (SELECT 1 FROM " ++ source.text ++ " WHERE " ++ on.sql ++ ")", on.args⟩

namespace Predicate

mutual
/-- **A predicate assembled**: its text, and its arguments. -/
def assemble : Predicate → Statement
  | compare c op v => ⟨c.text ++ " " ++ op.sql ++ " ?", [v]⟩
  | oneOf c vs => if vs.isEmpty then ⟨"1=0", []⟩ else ⟨c.text ++ " IN (" ++ placeholders vs.length ++ ")", vs⟩
  | nullCheck c isNull => ⟨c.text ++ " " ++ (if isNull then "IS NULL" else "IS NOT NULL"), []⟩
  | sameColumns l r => ⟨l.text ++ " = " ++ r.text, []⟩
  | group c members => (gather (fun _ => false) members .empty).group c
  | not inner => inner.assemble.negated inner.isGroup
  | existsIn source on => .existing source ((gather isEmpty on .empty).group .and)
/-- Gathers the clauses of predicates. Some are skipped beforehand, others because their text turns out empty. -/
def gather (skipped : Predicate → Bool) : List Predicate → Parts → Parts
  | [], gathered => gathered
  | p :: ps, gathered =>
    if skipped p then gather skipped ps gathered else gather skipped ps (gathered.pushClause p.assemble)
end

end Predicate

namespace Join

/-- The group of the predicates on which rows are matched. -/
def onGroup (j : Join) : Statement :=
  (Predicate.all (j.on.map some)).assemble

/-- **The clause of a join assembled.** -/
def assemble (j : Join) : Statement :=
  ⟨j.kind.sql ++ " " ++ j.source.text ++ " ON " ++ j.onGroup.sql, j.onGroup.args⟩

end Join

namespace Statement

/-- A statement with one more join behind it. -/
def pushJoin (t : Statement) (j : Join) : Statement :=
  ⟨t.sql ++ " " ++ j.assemble.sql, t.args ++ j.assemble.args⟩

/-- A statement with the clause of an optional predicate behind it, if it has a text. -/
def pushWhere (t : Statement) (filter : Option Predicate) : Statement :=
  match filter with
  | none => t
  | some p =>
    let clause := p.assemble
    if clause.sql = "" then t else ⟨t.sql ++ " WHERE " ++ clause.sql, t.args ++ clause.args⟩

end Statement

namespace Assembly

/-- The clause of a predicate that is there and has a text. -/
def required (verb : Verb) (filter : Option Predicate) : Except Error Statement :=
  match filter with
  | none => .error (.missingWhere verb)
  | some p =>
    let clause := p.assemble
    if clause.sql = "" then .error (.missingWhere verb) else .ok clause

/-- **All rows of a table** for which a predicate holds. -/
def select (s : Option Schema) (filter : Option Predicate) : Except Error Statement := do
  let s ← Build.nonEmpty s
  .ok (Statement.pushWhere ⟨"SELECT " ++ Build.projection s.refs ++ " FROM " ++ s.source.text, []⟩ filter)

/-- **The rows of joined tables** for which a predicate holds. -/
def selectJoin (base : Schema) (columns : List FieldRef) (joins : List Join) (filter : Option Predicate) :
    Except Error Statement :=
  if columns.isEmpty then .error .emptySchema
  else
    let rows : Statement := ⟨"SELECT " ++ Build.projection columns ++ " FROM " ++ base.source.text, []⟩
    .ok ((joins.foldl Statement.pushJoin rows).pushWhere filter)

/-- What is written for a column, and its value, if it has one. -/
def pushValue (write : String → String) (values : ValueSource) (gathered : Parts) (f : Field) : Parts :=
  match values f.name with
  | some v => gathered.push (write f.column) [v]
  | none => gathered

/-- What is written for the columns that have values, and the values. -/
def assigned (write : String → String) (s : Schema) (values : ValueSource) : Parts :=
  s.fields.foldl (pushValue write values) .empty

/-- **A new row** with the values that are there. -/
def insert (s : Schema) (values : ValueSource) : Except Error Statement :=
  let columns := assigned id s values
  if columns.texts.isEmpty then .error (.noFields .insert)
  else
    .ok ⟨"INSERT INTO " ++ s.table ++ " (" ++ ", ".intercalate columns.texts ++ ") VALUES (" ++
      placeholders columns.texts.length ++ ")", columns.args⟩

/-- **New values** in the rows for which a predicate holds. -/
def update (s : Schema) (values : ValueSource) (filter : Option Predicate) : Except Error Statement := do
  Build.unaliased .update s
  let clause ← required .update filter
  let sets := assigned (· ++ " = ?") s values
  if sets.texts.isEmpty then .error (.noFields .update)
  else
    .ok ⟨"UPDATE " ++ s.table ++ " SET " ++ ", ".intercalate sets.texts ++ " WHERE " ++ clause.sql,
      sets.args ++ clause.args⟩

/-- **No more rows** for which a predicate holds. -/
def delete (s : Schema) (filter : Option Predicate) : Except Error Statement := do
  Build.unaliased .delete s
  let clause ← required .delete filter
  .ok ⟨"DELETE FROM " ++ s.table ++ " WHERE " ++ clause.sql, clause.args⟩

/-- **The number of rows** for which a predicate holds. -/
def count (s : Schema) (filter : Option Predicate) : Except Error Statement :=
  .ok (Statement.pushWhere ⟨"SELECT COUNT(*) AS count FROM " ++ s.source.text, []⟩ filter)

/-- **One page of the rows** for which a predicate holds. -/
def selectPage (s : Option Schema) (filter : Option Predicate) (p : Page) : Except Error Statement := do
  let rows ← select s filter
  let s ← Build.nonEmpty s
  .ok ⟨rows.sql ++ Build.orderClause s p ++ " LIMIT ? OFFSET ?", rows.args ++ [.word p.limit] ++ [.word p.offset]⟩

end Assembly

end SchemaSql
