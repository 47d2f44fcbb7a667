import SchemaSql.Predicate.Basic

/-!
# Joins

A join adds an occurrence of a table to a statement, with the predicates on which its rows are matched.
The first of them equates two columns. A table that is joined to itself occurs under an alias of its own.
The same join is also a predicate: that the table has a matching row.
-/

namespace SchemaSql

/-- **What becomes of rows without a match.** -/
inductive JoinKind where
  | inner
  | left
deriving DecidableEq

def JoinKind.sql : JoinKind → String
  | inner => "INNER JOIN"
  | left => "LEFT JOIN"

/-- **A join of a table.** -/
structure Join where
  kind : JoinKind
  source : TableRef
  on : List Predicate

namespace Join

/-- What an alias of a table joined to itself adds to its name. -/
def selfSuffix : String := "_2"

/-- The alias of a joined table: the one asked for, the one that the field already has, or one of its own
if the table would be joined to an occurrence of the same name. -/
def aliasFor (left right : FieldRef) (asked : Option String) : Option String :=
  match asked with
  | some a => some a
  | none =>
    if right.qualifier ≠ right.table then some right.qualifier
    else if left.qualifier = right.table then some (right.table ++ selfSuffix)
    else none

/-- **The join of the right field's table on the equality of two fields.** -/
def of (kind : JoinKind) (left right : FieldRef) (asked : Option String) : Join :=
  let given := aliasFor left right asked
  let source : TableRef := ⟨right.table, given⟩
  ⟨kind, source, [.sameColumns left.ref ⟨given.getD right.qualifier, right.column⟩]⟩

/-- The name that stands before columns of the joined table. -/
def qualifier (j : Join) : String :=
  j.source.qualifier

/-- **A join with the predicates of another one** of the same occurrence. -/
def and (j k : Join) : Except Error Join :=
  if k.source.table ≠ j.source.table ∨ k.qualifier ≠ j.qualifier then
    .error (.joinTargetMismatch j.qualifier k.qualifier)
  else .ok { j with on := j.on ++ k.on }

/-- A join with one more predicate, if it has a text. -/
def filter (j : Join) (p : Predicate) : Join :=
  if p.isEmpty then j else { j with on := j.on ++ [p] }

/-- The predicates of a join as one group. -/
def condition (j : Join) : Fragment :=
  Predicate.grouped .and (Predicate.renderAll j.on)

/-- **The clause of a join.** -/
def clause (j : Join) : Fragment :=
  .text (j.kind.sql ++ " " ++ j.source.text ++ " ON ") :: j.condition

/-- **The predicate that the table has a matching row.** -/
def hasMatch (j : Join) : Predicate :=
  .existsIn j.source j.on

end Join

end SchemaSql
