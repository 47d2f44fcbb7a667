import Mathlib.Logic.Basic
import SchemaSql.Predicate.Join
import SchemaSql.Proofs.Schema.Made
import SchemaSql.Statement.Build

/-!
# Occurrences in a join

The condition of a join compares a column of the table that is there with one of the table that joins it. Either column
belongs to the occurrence whose name stands before it (`ColumnRef.occurrences`), so the names of the two have to differ.
A table that is joined under its own name gets an alias where this is the name of the other one. A field that brings
an alias keeps it, also if it is the name of the other one; `FieldRef.Apart` leaves that out.

Aliases are taken as they are written. Databases that tell no small from capital letters see fewer of them.
-/

namespace SchemaSql

/-- **The occurrences that a column may belong to**: those whose name stands before it. -/
def ColumnRef.occurrences (c : ColumnRef) (sources : List TableRef) : List TableRef :=
  sources.filter fun t => t.qualifier = c.qualifier

namespace FieldRef

/-- The occurrence of a field's table. -/
def source (f : FieldRef) : TableRef :=
  ⟨f.table, if f.qualifier = f.table then none else some f.qualifier⟩

/-- **A field comes under the name of its table, or under another name than the first one.** -/
def Apart (left right : FieldRef) : Prop :=
  right.qualifier = right.table ∨ right.qualifier ≠ left.qualifier

theorem qualifier_source (f : FieldRef) : f.source.qualifier = f.qualifier := by
  rw [source, TableRef.qualifier]
  split
  · rename_i h
    exact h.symm
  · rfl

end FieldRef

/-- A field of a schema is in the occurrence from which statements on the schema select. -/
theorem Schema.source_bind (s : Schema) (f : Field) : (s.bind f).source = s.source := by
  rw [FieldRef.source, Schema.source, bind, isAliased]
  by_cases h : s.qualifier = s.table
  · simp only [h, bne_self_eq_false, Bool.false_eq_true, ↓reduceIte]
  · simp only [h, bne_iff_ne.2 h, ↓reduceIte]

/-- Of two occurrences under different names, a column belongs to that of its own name. -/
theorem ColumnRef.occurrences_pair (c : ColumnRef) {t u : TableRef} (h : u.qualifier ≠ t.qualifier) :
    (c.qualifier = t.qualifier → c.occurrences [t, u] = [t]) ∧ (c.qualifier = u.qualifier → c.occurrences [t, u] = [u]) := by
  constructor
  · intro hc
    simp only [occurrences, hc, List.filter_cons, decide_true, h, decide_false, List.filter_nil, Bool.false_eq_true,
      ↓reduceIte]
  · intro hc
    simp only [occurrences, hc, List.filter_cons, decide_true, h.symm, decide_false, List.filter_nil,
      Bool.false_eq_true, ↓reduceIte]

/-- Of two occurrences under one name, a column of that name may belong to either. -/
theorem ColumnRef.occurrences_same (c : ColumnRef) {t u : TableRef} (ht : t.qualifier = c.qualifier)
    (hu : u.qualifier = c.qualifier) : c.occurrences [t, u] = [t, u] := by
  simp only [occurrences, List.filter_cons, ht, hu, decide_true, List.filter_nil, ↓reduceIte]

namespace Join

/-- **The name of a joined table** is the alias that its field brings, or that of the table, with a suffix if it is
the name of the other one. -/
theorem qualifier_of (kind : JoinKind) (left right : FieldRef) :
    (of kind left right none).qualifier =
      if right.qualifier ≠ right.table then right.qualifier
      else if left.qualifier = right.table then right.table ++ selfSuffix
      else right.table := by
  rw [qualifier, of, TableRef.qualifier, aliasFor]
  split
  · rfl
  · split <;> rfl

/-- Without an alias a field stands under the name of its table. -/
theorem qualifier_eq_table_of_aliasFor {left right : FieldRef} {asked : Option String}
    (h : aliasFor left right asked = none) : right.qualifier = right.table := by
  unfold aliasFor at h
  split at h
  · cases h
  · by_cases howned : right.qualifier = right.table
    · exact howned
    · rw [if_pos howned] at h
      cases h

/-- The condition of a join compares the two fields, the second one under the name of the joined table. -/
theorem on_of (kind : JoinKind) (left right : FieldRef) (asked : Option String) :
    (of kind left right asked).on = [.sameColumns left.ref ⟨(of kind left right asked).qualifier, right.column⟩] := by
  rw [qualifier, of, TableRef.qualifier]
  cases h : aliasFor left right asked with
  | none => rw [Option.getD_none, Option.getD_none, qualifier_eq_table_of_aliasFor h]
  | some a => rfl

theorem append_selfSuffix_ne (table : String) : table ++ selfSuffix ≠ table := by
  intro h
  have hlength := congrArg String.length h
  have hsuffix : selfSuffix.length = 2 := rfl
  rw [String.length_append, hsuffix] at hlength
  omega

/-- **A joined table has another name than the first one** exactly if its field comes under the name of its table, or
under another name than the first one. -/
theorem qualifier_of_ne_iff (kind : JoinKind) (left right : FieldRef) :
    (of kind left right none).qualifier ≠ left.qualifier ↔ left.Apart right := by
  rw [qualifier_of, FieldRef.Apart]
  by_cases howned : right.qualifier = right.table
  · refine iff_of_true ?_ (.inl howned)
    rw [if_neg fun h => h howned]
    split
    · rename_i hsame
      exact hsame ▸ append_selfSuffix_ne right.table
    · rename_i hother
      exact fun h => hother h.symm
  · rw [if_pos howned, or_iff_right howned]

/-- The alias of a joined table is another one than the name of the first table if its name is. -/
theorem aliasName_of_ne_iff (kind : JoinKind) (left right : FieldRef) :
    (of kind left right none).source.aliasName ≠ some left.qualifier ↔ left.Apart right := by
  rw [← qualifier_of_ne_iff kind, not_iff_not]
  constructor
  · intro h
    rw [qualifier, TableRef.qualifier, h, Option.getD_some]
  · intro h
    have hnot : ¬ left.Apart right := fun ha => (qualifier_of_ne_iff kind left right).2 ha h
    obtain ⟨howned, hsame⟩ := not_or.1 hnot
    rw [of, aliasFor, if_pos howned, not_ne_iff.1 hsame]

/-- **A join compares two occurrences** exactly if the second field comes under the name of its table, or under another
name than the first one: then each side of its condition belongs to one of the two, and its alias is no name of the
first. -/
theorem occurrences_of_iff (kind : JoinKind) (left right : FieldRef) :
    let j := Join.of kind left right none
    let joined : ColumnRef := ⟨j.qualifier, right.column⟩
    j.source.table = right.table ∧ j.on = [.sameColumns left.ref joined] ∧
      (j.qualifier ≠ left.qualifier ↔ left.Apart right) ∧
      (j.source.aliasName ≠ some left.qualifier ↔ left.Apart right) ∧
      (left.ref.occurrences [left.source, j.source] = [left.source] ∧
        joined.occurrences [left.source, j.source] = [j.source] ↔ left.Apart right) := by
  intro j joined
  have hname : j.qualifier ≠ left.qualifier ↔ left.Apart right := qualifier_of_ne_iff kind left right
  refine ⟨rfl, on_of kind left right none, hname, aliasName_of_ne_iff kind left right, ?_⟩
  rw [← hname]
  constructor
  · rintro ⟨hone, -⟩ hsame
    -- under one name the first column may belong to either
    rw [left.ref.occurrences_same left.qualifier_source hsame] at hone
    exact absurd (List.cons.inj hone).2 (List.cons_ne_nil _ _)
  · intro hne
    have hsources : j.source.qualifier ≠ left.source.qualifier := left.qualifier_source ▸ hne
    exact ⟨(left.ref.occurrences_pair hsources).1 left.qualifier_source.symm, (joined.occurrences_pair hsources).2 rfl⟩

/-- Accounts, each with the one that manages it. -/
def accounts : Schema :=
  ⟨"accounts", "accounts",
    [{ name := "ID", column := "id", type := .signed .w64, primaryKey := true },
      { name := "ManagerID", column := "manager_id", type := .signed .w64 }]⟩

/-- **A table under an alias is joined to itself under this alias**, and either column of the condition may belong to
either occurrence. -/
theorem not_occurrences_of_boss :
    let boss := accounts.aliased "boss"
    let left := boss.bind { name := "ManagerID", column := "manager_id", type := .signed .w64 }
    let right := boss.bind { name := "ID", column := "id", type := .signed .w64, primaryKey := true }
    let j := of .inner left right none
    boss.Made ∧ boss.ref "ManagerID" = .ok left ∧ boss.ref "ID" = .ok right ∧
      j.clause.sql = "INNER JOIN accounts AS boss ON (boss.manager_id = boss.id)" ∧
      left.source = boss.source ∧ j.qualifier = left.qualifier ∧ j.source.aliasName = some left.qualifier ∧
      left.ref.occurrences [left.source, j.source] = [left.source, j.source] := by
  intro boss left right j
  have hnew : Schema.new accounts.table accounts.fields = .ok accounts := rfl
  exact ⟨.aliased (.new hnew) "boss", rfl, rfl, by decide +kernel, boss.source_bind _, rfl, rfl, rfl⟩

end Join

end SchemaSql
