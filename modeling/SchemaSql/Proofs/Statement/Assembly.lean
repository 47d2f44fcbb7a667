import SchemaSql.Proofs.Statement.Text
import SchemaSql.Statement.Assembly

/-!
# Assembled statements and their pieces

A statement is assembled with its text and its arguments apart. The same parts written as pieces keep each value in its
place. The two agree on every predicate, every join and every request, refusals included (`Predicate.assemble_eq`,
`Join.assemble_eq`, `Request.assemble_eq`): arguments are gathered in the order in which their question marks are written,
across the groups of a predicate, the conditions of joins and matches, the values of a row and the window of a page. What
is proved of pieces is so of the statements that are sent.
-/

namespace SchemaSql

open Fragment

namespace Fragment

/-- Fragments one behind the other bring their texts and their arguments in this order. -/
theorem statement_append (f g : Fragment) : (f ++ g).statement = ⟨f.sql ++ g.sql, f.args ++ g.args⟩ := by
  rw [statement, sql_append, args_append]

theorem statement_cons_text (t : String) (f : Fragment) : statement (.text t :: f) = ⟨t ++ f.sql, f.args⟩ := by
  rw [statement, sql_cons_text, args_cons_text]

theorem statement_text (t : String) : statement [.text t] = ⟨t, []⟩ := by
  rw [statement_cons_text]
  exact congrArg (Statement.mk · []) String.append_empty

theorem args_nil : args [] = [] := rfl

/-- As many question marks as values. -/
theorem sql_values (vs : List Json) : (values vs).sql = placeholders vs.length := by
  have hvalue : sql ∘ (fun v : Json => [Piece.value v]) = fun _ => "?" := by
    funext v
    rw [Function.comp_apply, sql_cons_value, sql_nil]
    rfl
  rw [values, sql_joined, List.map_map, hvalue, placeholders, List.map_const']

end Fragment

/-! ## Predicates -/

namespace Parts

/-- The texts and the arguments of fragments, behind those that are there. -/
def pushAll (ps : Parts) (fs : List Fragment) : Parts :=
  ⟨ps.texts ++ fs.map Fragment.sql, ps.args ++ fs.flatMap Fragment.args⟩

theorem pushAll_nil (ps : Parts) : ps.pushAll [] = ps := by
  rw [pushAll, List.map_nil, List.append_nil, List.flatMap_nil, List.append_nil]

theorem pushAll_cons (ps : Parts) (f : Fragment) (fs : List Fragment) :
    ps.pushAll (f :: fs) = (ps.push f.sql f.args).pushAll fs := by
  simp only [pushAll, push, List.map_cons, List.flatMap_cons, List.append_assoc, List.singleton_append]

/-- **A group of gathered parts** is the group of the fragments that have a text. -/
theorem group_pushAll (c : Connective) (fs : List Fragment) :
    (empty.pushAll (Predicate.written fs)).group c = (Predicate.grouped c fs).statement := by
  by_cases h : Predicate.written fs = []
  · rw [Predicate.grouped_eq_nil h, h]
    rfl
  · have hsome : (empty.pushAll (Predicate.written fs)).texts.isEmpty = false := by
      rwa [pushAll, empty, List.nil_append, List.isEmpty_map, List.isEmpty_eq_false_iff]
    have hargs : Fragment.args (.text "(" :: joined c.sql (Predicate.written fs) ++ [.text ")"]) =
        (Predicate.written fs).flatMap Fragment.args := by
      rw [args_append, args_cons_text, args_joined]
      exact List.append_nil _
    rw [Predicate.grouped_eq h, group, hsome, if_neg Bool.false_ne_true, statement, hargs, sql_append, sql_cons_text,
      sql_joined]
    rfl

end Parts

namespace Predicate

/-- No text is assembled exactly for an empty predicate. -/
theorem statement_sql_eq_empty_iff (p : Predicate) : p.render.statement.sql = "" ↔ p.isEmpty = true :=
  isEmpty_iff_sql.symm

/-- A clause is negated as the pieces of its predicate are. -/
theorem negated_statement (hasParentheses : Bool) (p : Predicate) :
    p.render.statement.negated hasParentheses = (negated hasParentheses p.render).statement := by
  rw [Statement.negated, negated, isEmpty_render]
  simp only [statement_sql_eq_empty_iff]
  split
  · rw [render_of_isEmpty ‹_›]
  · split
    · rw [statement_cons_text]
      rfl
    · rw [statement_append, sql_cons_text]
      exact congrArg _ (List.append_nil _).symm

mutual
/-- **A predicate is assembled to the statement of its pieces.** -/
theorem assemble_eq : ∀ p : Predicate, p.assemble = p.render.statement
  | compare c op v => by
    have hmark : " ?" = " " ++ "?" := rfl
    rw [render, statement_cons_text, sql_cons_value, sql_nil, args_cons_value, args_nil, assemble, String.append_empty,
      hmark, ← String.append_assoc]
  | oneOf c [] => by
    rw [render, statement_cons_text, sql_nil, args_nil, assemble, String.append_empty]
    rfl
  | oneOf c (v :: vs) => by
    rw [render, statement_append, sql_cons_text, args_cons_text, sql_values, args_values]
    exact congrArg _ (List.append_nil _).symm
  | nullCheck c isNull => by
    rw [render, statement_cons_text, sql_nil, args_nil, assemble, String.append_assoc, String.append_empty]
    cases isNull <;> rfl
  | sameColumns l r => by
    rw [render, statement_cons_text, sql_nil, args_nil, assemble, String.append_empty]
  | group c members => by
    rw [assemble, gather_eq members (fun _ h => absurd h Bool.false_ne_true), Parts.group_pushAll, render]
  | not inner => by
    rw [assemble, assemble_eq inner, render, negated_statement]
  | existsIn source on => by
    have hclose : sql [.text ")"] = ")" := rfl
    have hnone : args [.text ")"] = [] := rfl
    rw [assemble, gather_eq on (fun _ h => h), Parts.group_pushAll, render, statement_append, sql_cons_text,
      args_cons_text, hclose, hnone, List.append_nil]
    rfl
/-- **A loop over predicates gathers the texts and the arguments of those that have a text**, if it skips no others. -/
theorem gather_eq : ∀ (ps : List Predicate) {skipped : Predicate → Bool} {gathered : Parts},
    (∀ p, skipped p = true → p.isEmpty = true) →
      gather skipped ps gathered = gathered.pushAll (written (renderAll ps))
  | [], _, gathered, _ => gathered.pushAll_nil.symm
  | p :: ps, skipped, gathered, h => by
    have hrest : ∀ gathered, gather skipped ps gathered = gathered.pushAll (written (renderAll ps)) :=
      fun _ => gather_eq ps h
    rw [written] at hrest
    rw [gather, renderAll, written, List.filter_cons, isEmpty_render, assemble_eq p]
    simp only [Parts.pushClause, statement_sql_eq_empty_iff, hrest]
    cases hempty : p.isEmpty with
    | true => simp only [ite_self, ↓reduceIte, Bool.not_true, Bool.false_eq_true]
    | false =>
      have hkept : skipped p = false := Bool.eq_false_iff.2 fun hp => Bool.false_ne_true (hempty.symm.trans (h p hp))
      simp only [hkept, Bool.false_eq_true, ↓reduceIte, Bool.not_false, Parts.pushAll_cons, statement]
end

theorem assemble_sql (p : Predicate) : p.assemble.sql = p.render.sql :=
  congrArg Statement.sql p.assemble_eq

theorem assemble_args (p : Predicate) : p.assemble.args = p.render.args :=
  congrArg Statement.args p.assemble_eq

/-- **A predicate is empty exactly if no text is assembled.** -/
theorem isEmpty_iff_assemble_sql {p : Predicate} : p.isEmpty = true ↔ p.assemble.sql = "" := by
  rw [assemble_sql, isEmpty_iff_sql]

/-- Predicates without a text may be left out of a group before it is written. -/
theorem written_renderAll_filter (ps : List Predicate) :
    written (renderAll (ps.filter fun p => !p.isEmpty)) = written (renderAll ps) := by
  induction ps with
  | nil => rfl
  | cons p ps ih =>
    rw [written, written] at ih
    rw [List.filter_cons, renderAll, written, written, List.filter_cons, isEmpty_render]
    cases hp : p.isEmpty with
    | true => exact ih
    | false => simp only [Bool.not_false, ↓reduceIte, renderAll, List.filter_cons, isEmpty_render, hp, ih]

end Predicate

/-! ## Joins and clauses -/

theorem Join.onGroup_eq (j : Join) : j.onGroup = j.condition.statement := by
  rw [onGroup, condition, Predicate.all, Predicate.ofMembers, List.filterMap_map, Function.id_comp, List.filterMap_some,
    Predicate.assemble_eq, Predicate.render, ← Parts.group_pushAll, ← Parts.group_pushAll,
    Predicate.written_renderAll_filter]

/-- **The clause of a join is assembled to the statement of its pieces.** -/
theorem Join.assemble_eq (j : Join) : j.assemble = j.clause.statement := by
  rw [assemble, onGroup_eq, clause, statement_cons_text]
  rfl

/-- A match is asked for on the group on which rows are joined. -/
theorem Join.assemble_hasMatch (j : Join) : j.hasMatch.assemble = .existing j.source j.onGroup := by
  rw [hasMatch, Predicate.assemble, Predicate.gather_eq j.on (fun _ h => h), Parts.group_pushAll, onGroup_eq, condition]

namespace Statement

/-- Joins are pushed behind a statement one after the other, as their pieces are written behind its pieces. -/
theorem foldl_pushJoin (f : Fragment) (joins : List Join) :
    joins.foldl pushJoin f.statement = (f ++ joins.flatMap fun j => .text " " :: j.clause).statement := by
  induction joins generalizing f with
  | nil => rw [List.flatMap_nil, List.append_nil, List.foldl_nil]
  | cons j joins ih =>
    have hpush : pushJoin f.statement j = (f ++ .text " " :: j.clause).statement := by
      rw [pushJoin, j.assemble_eq, statement_append, sql_cons_text, args_cons_text, ← String.append_assoc]
      rfl
    rw [List.foldl_cons, hpush, ih, List.flatMap_cons, List.append_assoc]

theorem pushWhere_statement (f : Fragment) (filter : Option Predicate) :
    pushWhere f.statement filter = (f ++ Predicate.whereClause filter).statement := by
  cases filter with
  | none => rw [pushWhere, Predicate.whereClause, List.append_nil]
  | some p =>
    simp only [pushWhere, Predicate.whereClause, Predicate.assemble_eq, Predicate.statement_sql_eq_empty_iff,
      Predicate.isEmpty_render]
    split
    · rw [List.append_nil]
    · rw [statement_append, sql_cons_text, args_cons_text, ← String.append_assoc]
      rfl

theorem pushWhere_text (t : String) (filter : Option Predicate) :
    pushWhere ⟨t, []⟩ filter = statement (.text t :: Predicate.whereClause filter) := by
  rw [← statement_text, pushWhere_statement]
  rfl

end Statement

/-! ## Statements -/

namespace Assembly

variable (s : Schema) (values : ValueSource) (filter : Option Predicate)

theorem required_eq (verb : Verb) : required verb filter = (Build.required verb filter).map statement := by
  cases filter with
  | none => rfl
  | some p =>
    simp only [required, Build.required, Predicate.assemble_eq, Predicate.statement_sql_eq_empty_iff,
      Predicate.isEmpty_render]
    split <;> rfl

/-- **Columns and values are gathered apart** in one loop over the fields. The induction is on the fields, behind what
is gathered before them. -/
theorem assigned_eq (write : String → String) :
    assigned write s values =
      ⟨(Build.assignments s values).map fun c => write c.1, (Build.assignments s values).map (·.2)⟩ := by
  have hloop (fs : List Field) (gathered : Parts) :
      fs.foldl (pushValue write values) gathered =
        ⟨gathered.texts ++ (fs.filterMap fun f => (values f.name).map fun v => (f.column, v)).map fun c => write c.1,
          gathered.args ++ (fs.filterMap fun f => (values f.name).map fun v => (f.column, v)).map (·.2)⟩ := by
    induction fs generalizing gathered with
    | nil => simp only [List.foldl_nil, List.filterMap_nil, List.map_nil, List.append_nil]
    | cons f fs ih =>
      rw [List.foldl_cons, ih, List.filterMap_cons, pushValue]
      cases values f.name with
      | none => rfl
      | some v => simp only [Parts.push, Option.map_some, List.map_cons, List.append_assoc, List.singleton_append]
  exact hloop s.fields .empty

/-- The new values of a row are written behind their columns. -/
theorem sql_sets (cs : List (String × Json)) :
    sql (joined ", " (cs.map fun c => [.text (c.1 ++ " = "), .value c.2])) =
      ", ".intercalate (cs.map fun c => c.1 ++ " = ?") := by
  rw [sql_joined, List.map_map]
  refine congrArg _ (List.map_congr_left fun c _ => ?_)
  rw [Function.comp_apply, sql_cons_text, sql_cons_value, sql_nil, String.append_empty, String.append_assoc]
  rfl

theorem args_sets (cs : List (String × Json)) :
    args (joined ", " (cs.map fun c => [.text (c.1 ++ " = "), .value c.2])) = cs.map (·.2) := by
  rw [args_joined, List.flatMap_map]
  exact List.flatMap_pure_eq_map _ cs

theorem select_eq (s : Option Schema) : select s filter = (Build.select s filter).map statement := by
  cases hs : Build.nonEmpty s with
  | error e =>
    rw [select, Build.select, hs]
    rfl
  | ok t =>
    rw [select, Build.select, hs]
    exact congrArg Except.ok (Statement.pushWhere_text _ filter)

theorem selectJoin_eq (columns : List FieldRef) (joins : List Join) :
    selectJoin s columns joins filter = (Build.selectJoin s columns joins filter).map statement := by
  unfold selectJoin Build.selectJoin
  split
  · rfl
  · refine congrArg Except.ok ?_
    rw [← statement_text, Statement.foldl_pushJoin, Statement.pushWhere_statement]
    rfl

theorem insert_eq : insert s values = (Build.insert s values).map statement := by
  simp only [insert, Build.insert, Build.someAssignments, assigned_eq, List.isEmpty_map]
  split
  · rfl
  · refine congrArg Except.ok ?_
    rw [statement_append, sql_cons_text, args_cons_text, sql_values, args_values, List.length_map, List.length_map,
      sql_cons_text, sql_nil]
    simp only [id_eq, String.append_assoc, String.append_empty]
    exact congrArg _ (List.append_nil _).symm

theorem update_eq : update s values filter = (Build.update s values filter).map statement := by
  rw [update, Build.update, required_eq]
  cases Build.unaliased .update s with
  | error e => rfl
  | ok _ =>
    cases Build.required .update filter with
    | error e => rfl
    | ok clause =>
      simp only [assigned_eq, List.isEmpty_map, Build.someAssignments, Except.map, bind, Except.bind]
      split
      · rfl
      · refine congrArg Except.ok ?_
        rw [statement_append, sql_cons_text, sql_cons_text, args_cons_text, args_cons_text, ← String.append_assoc,
          sql_sets, args_sets]
        rfl

theorem delete_eq : delete s filter = (Build.delete s filter).map statement := by
  rw [delete, Build.delete, required_eq]
  cases Build.unaliased .delete s with
  | error e => rfl
  | ok _ =>
    cases Build.required .delete filter with
    | error e => rfl
    | ok clause => exact congrArg Except.ok (statement_cons_text _ clause).symm

theorem count_eq : count s filter = (Build.count s filter).map statement :=
  congrArg Except.ok (Statement.pushWhere_text _ filter)

theorem selectPage_eq (s : Option Schema) (p : Page) :
    selectPage s filter p = (Build.selectPage s filter p).map statement := by
  rw [selectPage, Build.selectPage, select_eq]
  cases Build.select s filter with
  | error e => rfl
  | ok rows =>
    cases Build.nonEmpty s with
    | error e => rfl
    | ok s =>
      refine congrArg Except.ok ?_
      have hwindow : " LIMIT ? OFFSET ?" = " LIMIT " ++ ("?" ++ (" OFFSET " ++ ("?" ++ ""))) := rfl
      rw [statement_append, sql_cons_text, sql_cons_value, sql_cons_text, sql_cons_value, sql_nil, args_cons_text,
        args_cons_value, args_cons_text, args_cons_value, args_nil, List.append_assoc, hwindow, String.append_assoc,
        String.append_assoc]
      rfl

end Assembly

namespace Request

/-- **A statement is assembled to that of its pieces**, and refused where there are none. -/
theorem assemble_eq (r : Request) : r.assemble = r.build.map statement := by
  cases r with
  | select s filter => exact Assembly.select_eq filter s
  | selectJoin base columns joins filter => exact Assembly.selectJoin_eq base filter columns joins
  | insert s values => exact Assembly.insert_eq s values
  | update s values filter => exact Assembly.update_eq s values filter
  | delete s filter => exact Assembly.delete_eq s filter
  | count s filter => exact Assembly.count_eq s filter
  | selectPage s filter page => exact Assembly.selectPage_eq filter s page

theorem exists_build {r : Request} {t : Statement} (h : r.assemble = .ok t) :
    ∃ f, r.build = .ok f ∧ t = f.statement := by
  rw [assemble_eq] at h
  cases hr : r.build with
  | error e => rw [hr] at h; cases h
  | ok f => rw [hr] at h; cases h; exact ⟨f, rfl, rfl⟩

/-- The text of a statement is the requested one with a question mark in the place of every value. -/
theorem sql_assemble {r : Request} {t : Statement} (h : r.assemble = .ok t) : t.sql = r.literal fun _ => "?" := by
  obtain ⟨f, hf, rfl⟩ := exists_build h
  exact sql_build hf

theorem assemble_of_build {r : Request} {f : Fragment} (h : r.build = .ok f) : r.assemble = .ok f.statement := by
  rw [assemble_eq, h]
  rfl

end Request

/-! ## Texts -/

namespace Assembly

variable {s : Schema} {values : ValueSource} {filter : Option Predicate} {t : Statement}

/-- The clause of a predicate that a statement requires. -/
theorem required_ok {verb : Verb} (h : required verb filter = .ok t) :
    ∃ p, filter = some p ∧ p.assemble.sql ≠ "" ∧ t = p.assemble := by
  unfold required at h
  split at h
  · cases h
  · rename_i p
    simp only at h
    split at h
    · cases h
    · rename_i hp
      exact ⟨p, rfl, hp, (Except.ok.inj h).symm⟩

theorem select_sql (h : select (some s) filter = .ok t) :
    t.sql = "SELECT " ++ Build.projection s.refs ++ " FROM " ++ s.source.text ++
      Predicate.whereLiteral (fun _ => "?") filter :=
  Request.sql_assemble (r := .select (some s) filter) h

theorem insert_sql (h : insert s values = .ok t) :
    t.sql = "INSERT INTO " ++ s.table ++ " (" ++ ", ".intercalate ((Build.assignments s values).map (·.1)) ++
      ") VALUES (" ++ ", ".intercalate ((Build.assignments s values).map fun _ => "?") ++ ")" :=
  Request.sql_assemble (r := .insert s values) h

/-- An update is for a predicate with a text. -/
theorem update_sql (h : update s values filter = .ok t) :
    ∃ p, filter = some p ∧ p.assemble.sql ≠ "" ∧
      t.sql = "UPDATE " ++ s.table ++ " SET " ++
        ", ".intercalate ((Build.assignments s values).map fun c => c.1 ++ " = ?") ++ " WHERE " ++ p.assemble.sql := by
  obtain ⟨_, -, h⟩ := bind_eq_ok_iff.1 h
  obtain ⟨clause, hclause, h⟩ := bind_eq_ok_iff.1 h
  obtain ⟨p, hp, htext, rfl⟩ := required_ok hclause
  simp only [assigned_eq] at h
  split at h
  · cases h
  · exact ⟨p, hp, htext, congrArg Statement.sql (Except.ok.inj h).symm⟩

/-- So is a deletion. -/
theorem delete_sql (h : delete s filter = .ok t) :
    ∃ p, filter = some p ∧ p.assemble.sql ≠ "" ∧
      t.sql = "DELETE FROM " ++ s.table ++ " WHERE " ++ p.assemble.sql := by
  obtain ⟨_, -, h⟩ := bind_eq_ok_iff.1 h
  obtain ⟨clause, hclause, h⟩ := bind_eq_ok_iff.1 h
  obtain ⟨p, hp, htext, rfl⟩ := required_ok hclause
  exact ⟨p, hp, htext, congrArg Statement.sql (Except.ok.inj h).symm⟩

end Assembly

end SchemaSql
