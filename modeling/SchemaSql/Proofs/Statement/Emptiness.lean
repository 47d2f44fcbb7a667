import SchemaSql.Proofs.Statement.Assembly

/-!
# Predicates without a text

Whether a predicate is empty is decided on the tree, and whether a clause is written by the text that was assembled. The
two agree on every predicate (`Predicate.isEmpty_iff_assemble_sql`). So a group is assembled of the members that have a
text, in one pair of parentheses, and to nothing if there are none (`Predicate.assemble_ofMembers`); and an empty
predicate does to a request what no predicate does (`Request.assemble_withFilter`): an update or a deletion is refused for
either.
-/

namespace SchemaSql

open Fragment

namespace Predicate

variable {p : Predicate}

theorem args_of_isEmpty (h : p.isEmpty = true) : p.assemble.args = [] := by
  rw [assemble_args, render_of_isEmpty h]
  rfl

/-! ## Groups -/

/-- The members of a group that are there and have a text. -/
def present (members : List (Option Predicate)) : List Predicate :=
  (members.filterMap id).filter fun p => p.assemble.sql ≠ ""

/-- The text and the arguments of predicates between parentheses, with a connective between them. -/
def groupStatement (c : Connective) (ps : List Predicate) : Statement :=
  ⟨"(" ++ c.sql.intercalate (ps.map fun p => p.assemble.sql) ++ ")", ps.flatMap fun p => p.assemble.args⟩

theorem present_eq (members : List (Option Predicate)) :
    present members = (members.filterMap id).filter fun p => !p.isEmpty := by
  refine List.filter_congr fun p _ => ?_
  simp only [ne_eq, ← isEmpty_iff_assemble_sql, Bool.not_eq_true, Bool.decide_eq_false]

/-- A group of predicates that all have a text is written of all of them. -/
theorem written_renderAll {ps : List Predicate} (h : ∀ p ∈ ps, p.isEmpty = false) :
    written (renderAll ps) = ps.map render := by
  induction ps with
  | nil => rfl
  | cons p ps ih =>
    obtain ⟨hp, hps⟩ := List.forall_mem_cons.1 h
    have hrest := ih hps
    rw [written] at hrest ⊢
    rw [renderAll, List.filter_cons, isEmpty_render, hp, hrest]
    rfl

/-- **A group of predicates that all have a text** is these in one pair of parentheses. -/
theorem assemble_group (c : Connective) {ps : List Predicate} (h : ∀ p ∈ ps, p.isEmpty = false) (hne : ps ≠ []) :
    (group c ps).assemble = groupStatement c ps := by
  have htexts : (ps.map render).map sql = ps.map fun p => p.assemble.sql := by
    rw [List.map_map]
    exact List.map_congr_left fun p _ => p.assemble_sql.symm
  have hargs : (ps.map render).flatMap args = ps.flatMap fun p => p.assemble.args := by
    rw [List.flatMap_map]
    exact congrArg List.flatten (List.map_congr_left fun p _ => p.assemble_args.symm)
  have hsome : (ps.map fun p => p.assemble.sql).isEmpty = false := by
    rwa [List.isEmpty_map, List.isEmpty_eq_false_iff]
  rw [assemble, gather_eq ps (fun _ h => absurd h Bool.false_ne_true), written_renderAll h, Parts.pushAll, htexts, hargs,
    Parts.group]
  simp only [Parts.empty, List.nil_append, hsome, Bool.false_eq_true, ↓reduceIte, groupStatement]

/-- **What a group is assembled to**: nothing without present members, else these in one pair of parentheses. -/
theorem assemble_ofMembers (c : Connective) (members : List (Option Predicate)) :
    (ofMembers c members).assemble =
      if present members = [] then ⟨"", []⟩ else groupStatement c (present members) := by
  have hnonempty : ∀ p ∈ present members, p.isEmpty = false := by
    intro p hp
    rw [present_eq] at hp
    exact Bool.not_eq_true' _ ▸ (List.mem_filter.1 hp).2
  rw [ofMembers, ← present_eq]
  split
  · rename_i hnone
    rw [hnone]
    rfl
  · rename_i hsome
    exact assemble_group c hnonempty hsome

/-- Missing members and those without a text may as well be left out before. -/
theorem ofMembers_present (c : Connective) (members : List (Option Predicate)) :
    ofMembers c ((present members).map some) = ofMembers c members := by
  have hid : ((present members).map some).filterMap id = present members := by
    rw [List.filterMap_map]
    exact List.filterMap_some
  rw [ofMembers, ofMembers, hid, present_eq, List.filter_filter]
  simp only [Bool.and_self]

end Predicate

/-! ## Clauses -/

theorem Statement.pushWhere_of_isEmpty {p : Predicate} (h : p.isEmpty = true) (t : Statement) :
    t.pushWhere (some p) = t.pushWhere none := by
  simp only [pushWhere, Predicate.isEmpty_iff_assemble_sql.1 h, ↓reduceIte]

theorem Assembly.required_of_isEmpty {p : Predicate} (h : p.isEmpty = true) (verb : Verb) :
    required verb (some p) = required verb none := by
  simp only [required, Predicate.isEmpty_iff_assemble_sql.1 h, ↓reduceIte]

namespace Request

variable {p : Predicate}

/-- A request with another predicate, or without one, if it takes one at all. -/
def withFilter (filter : Option Predicate) : Request → Request
  | select s _ => select s filter
  | selectJoin base columns joins _ => selectJoin base columns joins filter
  | insert s values => insert s values
  | update s values _ => update s values filter
  | delete s _ => delete s filter
  | count s _ => count s filter
  | selectPage s _ page => selectPage s filter page

/-- **An empty predicate does to a request what none does.** -/
theorem assemble_withFilter (h : p.isEmpty = true) (r : Request) :
    (r.withFilter (some p)).assemble = (r.withFilter none).assemble := by
  have hwhere := Statement.pushWhere_of_isEmpty h
  cases r with
  | insert s values => rfl
  | update s values filter => simp only [withFilter, assemble, Assembly.update, Assembly.required_of_isEmpty h]
  | delete s filter => simp only [withFilter, assemble, Assembly.delete, Assembly.required_of_isEmpty h]
  | select s filter => simp only [withFilter, assemble, Assembly.select, hwhere]
  | selectJoin base columns joins filter => simp only [withFilter, assemble, Assembly.selectJoin, hwhere]
  | count s filter => simp only [withFilter, assemble, Assembly.count, hwhere]
  | selectPage s filter page => simp only [withFilter, assemble, Assembly.selectPage, Assembly.select, hwhere]

/-- Updates and deletions in a table under its own name are refused for an empty predicate. -/
theorem refused_of_isEmpty (h : p.isEmpty = true) {s : Schema} (hs : s.isAliased = false) (values : ValueSource) :
    (update s values (some p)).assemble = .error (.missingWhere .update) ∧
      (delete s (some p)).assemble = .error (.missingWhere .delete) := by
  have htarget (verb : Verb) : Build.unaliased verb s = .ok () := Build.unaliased_eq_ok_iff.2 hs
  simp only [assemble, Assembly.update, Assembly.delete, htarget, Assembly.required_of_isEmpty h]
  exact ⟨rfl, rfl⟩

end Request

namespace Predicate

/-- **There is one notion of emptiness.** A predicate is empty exactly if its text is, and then it has no arguments. A
group builds to what it builds to without the members that are missing or have no text: to nothing if none are left, else
to these with the connective between them, in one pair of parentheses. A request with an empty predicate is built as one
without a predicate; updates and deletions of a table under its own name are refused. -/
theorem emptiness_agrees :
    (∀ p : Predicate, (p.isEmpty = true ↔ p.assemble.sql = "") ∧
      (p.isEmpty = true → p.assemble.args = [])) ∧
    (∀ (c : Connective) (members : List (Option Predicate)),
      (ofMembers c members).assemble = (ofMembers c ((present members).map some)).assemble ∧
      (ofMembers c members).assemble =
        if present members = [] then ⟨"", []⟩ else groupStatement c (present members)) ∧
    ∀ p : Predicate, p.isEmpty = true →
      (∀ r : Request, (r.withFilter (some p)).assemble = (r.withFilter none).assemble) ∧
      ∀ (s : Schema) (values : ValueSource), s.isAliased = false →
        (Request.update s values (some p)).assemble = .error (.missingWhere .update) ∧
          (Request.delete s (some p)).assemble = .error (.missingWhere .delete) := by
  refine ⟨fun p => ⟨isEmpty_iff_assemble_sql, args_of_isEmpty⟩,
    fun c members => ⟨?_, assemble_ofMembers c members⟩, ?_⟩
  · rw [ofMembers_present]
  · exact fun p hp => ⟨Request.assemble_withFilter hp, fun s values hs => Request.refused_of_isEmpty hp hs values⟩

/-- A negated group of nothing but empty groups is empty at every depth, and a group leaves it out; an update for it is
refused. -/
theorem emptiness_agrees_not_any :
    let p : Predicate := .not (any [none, some (all [none]), some (.not (all []))])
    let q : Predicate := .nullCheck ⟨"tasks", "done"⟩ true
    let s : Schema := ⟨"tasks", "tasks", [.plain "Done" .bool]⟩
    (p.isEmpty = true ∧ p.assemble.sql = "" ∧ p.assemble.args = []) ∧
      (any [some p, some q, none]).assemble = groupStatement .or [q] ∧ s.isAliased = false ∧
      (Request.select (some s) (some p)).assemble = (Request.select (some s) none).assemble ∧
      (Request.delete s (some p)).assemble = .error (.missingWhere .delete) := by
  intro p q s
  obtain ⟨htext, hgroup, hrequest⟩ := emptiness_agrees
  have hp : p.isEmpty = true := rfl
  have hpresent : present [some p, some q, none] = [q] := by
    rw [present_eq]
    rfl
  have hany := (hgroup .or [some p, some q, none]).2
  rw [hpresent, if_neg (List.cons_ne_nil _ _)] at hany
  obtain ⟨hbuild, hrefused⟩ := hrequest p hp
  exact ⟨⟨hp, (htext p).1.1 hp, (htext p).2 hp⟩, hany, rfl, hbuild (.select (some s) none),
    (hrefused s (fun _ => none) rfl).2⟩

end Predicate

end SchemaSql
