import SchemaSql.Proofs.Statement.Request

/-!
# Values in their own places

`Request.literal` is the text of a requested statement with every value written directly where it belongs:
behind its comparison, in its list, in its row, behind its column, and in the window of a page. It is built of
texts alone, without fragments, placeholders or arguments. A statement that is written in pieces, with its values in
theirs, has that text (`Request.inlined_build`), and with a question mark for every value it has the text that is sent
(`Request.sql_build`).
-/

namespace SchemaSql

namespace Predicate

mutual
/-- **The text of a predicate with its values in their own places.** -/
def literal (write : Json → String) : Predicate → String
  | compare c op v => c.text ++ " " ++ op.sql ++ " " ++ write v
  | oneOf _ [] => "1=0"
  | oneOf c (v :: vs) => c.text ++ " IN (" ++ ", ".intercalate ((v :: vs).map write) ++ ")"
  | nullCheck c isNull => c.text ++ (if isNull then " IS NULL" else " IS NOT NULL")
  | sameColumns l r => l.text ++ " = " ++ r.text
  | group c members => if allEmpty members then "" else "(" ++ c.sql.intercalate (literals write members) ++ ")"
  | not inner =>
    if inner.isEmpty then ""
    else if inner.isGroup then "NOT " ++ inner.literal write
    else "NOT (" ++ inner.literal write ++ ")"
  | existsIn source on =>
    "EXISTS (SELECT 1 FROM " ++ source.text ++ " WHERE " ++
      (if allEmpty on then "" else "(" ++ " AND ".intercalate (literals write on) ++ ")") ++ ")"
/-- The texts of the predicates that have one. -/
def literals (write : Json → String) : List Predicate → List String
  | [] => []
  | p :: ps => if p.isEmpty then literals write ps else p.literal write :: literals write ps
end

/-- The clause of an optional predicate with its values in their own places. -/
def whereLiteral (write : Json → String) : Option Predicate → String
  | none => ""
  | some p => if p.isEmpty then "" else " WHERE " ++ p.literal write

end Predicate

/-- The clause of a join with the values of its predicates in their own places. -/
def Join.literal (write : Json → String) (j : Join) : String :=
  j.kind.sql ++ " " ++ j.source.text ++ " ON " ++
    if Predicate.allEmpty j.on then "" else "(" ++ " AND ".intercalate (Predicate.literals write j.on) ++ ")"

namespace Request

open Build Predicate

/-- The rows of one schema with the values of the predicate in their own places. -/
def selectLiteral (write : Json → String) (s : Schema) (filter : Option Predicate) : String :=
  "SELECT " ++ projection s.refs ++ " FROM " ++ s.source.text ++ whereLiteral write filter

/-- **The text of a requested statement with its values in their own places.** There is no statement without
a schema, or without a predicate where one is required. -/
def literal (write : Json → String) : Request → String
  | select none _ => ""
  | select (some s) filter => selectLiteral write s filter
  | selectJoin base columns joins filter =>
    "SELECT " ++ projection columns ++ " FROM " ++ base.source.text ++
      String.join (joins.map fun j => " " ++ j.literal write) ++ whereLiteral write filter
  | insert s values =>
    "INSERT INTO " ++ s.table ++ " (" ++ ", ".intercalate ((assignments s values).map (·.1)) ++ ") VALUES (" ++
      ", ".intercalate ((assignments s values).map fun c => write c.2) ++ ")"
  | update s values filter =>
    "UPDATE " ++ s.table ++ " SET " ++
      ", ".intercalate ((assignments s values).map fun c => c.1 ++ " = " ++ write c.2) ++ whereLiteral write filter
  | delete s filter => "DELETE FROM " ++ s.table ++ whereLiteral write filter
  | count s filter => "SELECT COUNT(*) AS count FROM " ++ s.source.text ++ whereLiteral write filter
  | selectPage none _ _ => ""
  | selectPage (some s) filter page =>
    selectLiteral write s filter ++ orderClause s page ++ " LIMIT " ++ write (.word page.limit) ++ " OFFSET " ++
      write (.word page.offset)

end Request

/-! ## Fragments and direct texts -/

open Fragment

variable (write : Json → String)

namespace Predicate

theorem inlined_grouped (c : Connective) (fs : List Fragment) :
    (grouped c fs).inlined write =
      if (written fs).isEmpty then "" else "(" ++ c.sql.intercalate ((written fs).map (inlined write)) ++ ")" := by
  by_cases h : written fs = []
  · rw [grouped_eq_nil h, h]
    rfl
  · rw [grouped_eq h, inlined_append, inlined_cons_text, inlined_joined, inlined_cons_text, inlined_nil,
      String.append_empty, if_neg (mt List.isEmpty_iff.1 h)]

mutual
/-- **A predicate written with its values in their pieces** is the predicate with its values in their own
places. -/
theorem inlined_render : ∀ p : Predicate, p.render.inlined write = p.literal write
  | compare c op v => by
    rw [render, inlined_cons_text, inlined_cons_value, inlined_nil, String.append_empty]
    rfl
  | oneOf _ [] => by
    rw [render, inlined_cons_text, inlined_nil, String.append_empty]
    rfl
  | oneOf c (v :: vs) => by
    rw [render, inlined_append, inlined_cons_text, inlined_values, inlined_cons_text, inlined_nil,
      String.append_empty]
    rfl
  | nullCheck c isNull => by
    rw [render, inlined_cons_text, inlined_nil, String.append_empty]
    rfl
  | sameColumns l r => by
    rw [render, inlined_cons_text, inlined_nil, String.append_empty]
    rfl
  | group c members => by
    rw [render, inlined_grouped, isEmpty_written_renderAll, inlined_written members]
    rfl
  | not inner => by
    have hliteral : (not inner).literal write =
        if inner.isEmpty then ""
        else if inner.isGroup then "NOT " ++ inner.literal write
        else "NOT (" ++ inner.literal write ++ ")" := rfl
    rw [render, negated, isEmpty_render, hliteral]
    split
    · rfl
    · split
      · rw [inlined_cons_text, inlined_render inner]
      · rw [inlined_append, inlined_cons_text, inlined_render inner, inlined_cons_text, inlined_nil,
          String.append_empty]
  | existsIn source on => by
    rw [render, inlined_append, inlined_cons_text, inlined_grouped, isEmpty_written_renderAll, inlined_written on,
      inlined_cons_text, inlined_nil, String.append_empty]
    rfl
/-- The members with a text, written with their values in their pieces. -/
theorem inlined_written : ∀ ps : List Predicate, (written (renderAll ps)).map (inlined write) = literals write ps
  | [] => rfl
  | p :: ps => by
    have hrest := inlined_written ps
    rw [written] at hrest
    rw [renderAll, literals, written, List.filter_cons, isEmpty_render]
    cases p.isEmpty with
    | true => exact hrest
    | false =>
      simp only [Bool.not_false, if_true, Bool.false_eq_true, if_false, List.map_cons, inlined_render p, hrest]
end

theorem inlined_whereClause (filter : Option Predicate) :
    (whereClause filter).inlined write = whereLiteral write filter := by
  cases filter with
  | none => rfl
  | some p =>
    simp only [whereClause, whereLiteral, isEmpty_render]
    split
    · rfl
    · rw [inlined_cons_text, inlined_render]

/-- The clause of a predicate that is required. -/
theorem whereLiteral_some {p : Predicate} (hp : p.isEmpty = false) :
    whereLiteral write (some p) = " WHERE " ++ p.literal write := by
  rw [whereLiteral, hp, if_neg Bool.false_ne_true]

end Predicate

theorem Join.inlined_clause (j : Join) : j.clause.inlined write = j.literal write := by
  rw [clause, inlined_cons_text, condition, Predicate.inlined_grouped, Predicate.isEmpty_written_renderAll,
    Predicate.inlined_written, Join.literal]
  rfl

theorem Join.inlined_clauses (js : List Join) :
    inlined write (js.flatMap fun j => .text " " :: j.clause) =
      String.join (js.map fun j => " " ++ j.literal write) := by
  induction js with
  | nil => rfl
  | cons j js ih =>
    rw [List.flatMap_cons, inlined_append, inlined_cons_text, j.inlined_clause, ih, List.map_cons, String.join_cons]

namespace Request

open Build Predicate

/-- **A built statement with its values in their pieces** is the requested one with its values in their own
places. -/
theorem inlined_build {r : Request} {f : Fragment} (h : r.build = .ok f) : f.inlined write = r.literal write := by
  cases r with
  | select os filter =>
    obtain ⟨s, rfl, rfl⟩ := select_ok h
    rw [inlined_cons_text, inlined_whereClause]
    rfl
  | selectJoin base columns joins filter =>
    obtain rfl := selectJoin_ok h
    rw [inlined_append, inlined_cons_text, Join.inlined_clauses, inlined_whereClause]
    rfl
  | insert s values =>
    obtain rfl := insert_ok h
    rw [inlined_append, inlined_cons_text, inlined_values, inlined_cons_text, inlined_nil, String.append_empty,
      List.map_map]
    rfl
  | update s values filter =>
    obtain ⟨p, rfl, hp, rfl⟩ := update_ok h
    have hset : inlined write ∘ (fun c : String × Json => [.text (c.1 ++ " = "), .value c.2]) =
        fun c => c.1 ++ " = " ++ write c.2 := by
      funext c
      rw [Function.comp_apply, inlined_cons_text, inlined_cons_value, inlined_nil, String.append_empty]
    rw [inlined_append, inlined_cons_text, inlined_joined, List.map_map, hset, inlined_cons_text, inlined_render,
      ← whereLiteral_some write hp]
    rfl
  | delete s filter =>
    obtain ⟨p, rfl, hp, rfl⟩ := delete_ok h
    rw [inlined_cons_text, inlined_render, String.append_assoc, ← whereLiteral_some write hp]
    rfl
  | count s filter =>
    cases h
    rw [inlined_cons_text, inlined_whereClause]
    rfl
  | selectPage os filter page =>
    obtain ⟨s, rfl, rfl⟩ := selectPage_ok h
    have hwindow : inlined write [.text (orderClause s page ++ " LIMIT "), .value (.word page.limit),
        .text " OFFSET ", .value (.word page.offset)] =
        orderClause s page ++ " LIMIT " ++
          (write (.word page.limit) ++ (" OFFSET " ++ write (.word page.offset))) := by
      rw [inlined_cons_text, inlined_cons_value, inlined_cons_text, inlined_cons_value, inlined_nil,
        String.append_empty]
    rw [inlined_append, inlined_cons_text, inlined_whereClause, hwindow]
    simp only [← String.append_assoc]
    rfl

/-- The text of a built statement is the requested one with a question mark in the place of every value. -/
theorem sql_build {r : Request} {f : Fragment} (h : r.build = .ok f) : f.sql = r.literal fun _ => "?" := by
  rw [← inlined_build _ h, inlined_placeholder]

end Request

end SchemaSql
