import SchemaSql.Proofs.Statement.Inlining

/-!
# Texts of pieces

The text of a fragment is put together of those of its pieces. Whether a predicate is empty is decided on the tree, and
whether a clause is written by its text. The two agree on every predicate (`Predicate.isEmpty_iff_sql`), so that something
stands behind the `WHERE` of every update and every deletion.
-/

namespace SchemaSql

namespace Fragment

theorem sql_nil : sql [] = "" := rfl

theorem sql_cons_text (t : String) (f : Fragment) : sql (.text t :: f) = t ++ sql f := by
  simp only [sql, List.map_cons, String.join_cons, Piece.sql]

theorem sql_cons_value (v : Json) (f : Fragment) : sql (.value v :: f) = "?" ++ sql f := by
  simp only [sql, List.map_cons, String.join_cons, Piece.sql]

/-- Fragments with a text between them have their texts with it between them. -/
theorem sql_joined (sep : String) (fs : List Fragment) : (joined sep fs).sql = sep.intercalate (fs.map sql) := by
  have hsql : inlined (fun _ => "?") = sql := funext inlined_placeholder
  rw [← inlined_placeholder, inlined_joined, hsql]

/-- A fragment that begins with a text has one. -/
theorem sql_cons_text_ne_empty {t : String} (h : t ≠ "") (f : Fragment) : sql (.text t :: f) ≠ "" := by
  simp only [sql, List.map_cons, String.join_cons, Piece.sql, ne_eq, String.append_eq_empty_iff, h, false_and,
    not_false_eq_true]

end Fragment

theorem ColumnRef.text_ne_empty (c : ColumnRef) : c.text ≠ "" := by
  simp only [text, ne_eq, String.append_eq_empty_iff, String.reduceEq, and_false, false_and, not_false_eq_true]

namespace Predicate

open Fragment

/-- **A predicate that is not empty has a text**, with which its first piece begins. -/
theorem sql_render_ne_empty : ∀ {p : Predicate}, p.isEmpty = false → p.render.sql ≠ ""
  | .compare c _ _, _ => sql_cons_text_ne_empty (by simp [c.text_ne_empty]) _
  | .oneOf _ [], _ => sql_cons_text_ne_empty (by decide) _
  | .oneOf c (_ :: _), _ => sql_cons_text_ne_empty (by simp [c.text_ne_empty]) _
  | .nullCheck c _, _ => sql_cons_text_ne_empty (by simp [c.text_ne_empty]) _
  | .sameColumns l _, _ => sql_cons_text_ne_empty (by simp [l.text_ne_empty]) _
  | .group c members, h => by
    have hmembers : written (renderAll members) ≠ [] := by
      rw [← List.isEmpty_eq_false_iff, isEmpty_written_renderAll]
      exact h
    rw [render, grouped_eq hmembers]
    exact sql_cons_text_ne_empty (by decide) _
  | .not inner, h => by
    rw [render, negated, isEmpty_render, show inner.isEmpty = false from h, if_neg Bool.false_ne_true]
    split <;> exact sql_cons_text_ne_empty (by decide) _
  | .existsIn _ _, _ => sql_cons_text_ne_empty (by simp) _

theorem render_of_isEmpty {p : Predicate} (h : p.isEmpty = true) : p.render = [] :=
  List.isEmpty_iff.1 (isEmpty_render p ▸ h)

/-- **A predicate is empty exactly if its text is.** -/
theorem isEmpty_iff_sql {p : Predicate} : p.isEmpty = true ↔ p.render.sql = "" := by
  constructor
  · intro h
    rw [render_of_isEmpty h]
    rfl
  · intro h
    by_contra hp
    exact sql_render_ne_empty (Bool.eq_false_iff.2 hp) h

end Predicate

end SchemaSql
