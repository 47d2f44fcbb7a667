import SchemaSql.Proofs.Statement.Assembly

/-!
# Statements bind their values

The question marks of a statement are as many as its arguments, and the arguments, put into the places of the question
marks one after the other, give the text of the request with every value where it belongs (`Request.Proper.binds`). So no
value is bound to the place of another, although texts and arguments are gathered apart.
-/

namespace SchemaSql

namespace Request

open Fragment

/-- **Every value is bound to its own place.** A statement has as many question marks as arguments, and the
arguments in the places of the question marks, one after the other, give the statement with its values where
they belong, however values are written. -/
theorem Proper.binds {r : Request} (h : r.Proper) {t : Statement} (ht : r.assemble = .ok t) :
    t.sql.toList.count '?' = t.args.length ∧
      ∀ write : Json → String, substitute t.sql.toList (t.args.map write) = (r.literal write).toList := by
  obtain ⟨f, hf, rfl⟩ := exists_build ht
  have hplain := h.plain hf
  constructor
  · exact count_placeholder hplain
  · intro write
    rw [← inlined_build write hf]
    exact substitute_sql hplain write

/-- New values in the rows that have a match on a condition of its own: the values of the row, of the predicate
and of the match are bound to their own places. -/
theorem Proper.binds_update_hasMatch :
    let total : FieldRef := ⟨"orders", "orders", "total", "Total", .text⟩
    let other : Join := (Join.of .inner total (total.aliased "o") none).filter (total.compare .eq (.string "c"))
    let r : Request := .update ⟨"orders", "orders", [.plain "Total" .text]⟩ (fun _ => some (.string "a"))
      (some (.all [some (total.oneOf [.string "b", .null]), some other.hasMatch]))
    ∃ t, r.Proper ∧ r.assemble = .ok t ∧ t.args = [.string "a", .string "b", .null, .string "c"] ∧
      t.sql.toList.count '?' = t.args.length ∧
        ∀ write : Json → String, substitute t.sql.toList (t.args.map write) = (r.literal write).toList := by
  intro total other r
  have hnew : Schema.new "orders" [.plain "Total" .text] = .ok ⟨"orders", "orders", [.plain "Total" .text]⟩ := rfl
  have href : Schema.ref ⟨"orders", "orders", [.plain "Total" .text]⟩ "Total" = .ok total := rfl
  have horders := Schema.Proper.of_new hnew
  have htotal := horders.of_ref href
  have hother : other.Proper :=
    .filter (.of .inner htotal ⟨htotal.made.aliased "o", by decide⟩ fun _ h => nomatch h) (.compare htotal .eq _)
  have hproper : r.Proper := by
    constructor
    · exact horders
    · intro p hp
      cases hp
      apply Predicate.Proper.all
      intro q hq
      simp only [List.mem_cons, Option.some.injEq, List.not_mem_nil, or_false] at hq
      rcases hq with rfl | rfl
      · exact .oneOf htotal _
      · exact .hasMatch hother
  have hassembled : r.assemble = .ok _ := assemble_of_build rfl
  exact ⟨_, hproper, hassembled, rfl, hproper.binds hassembled⟩

end Request

end SchemaSql
