import SchemaSql.Proofs.Condition.Reader
import SchemaSql.Proofs.Statement.Assembly

/-!
# Reading predicates back

The statement of a predicate, read as a condition, comes to what the predicate itself comes to: for all rows
around it, whatever the tables contain and whatever the comparisons of columns come to. This holds of every
predicate that the library makes of proper references (`Predicate.Proper.read_statement`).

The tokens of a sound predicate are read as its condition (`reads_render`). The induction is on the predicate;
a group needs it for the members that have a text, which are the ones that have a condition.
-/

namespace SchemaSql

/-! ## Words -/

namespace Token

theorem lexFrom_part {c : Char} (h : Identifier.isPart c = true) (word cs : List Char) :
    lexFrom word (c :: cs) = lexFrom (c :: word) cs := by
  rw [lexFrom_cons, if_pos h]
  rintro -
  refine ⟨?_, ?_, ?_⟩ <;> rintro rfl <;> exact absurd h (by decide)

/-- A word is taken up to its end. -/
theorem lexFrom_word {w : List Char} (h : w.all Identifier.isPart = true) (word rest : List Char) :
    lexFrom word (w ++ rest) = lexFrom (w.reverse ++ word) rest := by
  induction w generalizing word with
  | nil => rfl
  | cons c w ih =>
    rw [List.all_cons, Bool.and_eq_true] at h
    rw [List.cons_append, lexFrom_part h.1, ih h.2, List.reverse_cons, List.append_assoc, List.singleton_append]

/-- An identifier is a name. -/
theorem ofWord_of_valid {s : String} (h : Identifier.Valid s) : ofWord s.toList = name s := by
  rw [ofWord, String.ofList_toList, if_neg (Bool.eq_false_iff.1 h.2), if_pos h.1]

/-- **An identifier is read as a name** at the end of a text and in front of what joins with nothing before
it. -/
theorem lex_name {s : String} (h : Identifier.Valid s) {rest : List Char} (hr : rest = [] ∨ opens rest = true) :
    lex (s.toList ++ rest) = name s :: lex rest := by
  have hafter : ∀ ts, afterWord s.toList.reverse ts = name s :: ts := by
    intro ts
    cases hcs : s.toList.reverse with
    | nil =>
      have hword := h.1
      rw [List.reverse_eq_nil_iff.1 hcs] at hword
      cases hword
    | cons c cs => rw [afterWord, ← hcs, List.reverse_reverse, ofWord_of_valid h]
  rw [lex, lexFrom_word h.all_isPart, List.append_nil]
  rcases hr with rfl | hr
  · rw [lexFrom, hafter]
    rfl
  · rw [lexFrom_of_opens hr, hafter]

end Token

open Token

/-- A column is read as two names with a point between them. -/
theorem ColumnRef.Valid.lex_text {c : ColumnRef} (h : c.Valid) {rest : List Char}
    (hr : rest = [] ∨ opens rest = true) :
    lex (c.text.toList ++ rest) = name c.qualifier :: point :: name c.column :: lex rest := by
  have hpoint : ∀ cs, lex ('.' :: cs) = point :: lex cs := fun _ => rfl
  have htext : c.text.toList ++ rest = c.qualifier.toList ++ '.' :: (c.column.toList ++ rest) := by
    simp only [ColumnRef.text, String.toList_append, List.append_assoc]
    rfl
  rw [htext, lex_name h.1 (.inr rfl), hpoint, lex_name h.2 hr]

/-- An occurrence of a table is read as such. -/
theorem TableRef.Valid.lex_text {t : TableRef} (h : t.Valid) {rest : List Char} (hr : opens rest = true) :
    lex (t.text.toList ++ rest) = Condition.sourceTokens t ++ lex rest := by
  obtain ⟨table, aliasName⟩ := t
  cases aliasName with
  | none => exact lex_name h.1 (.inr hr)
  | some a =>
    have has : lex (" AS ".toList ++ (a.toList ++ rest)) = [keyword .AS] ++ lex (a.toList ++ rest) :=
      lex_append_of_closes rfl _
    simp only [TableRef.text, String.toList_append, List.append_assoc]
    rw [lex_name h.1 (.inr rfl), has, lex_name (h.2 a rfl) (.inr hr)]
    rfl

namespace Fragment

theorem tokens_cons_text (s : String) (f : Fragment) : tokens (.text s :: f) = lex s.toList ++ tokens f := rfl

theorem tokens_cons_value (v : Json) (f : Fragment) : tokens (.value v :: f) = value v :: tokens f := rfl

end Fragment

namespace Predicate

open Fragment Condition

/-! ## Tests -/

theorem reads_compare {c : ColumnRef} (h : c.Valid) (op : Comparison) (v : Json) :
    Reads (compare c op v).render.tokens (test (.compare c op v)) := by
  have hop : lex (" ".toList ++ (op.sql.toList ++ " ".toList)) = [.op op] := by
    cases op <;> rfl
  have htokens : (compare c op v).render.tokens = [name c.qualifier, point, name c.column, .op op, value v] := by
    rw [render, tokens_cons_text, tokens_cons_value, String.toList_append, String.toList_append,
      String.toList_append, List.append_assoc, List.append_assoc, h.lex_text (.inr rfl), hop]
    rfl
  rw [htokens]
  apply reads_of_readTest
  intro rest
  cases op <;> rfl

theorem readValues_values (v : Json) (vs : List Json) (rest : List Token) :
    readValues ((values (v :: vs)).tokens ++ closing :: rest) = some (v :: vs, rest) := by
  induction vs generalizing v with
  | nil => rfl
  | cons w vs ih =>
    have htokens : (values (v :: w :: vs)).tokens = value v :: comma :: (values (w :: vs)).tokens := rfl
    rw [htokens, List.cons_append, List.cons_append, readValues, ih]
    rfl

theorem reads_oneOf {c : ColumnRef} (h : c.Valid) (v : Json) (vs : List Json) :
    Reads (oneOf c (v :: vs)).render.tokens (test (.oneOf c (v :: vs))) := by
  have hin : lex " IN (".toList = [keyword .IN, opening] := rfl
  have hclosing : tokens [.text ")"] = [closing] := rfl
  have htokens : (oneOf c (v :: vs)).render.tokens =
      name c.qualifier ::
        (point :: name c.column :: keyword .IN :: opening :: (values (v :: vs)).tokens ++ [closing]) := by
    rw [render, tokens_append, tokens_cons_text, String.toList_append, h.lex_text (.inr rfl), hin, hclosing]
    rfl
  rw [htokens]
  apply reads_of_readTest
  intro rest
  simp only [List.cons_append, List.append_assoc, List.nil_append, readTest, readColumnTest, readValues_values,
    Option.map_some]

theorem reads_nullCheck {c : ColumnRef} (h : c.Valid) (isNull : Bool) :
    Reads (nullCheck c isNull).render.tokens (test (.nullCheck c isNull)) := by
  have htokens : (nullCheck c isNull).render.tokens =
      name c.qualifier :: point :: name c.column :: lex (if isNull then " IS NULL" else " IS NOT NULL").toList := by
    rw [render, tokens_cons_text, String.toList_append, h.lex_text (by cases isNull <;> exact .inr rfl)]
    exact List.append_nil _
  rw [htokens]
  apply reads_of_readTest
  intro rest
  cases isNull <;> rfl

theorem reads_sameColumns {l r : ColumnRef} (hl : l.Valid) (hr : r.Valid) :
    Reads (sameColumns l r).render.tokens (test (.sameColumns l r)) := by
  have heq : ∀ cs, lex (" = ".toList ++ cs) = op .eq :: lex cs := fun cs => lex_append_of_closes rfl cs
  have hright : lex r.text.toList = [name r.qualifier, point, name r.column] := by
    rw [← List.append_nil r.text.toList, hr.lex_text (.inl rfl)]
    rfl
  have htokens : (sameColumns l r).render.tokens =
      [name l.qualifier, point, name l.column, op .eq, name r.qualifier, point, name r.column] := by
    rw [render, tokens_cons_text, String.toList_append, String.toList_append, List.append_assoc,
      hl.lex_text (.inr rfl), heq, hright]
    rfl
  rw [htokens]
  exact reads_of_readTest fun rest => rfl

/-! ## Groups, negations and matches -/

/-- The tokens of fragments with a connective between them. -/
theorem tokens_joined (c : Connective) (fs : List Fragment) :
    tokens (joined c.sql fs) = joinedTokens c (fs.map tokens) := by
  have hsep : lex c.sql.toList = [keyword (keywordOf c)] := by
    cases c <;> rfl
  fun_induction joined c.sql fs with
  | case1 => rfl
  | case2 f => rfl
  | case3 f g rest ih => rw [tokens_append, tokens_cons_text, hsep, ih]; rfl

/-- **A group is read as its members joined**, if the members with a text are read as theirs. -/
theorem reads_grouped {c : Connective} {fs : List Fragment} {cs : List Condition}
    (h : List.Forall₂ Reads ((written fs).map tokens) cs) {d : Condition} (hd : c.conditionOf? cs = some d) :
    Reads (grouped c fs).tokens d := by
  have hne : written fs ≠ [] := by
    intro hnil
    rw [hnil] at h
    cases h
    cases hd
  have htokens : (grouped c fs).tokens = opening :: joinedTokens c ((written fs).map tokens) ++ [closing] := by
    rw [grouped_eq hne, tokens_append, tokens_cons_text, tokens_joined]
    rfl
  rw [htokens]
  exact reads_group h hd

/-- **A negation is read as such**: in front of what stands in parentheses, and of anything else put into
them. -/
theorem reads_negated {f : Fragment} (hf : f.isEmpty = false) {c : Condition} (h : Reads f.tokens c)
    (hasParentheses : Bool) : Reads (negated hasParentheses f).tokens (.not c) := by
  rw [negated, hf, if_neg Bool.false_ne_true]
  cases hasParentheses with
  | true => exact h.negated
  | false =>
    have htokens : tokens (.text "NOT (" :: f ++ [.text ")"]) =
        keyword .NOT :: (opening :: f.tokens ++ [closing]) := by
      rw [tokens_append]
      rfl
    rw [if_neg Bool.false_ne_true, htokens]
    exact h.parenthesised.negated

/-- The question whether a table has a row is read as such. -/
theorem reads_existsIn {source : TableRef} (hs : source.Valid) {f : Fragment} {c : Condition} (h : Reads f.tokens c) :
    Reads (tokens (.text ("EXISTS (SELECT 1 FROM " ++ source.text ++ " WHERE ") :: f ++ [.text ")"]))
      (.existsIn source c) := by
  have hfront : ∀ cs, lex ("EXISTS (SELECT 1 FROM ".toList ++ cs) =
      [keyword .EXISTS, opening, keyword .SELECT, number 1, keyword .FROM] ++ lex cs := fun cs =>
    lex_append_of_closes rfl cs
  have hwhere : lex " WHERE ".toList = [keyword .WHERE] := rfl
  have htokens : tokens (.text ("EXISTS (SELECT 1 FROM " ++ source.text ++ " WHERE ") :: f ++ [.text ")"]) =
      [keyword .EXISTS, opening, keyword .SELECT, number 1, keyword .FROM] ++
        (sourceTokens source ++ keyword .WHERE :: (f.tokens ++ [closing])) := by
    rw [tokens_append, tokens_cons_text]
    simp only [String.toList_append, List.append_assoc]
    rw [hfront, hs.lex_text rfl, hwhere]
    simp only [List.append_assoc, List.singleton_append]
    rfl
  rw [htokens]
  exact h.inSource source

mutual
/-- **The text of a sound predicate is read as its condition.** -/
theorem reads_render : ∀ {p : Predicate}, p.Sound → ∀ {c : Condition}, p.condition? = some c → Reads p.render.tokens c
  | compare _ o v, h, _, rfl => reads_compare h o v
  | oneOf _ [], _, _, rfl => reads_never
  | oneOf col (v :: vs), h, _, rfl => reads_oneOf h v vs
  | nullCheck col isNull, h, _, rfl => reads_nullCheck h isNull
  | sameColumns l r, h, _, rfl => reads_sameColumns h.1 h.2
  | group _ members, h, _, hc => reads_grouped (reads_written h) hc
  | not inner, h, _, hc => by
    obtain ⟨d, hd, rfl⟩ := Option.map_eq_some_iff.1 hc
    have hsome : inner.render.isEmpty = false := by
      rw [isEmpty_render, ← Bool.not_eq_true, ← condition?_eq_none_iff (p := inner) h, hd]
      exact nofun
    exact reads_negated hsome (reads_render (p := inner) h hd) _
  | existsIn source on, h, _, hc => by
    obtain ⟨d, hd, rfl⟩ := Option.map_eq_some_iff.1 hc
    exact reads_existsIn h.1 (reads_grouped (reads_written h.2.1) hd)
/-- The predicates with a text are read as the conditions that there are. -/
theorem reads_written : ∀ {ps : List Predicate}, AllSound ps →
    List.Forall₂ Reads ((written (renderAll ps)).map tokens) (conditions ps)
  | [], _ => .nil
  | p :: ps, h => by
    have hrest := reads_written h.2
    have hempty := condition?_eq_none_iff h.1
    rw [renderAll, conditions, written, List.filter_cons, isEmpty_render]
    cases hp : p.condition? with
    | none =>
      rw [hempty.1 hp]
      exact hrest
    | some c =>
      have hsome : p.isEmpty = false := by
        rw [← Bool.not_eq_true, ← hempty, hp]
        exact nofun
      rw [hsome]
      exact .cons (reads_render h.1 hp) hrest
end

/-- **A predicate is read back as what it is.** Its statement is one condition, from its first token to its
last, and for all rows around it, in every world, the condition comes to what the predicate comes to. -/
theorem Proper.read_statement {p : Predicate} (h : p.Proper) (hp : p.isEmpty = false) :
    ∃ c, Condition.read? p.assemble = some c ∧
      ∀ {ρ : Type} (w : World ρ) (scope : Scope ρ), p.truth? w scope = some (c.truth w scope) := by
  have hne : p.condition? ≠ none := by
    rw [ne_eq, condition?_eq_none_iff h.sound, hp]
    exact Bool.false_ne_true
  obtain ⟨c, hc⟩ := Option.ne_none_iff_exists'.1 hne
  refine ⟨c, ?_, ?_⟩
  · rw [assemble_eq]
    exact read?_of_reads (fill_lex_sql (plain_render h.sound) (apart_render p)) (reads_render h.sound hc)
  · intro ρ w scope
    rw [truth?_eq w scope h.sound, hc, Option.map_some]

/-- The negation of alternatives, one of which is that a table has no other row, is read back as that. -/
theorem read_statement_not_any :
    let total : FieldRef := ⟨"orders", "orders", "total", "Total", .text⟩
    let other : Join := (Join.of .inner total (total.aliased "o") none).filter (total.oneOf [])
    let p : Predicate := (any [some (total.compare .gt .null), none, some (all []), some other.hasMatch.not]).not
    p.Proper ∧ p.isEmpty = false ∧
      ∃ c, Condition.read? p.assemble = some c ∧
        ∀ {ρ : Type} (w : World ρ) (scope : Scope ρ), p.truth? w scope = some (c.truth w scope) := by
  intro total other p
  have hnew : Schema.new "orders" [.plain "Total" .text] = .ok ⟨"orders", "orders", [.plain "Total" .text]⟩ := rfl
  have href : Schema.ref ⟨"orders", "orders", [.plain "Total" .text]⟩ "Total" = .ok total := rfl
  have htotal := (Schema.Proper.of_new hnew).of_ref href
  have hother : other.Proper :=
    .filter (.of .inner htotal ⟨htotal.made.aliased "o", by decide⟩ fun _ h => nomatch h) (.oneOf htotal [])
  have hproper : p.Proper := by
    apply Proper.not
    apply Proper.any
    intro q hq
    simp only [List.mem_cons, Option.some.injEq, reduceCtorEq, List.not_mem_nil, or_false, false_or] at hq
    rcases hq with rfl | rfl | rfl
    · exact .compare htotal .gt .null
    · exact .all fun _ h => nomatch h
    · exact .not (.hasMatch hother)
  exact ⟨hproper, rfl, hproper.read_statement rfl⟩

end Predicate

end SchemaSql
