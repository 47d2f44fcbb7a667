import SchemaSql.Proofs.Condition.Token

/-!
# Layout of predicates

What can be told of the text of a predicate without reading it. A predicate has a text exactly if it is not
empty (`isEmpty_render`); no two pieces of its text run into each other (`apart_render`); and if the names in
it are identifiers, its question marks are those of its values (`plain_render`). Each is proved by induction
on the predicate, with the lists of predicates inside groups and matches.
-/

namespace SchemaSql

/-! ## Names -/

namespace Identifier

theorem Valid.unmarked {s : String} (h : Valid s) : Unmarked s :=
  h.lacks (by decide)

end Identifier

theorem ColumnRef.Valid.unmarked {c : ColumnRef} (h : c.Valid) : Unmarked c.text := by
  simp +decide only [ColumnRef.text, unmarked_append, h.1.unmarked, h.2.unmarked, and_self]

theorem TableRef.Valid.unmarked {t : TableRef} (h : t.Valid) : Unmarked t.text := by
  obtain ⟨table, aliasName⟩ := t
  cases aliasName with
  | none => exact h.1.unmarked
  | some a => simp +decide only [TableRef.text, unmarked_append, h.1.unmarked, (h.2 a rfl).unmarked, and_self]

@[simp]
theorem Comparison.unmarked_sql (op : Comparison) : Unmarked op.sql := by
  cases op <;> decide

/-! ## Pieces next to each other -/

namespace Fragment

theorem apart_nil : Apart [] :=
  List.isChain_nil

theorem apart_singleton (p : Piece) : Apart [p] :=
  List.isChain_singleton p

theorem Apart.cons_closes {s : String} (hs : Token.closes s.toList = true) {f : Fragment} (h : f.Apart) :
    Apart (.text s :: f) := by
  cases f with
  | nil => exact apart_singleton _
  | cons p f => exact List.isChain_cons_cons.2 ⟨.inl hs, h⟩

theorem Apart.append_opens {s : String} (hs : Token.opens s.toList = true) {f g : Fragment} (hf : f.Apart)
    (hg : Apart (.text s :: g)) : Apart (f ++ .text s :: g) := by
  refine List.isChain_append.2 ⟨hf, hg, ?_⟩
  rintro a _ b hb
  cases hb
  exact .inr hs

/-- Fragments are apart if the text between them opens and closes. -/
theorem apart_joined {sep : String} (ho : Token.opens sep.toList = true) (hc : Token.closes sep.toList = true)
    {fs : List Fragment} (h : ∀ f ∈ fs, f.Apart) : Apart (joined sep fs) := by
  fun_induction joined sep fs with
  | case1 => exact apart_nil
  | case2 f => exact h f List.mem_cons_self
  | case3 f g rest ih =>
    have hrest := ih fun e he => h e (List.mem_cons_of_mem _ he)
    exact (h f List.mem_cons_self).append_opens ho (hrest.cons_closes hc)

theorem apart_values (vs : List Json) : Apart (values vs) := by
  apply apart_joined rfl rfl
  intro f hf
  obtain ⟨v, -, rfl⟩ := List.mem_map.1 hf
  exact apart_singleton _

end Fragment

namespace Predicate

open Fragment

/-! ## Groups and negations -/

/-- The members of a group that have a text. -/
def written (fs : List Fragment) : List Fragment :=
  fs.filter fun f => !f.isEmpty

/-- A group is its written members in parentheses. -/
theorem grouped_eq {fs : List Fragment} (h : written fs ≠ []) (c : Connective) :
    grouped c fs = .text "(" :: joined c.sql (written fs) ++ [.text ")"] := by
  unfold grouped
  split
  · rename_i hnil
    exact absurd hnil h
  · rfl

theorem grouped_eq_nil {fs : List Fragment} (h : written fs = []) (c : Connective) : grouped c fs = [] := by
  unfold grouped
  unfold written at h
  rw [h]

theorem isEmpty_grouped (c : Connective) (fs : List Fragment) : (grouped c fs).isEmpty = (written fs).isEmpty := by
  by_cases h : written fs = []
  · rw [grouped_eq_nil h, h]
    rfl
  · rw [grouped_eq h, List.cons_append, List.isEmpty_cons, List.isEmpty_eq_false_iff.2 h]

theorem isEmpty_negated (hasParentheses : Bool) (f : Fragment) : (negated hasParentheses f).isEmpty = f.isEmpty := by
  unfold negated
  split
  · rename_i h
    rw [h]
    rfl
  · rename_i h
    rw [Bool.eq_false_iff.2 h]
    split <;> rfl

mutual
/-- **A predicate has a text exactly if it is not empty.** -/
theorem isEmpty_render : ∀ p : Predicate, p.render.isEmpty = p.isEmpty
  | compare _ _ _ => rfl
  | oneOf _ [] => rfl
  | oneOf _ (_ :: _) => rfl
  | nullCheck _ _ => rfl
  | sameColumns _ _ => rfl
  | group c members => by rw [render, isEmpty_grouped, isEmpty_written_renderAll members, isEmpty]
  | not inner => by rw [render, isEmpty_negated, isEmpty_render inner, isEmpty]
  | existsIn _ _ => rfl
/-- None of a list of predicates has a text exactly if all are empty. -/
theorem isEmpty_written_renderAll : ∀ ps : List Predicate, (written (renderAll ps)).isEmpty = allEmpty ps
  | [] => rfl
  | p :: ps => by
    rw [renderAll, allEmpty, ← isEmpty_written_renderAll ps, ← isEmpty_render p, written, List.filter_cons]
    cases p.render.isEmpty <;> rfl
end

theorem forall_written {P : Fragment → Prop} {fs : List Fragment} (h : ∀ f ∈ fs, P f) : ∀ f ∈ written fs, P f :=
  fun f hf => h f (List.mem_filter.1 hf).1

/-! ## Pieces of predicates next to each other -/

theorem apart_grouped (c : Connective) {fs : List Fragment} (h : ∀ f ∈ fs, f.Apart) : (grouped c fs).Apart := by
  by_cases hnil : written fs = []
  · rw [grouped_eq_nil hnil]
    exact apart_nil
  · have hsep : Token.opens c.sql.toList = true ∧ Token.closes c.sql.toList = true := by
      cases c <;> exact ⟨rfl, rfl⟩
    rw [grouped_eq hnil]
    exact Apart.append_opens rfl ((apart_joined hsep.1 hsep.2 (forall_written h)).cons_closes rfl) (apart_singleton _)

theorem apart_negated (hasParentheses : Bool) {f : Fragment} (h : f.Apart) : (negated hasParentheses f).Apart := by
  unfold negated
  split
  · exact apart_nil
  · split
    · exact h.cons_closes rfl
    · exact Apart.append_opens rfl (h.cons_closes rfl) (apart_singleton _)

/-- A text closes if its last part does. -/
theorem closes_append (cs : List Char) {ds : List Char} (h : Token.closes ds = true) :
    Token.closes (cs ++ ds) = true := by
  obtain ⟨c, hlast, hc⟩ := (Option.any_eq_true _ _).1 h
  rw [Token.closes, List.getLast?_append, hlast]
  exact hc

mutual
/-- **No two pieces of a predicate run into each other.** -/
theorem apart_render : ∀ p : Predicate, p.render.Apart
  | compare c op v => by
    refine Apart.cons_closes ?_ (apart_singleton _)
    rw [String.toList_append]
    exact closes_append _ rfl
  | oneOf _ [] => apart_singleton _
  | oneOf c (v :: vs) => by
    refine Apart.append_opens rfl ((apart_values _).cons_closes ?_) (apart_singleton _)
    rw [String.toList_append]
    exact closes_append _ rfl
  | nullCheck _ _ => apart_singleton _
  | sameColumns _ _ => apart_singleton _
  | group c members => apart_grouped c (apart_renderAll members)
  | not inner => apart_negated _ (apart_render inner)
  | existsIn source on => by
    refine Apart.append_opens rfl ((apart_grouped .and (apart_renderAll on)).cons_closes ?_) (apart_singleton _)
    rw [String.toList_append]
    exact closes_append _ rfl
theorem apart_renderAll : ∀ (ps : List Predicate), ∀ f ∈ renderAll ps, f.Apart
  | [], _, h => nomatch h
  | p :: ps, f, h => by
    rcases List.mem_cons.1 h with rfl | h
    · exact apart_render p
    · exact apart_renderAll ps f h
end

/-! ## Question marks of predicates -/

theorem plain_grouped (c : Connective) {fs : List Fragment} (h : ∀ f ∈ fs, f.Plain) : (grouped c fs).Plain := by
  by_cases hnil : written fs = []
  · rw [grouped_eq_nil hnil]
    exact plain_nil
  · have hsep : Unmarked c.sql := by
      cases c <;> decide
    have hmembers := plain_joined hsep (forall_written h)
    rw [grouped_eq hnil]
    simp +decide only [plain_append, plain_cons_text, plain_nil, hmembers, and_self]

theorem plain_negated (hasParentheses : Bool) {f : Fragment} (h : f.Plain) : (negated hasParentheses f).Plain := by
  unfold negated
  split
  · exact plain_nil
  · split <;> simp +decide only [plain_append, plain_cons_text, plain_nil, h, and_self]

mutual
/-- **The question marks of a predicate are those of its values** if the names in it are identifiers. -/
theorem plain_render : ∀ {p : Predicate}, p.Sound → p.render.Plain
  | compare c op v, h => by
    have hc : Unmarked c.text := ColumnRef.Valid.unmarked h
    simp +decide [render, hc]
  | oneOf _ [], _ => by simp +decide [render]
  | oneOf c (v :: vs), h => by
    have hc : Unmarked c.text := ColumnRef.Valid.unmarked h
    simp +decide [render, hc]
  | nullCheck c isNull, h => by
    have hc : Unmarked c.text := ColumnRef.Valid.unmarked h
    cases isNull <;> simp +decide [render, hc]
  | sameColumns l r, h => by simp +decide [render, h.1.unmarked, h.2.unmarked]
  | group c members, h => plain_grouped c (plain_renderAll h)
  | not inner, h => plain_negated _ (plain_render (p := inner) h)
  | existsIn source on, h => by
    have hon := plain_grouped .and (plain_renderAll h.2.1)
    simp +decide [render, h.1.unmarked, hon]
theorem plain_renderAll : ∀ {ps : List Predicate}, AllSound ps → ∀ f ∈ renderAll ps, f.Plain
  | [], _, _, hf => nomatch hf
  | p :: ps, h, f, hf => by
    rcases List.mem_cons.1 hf with rfl | hf
    · exact plain_render h.1
    · exact plain_renderAll h.2 f hf
end

end Predicate

end SchemaSql
