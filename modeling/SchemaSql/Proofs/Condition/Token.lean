import Mathlib.Data.List.Chain
import SchemaSql.Decimal.Numeral
import SchemaSql.Proofs.Predicate.Proper
import SchemaSql.Proofs.Statement.Placeholder

/-!
# Tokens of conditions

A text is cut into words, numbers, operators and marks; blanks only keep words apart. A word that some
dialect reserves is a keyword, in any mixture of cases, and never a name. Placeholders take the values
of a statement in order.

The main statement is `fill_lex_sql`: the tokens of a fragment are those of its pieces, one piece after the
other. It asks that no two pieces run into each other (`Fragment.Apart`) and that no text of its own has a
question mark (`Fragment.Plain`).
-/

namespace SchemaSql

/-- **The words that hold a condition together.** -/
inductive Keyword where
  | AND
  | OR
  | NOT
  | EXISTS
  | SELECT
  | FROM
  | AS
  | WHERE
  | IN
  | IS
  | NULL
deriving DecidableEq

/-- **A token.** -/
inductive Token where
  | keyword (k : Keyword)
  | op (c : Comparison)
  | name (s : String)
  | number (n : Nat)
  | placeholder
  | value (v : Json)
  | point
  | comma
  | opening
  | closing
  /-- What no condition contains. -/
  | stray

namespace Token

/-- The reserved words that conditions contain. -/
def words : List (String × Token) :=
  [("AND", keyword .AND), ("OR", keyword .OR), ("NOT", keyword .NOT), ("EXISTS", keyword .EXISTS),
   ("SELECT", keyword .SELECT), ("FROM", keyword .FROM), ("AS", keyword .AS), ("WHERE", keyword .WHERE),
   ("IN", keyword .IN), ("IS", keyword .IS), ("NULL", keyword .NULL), ("LIKE", op .like)]

/-- The token of a run of letters, digits and underscores. -/
def ofWord (w : List Char) : Token :=
  if Identifier.isReserved (String.ofList w) then (words.lookup (Text.uppercase (String.ofList w))).getD stray
  else if Identifier.isWord w then name (String.ofList w)
  else if w.all Char.isDigit then number (Decimal.ofDigits w)
  else stray

/-- The token of a character that belongs to no word. -/
def ofMark : Char → Token
  | '=' => op .eq
  | '>' => op .gt
  | '<' => op .lt
  | '.' => point
  | ',' => comma
  | '(' => opening
  | ')' => closing
  | '?' => placeholder
  | _ => stray

/-- The tokens after a word whose characters are given backwards; there may be none. -/
def afterWord (word : List Char) (ts : List Token) : List Token :=
  match word with
  | [] => ts
  | c :: cs => ofWord (c :: cs).reverse :: ts

/-- The tokens of a text that goes on with a word, whose characters up to there are given backwards. -/
def lexFrom (word : List Char) : List Char → List Token
  | [] => afterWord word []
  | '!' :: '=' :: cs => afterWord word (op .ne :: lexFrom [] cs)
  | '>' :: '=' :: cs => afterWord word (op .gte :: lexFrom [] cs)
  | '<' :: '=' :: cs => afterWord word (op .lte :: lexFrom [] cs)
  | c :: cs =>
    if Identifier.isPart c then lexFrom (c :: word) cs
    else if c.isWhitespace then afterWord word (lexFrom [] cs)
    else afterWord word (ofMark c :: lexFrom [] cs)

/-- **The tokens of a text.** -/
def lex (cs : List Char) : List Token :=
  lexFrom [] cs

/-- **Tokens with values in their placeholders**, if there are as many of one as of the other. -/
def fill : List Token → List Json → Option (List Token)
  | [], [] => some []
  | [], _ :: _ => none
  | placeholder :: _, [] => none
  | placeholder :: ts, v :: vs => (fill ts vs).map (value v :: ·)
  | t :: ts, vs => (fill ts vs).map (t :: ·)

/-! ## Where a text may be cut -/

/-- A text starts with a character that joins with none before it. -/
def opens (cs : List Char) : Bool :=
  cs.head?.any fun c => !Identifier.isPart c && c ≠ '='

/-- A text ends with a blank or an opening parenthesis, which join with nothing behind them. -/
def closes (cs : List Char) : Bool :=
  cs.getLast?.any fun c => c = ' ' || c = '('

theorem afterWord_append (word : List Char) (ts us : List Token) :
    afterWord word (ts ++ us) = afterWord word ts ++ us := by
  cases word <;> rfl

/-- A word ends before a text that opens. -/
theorem lexFrom_of_opens {cs : List Char} (h : opens cs = true) (word : List Char) :
    lexFrom word cs = afterWord word (lex cs) := by
  fun_cases lexFrom word cs with
  | case1 => cases h
  | case2 cs => rw [lex, lexFrom]; rfl
  | case3 cs => rw [lex, lexFrom]; rfl
  | case4 cs => rw [lex, lexFrom]; rfl
  | case5 c cs h1 h2 h3 hpart =>
    simp only [opens, List.head?_cons, Option.any_some, hpart, Bool.not_true, Bool.false_and, Bool.false_eq_true] at h
  | case6 c cs h1 h2 h3 hpart hblank => simp only [lex, lexFrom, if_neg hpart, if_pos hblank]; rfl
  | case7 c cs h1 h2 h3 hpart hblank => simp only [lex, lexFrom, if_neg hpart, if_neg hblank]; rfl

/-- A character that begins no operator of two characters is read on its own. -/
theorem lexFrom_cons {c : Char} {cs : List Char} (h : cs.head? = some '=' → c ≠ '!' ∧ c ≠ '>' ∧ c ≠ '<')
    (word : List Char) :
    lexFrom word (c :: cs) =
      if Identifier.isPart c then lexFrom (c :: word) cs
      else if c.isWhitespace then afterWord word (lex cs)
      else afterWord word (ofMark c :: lex cs) := by
  rw [lexFrom]
  · rfl
  · rintro ds rfl rfl
    exact (h rfl).1 rfl
  · rintro ds rfl rfl
    exact (h rfl).2.1 rfl
  · rintro ds rfl rfl
    exact (h rfl).2.2 rfl

/-- **A text may be cut before one that opens.** -/
theorem lexFrom_append {cs rest : List Char} (h : opens rest = true) (word : List Char) :
    lexFrom word (cs ++ rest) = lexFrom word cs ++ lex rest := by
  have hrest : rest.head? ≠ some '=' := by
    intro he
    simp only [opens, he, Option.any_some, ne_eq, not_true_eq_false, decide_false, Bool.and_false,
      Bool.false_eq_true] at h
  -- the rest begins no operator, so what begins none in `cs` begins none in front of the rest
  have hcons : ∀ {c : Char} {cs : List Char}, (∀ ds, c = '!' → cs = '=' :: ds → False) →
      (∀ ds, c = '>' → cs = '=' :: ds → False) → (∀ ds, c = '<' → cs = '=' :: ds → False) →
      (cs ++ rest).head? = some '=' → c ≠ '!' ∧ c ≠ '>' ∧ c ≠ '<' := by
    intro c cs h1 h2 h3 hhead
    cases cs with
    | nil => exact absurd hhead hrest
    | cons d ds =>
      obtain rfl : d = '=' := Option.some.inj hhead
      exact ⟨fun e => h1 ds e rfl, fun e => h2 ds e rfl, fun e => h3 ds e rfl⟩
  fun_induction lexFrom word cs with
  | case1 word => rw [List.nil_append, lexFrom_of_opens h, ← afterWord_append, List.nil_append]
  | case2 word cs ih => rw [List.cons_append, List.cons_append, lexFrom, ih, ← afterWord_append, List.cons_append]
  | case3 word cs ih => rw [List.cons_append, List.cons_append, lexFrom, ih, ← afterWord_append, List.cons_append]
  | case4 word cs ih => rw [List.cons_append, List.cons_append, lexFrom, ih, ← afterWord_append, List.cons_append]
  | case5 word c cs h1 h2 h3 hpart ih =>
    rw [List.cons_append, lexFrom_cons (hcons h1 h2 h3), if_pos hpart, ih]
  | case6 word c cs h1 h2 h3 hpart hblank ih =>
    rw [List.cons_append, lexFrom_cons (hcons h1 h2 h3), if_neg hpart, if_pos hblank, lex, ih, ← afterWord_append]
  | case7 word c cs h1 h2 h3 hpart hblank ih =>
    rw [List.cons_append, lexFrom_cons (hcons h1 h2 h3), if_neg hpart, if_neg hblank, lex, ih, ← afterWord_append,
      List.cons_append]

/-- **A text may be cut after one that closes.** -/
theorem lex_append_of_closes {cs : List Char} (h : closes cs = true) (rest : List Char) :
    lex (cs ++ rest) = lex cs ++ lex rest := by
  obtain ⟨c, hlast, hc⟩ := (Option.any_eq_true _ _).1 h
  obtain ⟨front, rfl⟩ := List.getLast?_eq_some_iff.1 hlast
  -- the last character opens, so the text is cut in front of it, with and without the rest
  have hcut : ∀ ds, lex (front ++ c :: ds) = lex front ++ lex (c :: ds) := by
    intro ds
    refine lexFrom_append ?_ []
    rcases Bool.or_eq_true_iff.1 hc with hc | hc <;> rw [of_decide_eq_true hc] <;> rfl
  have hlast : ∀ ds, lex (c :: ds) = lex [c] ++ lex ds := by
    intro ds
    rcases Bool.or_eq_true_iff.1 hc with hc | hc <;> rw [of_decide_eq_true hc] <;> rfl
  rw [List.append_assoc, List.singleton_append, hcut, hcut, hlast, List.append_assoc]

theorem opens_append {cs : List Char} (h : opens cs = true) (rest : List Char) : opens (cs ++ rest) = true := by
  cases cs with
  | nil => cases h
  | cons c cs => exact h

/-! ## Placeholders -/

theorem ofWord_ne_placeholder (w : List Char) : ofWord w ≠ placeholder := by
  unfold ofWord
  split
  · cases h : words.lookup (Text.uppercase (String.ofList w)) with
    | none => simp only [Option.getD_none, ne_eq, reduceCtorEq, not_false_eq_true]
    | some t =>
      rw [Option.getD_some]
      rintro rfl
      obtain ⟨_, _, hwords, _⟩ := List.lookup_eq_some_iff.1 h
      have hmem : (Text.uppercase (String.ofList w), placeholder) ∈ words := by
        rw [hwords]
        exact List.mem_append_right _ List.mem_cons_self
      simp only [words, List.mem_cons, Prod.mk.injEq, reduceCtorEq, and_false, List.not_mem_nil, or_self] at hmem
  · split
    · simp only [ne_eq, reduceCtorEq, not_false_eq_true]
    · split <;> simp only [ne_eq, reduceCtorEq, not_false_eq_true]

theorem ofMark_eq_placeholder_iff {c : Char} : ofMark c = placeholder ↔ c = '?' := by
  constructor
  · intro h
    unfold ofMark at h
    split at h <;> first | rfl | cases h
  · rintro rfl
    rfl

theorem mem_afterWord {t : Token} {word : List Char} {ts : List Token} (h : t ∈ afterWord word ts) :
    t ∈ ts ∨ ∃ w, t = ofWord w := by
  cases word with
  | nil => exact .inl h
  | cons c cs => exact (List.mem_cons.1 h).symm.imp_right fun h => ⟨_, h⟩

/-- **Only a question mark is a placeholder.** -/
theorem placeholder_not_mem_lexFrom {cs : List Char} (h : '?' ∉ cs) (word : List Char) :
    placeholder ∉ lexFrom word cs := by
  have hafter : ∀ {word : List Char} {ts : List Token}, placeholder ∉ ts → placeholder ∉ afterWord word ts := by
    intro word ts hts hmem
    rcases mem_afterWord hmem with hmem | ⟨w, hw⟩
    · exact hts hmem
    · exact ofWord_ne_placeholder w hw.symm
  have hop : ∀ {c : Comparison} {ts : List Token}, placeholder ∉ ts → placeholder ∉ op c :: ts := by
    intro c ts hts hmem
    rcases List.mem_cons.1 hmem with hmem | hmem
    · cases hmem
    · exact hts hmem
  fun_induction lexFrom word cs with
  | case1 word => exact hafter List.not_mem_nil
  | case2 word cs ih => exact hafter (hop (ih fun hm => h (List.mem_cons_of_mem _ (List.mem_cons_of_mem _ hm))))
  | case3 word cs ih => exact hafter (hop (ih fun hm => h (List.mem_cons_of_mem _ (List.mem_cons_of_mem _ hm))))
  | case4 word cs ih => exact hafter (hop (ih fun hm => h (List.mem_cons_of_mem _ (List.mem_cons_of_mem _ hm))))
  | case5 word c cs h1 h2 h3 hpart ih => exact ih fun hm => h (List.mem_cons_of_mem _ hm)
  | case6 word c cs h1 h2 h3 hpart hblank ih => exact hafter (ih fun hm => h (List.mem_cons_of_mem _ hm))
  | case7 word c cs h1 h2 h3 hpart hblank ih =>
    apply hafter
    intro hmem
    rcases List.mem_cons.1 hmem with hmem | hmem
    · exact h (ofMark_eq_placeholder_iff.1 hmem.symm ▸ List.mem_cons_self)
    · exact ih (fun hm => h (List.mem_cons_of_mem _ hm)) hmem

/-- Tokens without placeholders take no values. -/
theorem fill_append {ts : List Token} (h : placeholder ∉ ts) (us : List Token) (vs : List Json) :
    fill (ts ++ us) vs = (fill us vs).map (ts ++ ·) := by
  induction ts with
  | nil => simp only [List.nil_append, Option.map_id']
  | cons t ts ih =>
    obtain ⟨ht, hts⟩ := not_or.1 fun hm => h (List.mem_cons.2 hm)
    have hfill : fill (t :: (ts ++ us)) vs = (fill (ts ++ us) vs).map (t :: ·) := by
      cases t with
      | placeholder => exact absurd rfl ht
      | _ => rw [fill] <;> simp only [reduceCtorEq, false_implies, implies_true]
    rw [List.cons_append, hfill, ih hts, Option.map_map]
    rfl

end Token

/-! ## Tokens of a fragment -/

/-- The tokens of a piece. -/
def Piece.tokens : Piece → List Token
  | text s => Token.lex s.toList
  | value v => [.value v]

namespace Fragment

/-- **The tokens of a fragment**, those of one piece after those of another. -/
def tokens (f : Fragment) : List Token :=
  f.flatMap Piece.tokens

/-- No piece of a fragment runs into the next one. -/
def Apart (f : Fragment) : Prop :=
  f.IsChain fun a b => Token.closes a.sql.toList = true ∨ Token.opens b.sql.toList = true

theorem tokens_append (f g : Fragment) : tokens (f ++ g) = tokens f ++ tokens g :=
  List.flatMap_append

/-- The text of a fragment that is apart is cut between its pieces. -/
theorem lex_sql {f : Fragment} (h : f.Apart) :
    Token.lex f.sql.toList = f.flatMap fun p => Token.lex p.sql.toList := by
  induction f with
  | nil => rfl
  | cons p f ih =>
    rw [toList_sql_cons, List.flatMap_cons, ← ih h.tail]
    cases f with
    | nil => rw [show sql [] = "" from rfl, String.toList_empty, List.append_nil]; exact (List.append_nil _).symm
    | cons q g =>
      rcases (List.isChain_cons_cons.1 h).1 with hclose | hopen
      · exact Token.lex_append_of_closes hclose _
      · exact Token.lexFrom_append (toList_sql_cons q g ▸ Token.opens_append hopen _) []

/-- **The tokens of a statement are those of its pieces**, with each value in the place of its
placeholder. -/
theorem fill_lex_sql {f : Fragment} (hp : f.Plain) (ha : f.Apart) :
    Token.fill (Token.lex f.sql.toList) f.args = some f.tokens := by
  rw [lex_sql ha]
  clear ha
  induction f with
  | nil => rfl
  | cons p f ih =>
    have hrest := ih fun s hs => hp s (List.mem_cons_of_mem _ hs)
    rw [List.flatMap_cons]
    cases p with
    | text s =>
      have hnone : .placeholder ∉ Token.lex (Piece.sql (.text s)).toList :=
        Token.placeholder_not_mem_lexFrom (hp s List.mem_cons_self) []
      rw [args_cons_text, Token.fill_append hnone, hrest]
      rfl
    | value v =>
      have hmark : Token.lex (Piece.value v).sql.toList = [.placeholder] := by
        rw [toList_sql_value]
        rfl
      rw [args_cons_value, hmark, List.singleton_append, Token.fill, hrest]
      rfl

end Fragment

end SchemaSql
