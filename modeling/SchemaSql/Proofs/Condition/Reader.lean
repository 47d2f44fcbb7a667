import SchemaSql.Proofs.Condition.Token
import SchemaSql.Proofs.Condition.Truth

/-!
# Reading conditions

The grammar of conditions, read from left to right: alternatives of terms joined by `OR`, terms of factors
joined by `AND`, and a factor is a negation, a condition in parentheses, the question whether a table has a
row, or a test. So `NOT` binds tighter than `AND`, and `AND` tighter than `OR`. `Condition.read?` reads a
statement that consists of a condition and nothing else.

`Reads` says that tokens are read as one factor wherever they stand. Members of a group that are read so are
read as their group when it stands in parentheses (`reads_group`); no knowledge of predicates is used here.
-/

namespace SchemaSql

namespace Condition

open Token

/-- Reads values between commas up to the end of their parentheses. -/
def readValues : List Token → Option (List Json × List Token)
  | value v :: closing :: ts => some ([v], ts)
  | value v :: comma :: ts => (readValues ts).map fun (vs, ts) => (v :: vs, ts)
  | _ => none

/-- Reads what is asked of a column. -/
def readColumnTest (c : ColumnRef) : List Token → Option (Condition × List Token)
  | op o :: value v :: ts => some (test (.compare c o v), ts)
  | op .eq :: name q :: point :: name d :: ts => some (test (.sameColumns c ⟨q, d⟩), ts)
  | keyword .IN :: opening :: ts => (readValues ts).map fun (vs, ts) => (test (.oneOf c vs), ts)
  | keyword .IS :: keyword .NULL :: ts => some (test (.nullCheck c true), ts)
  | keyword .IS :: keyword .NOT :: keyword .NULL :: ts => some (test (.nullCheck c false), ts)
  | _ => none

/-- Reads a test of a column, or the comparison of one with zero. -/
def readTest : List Token → Option (Condition × List Token)
  | name q :: point :: name c :: ts => readColumnTest ⟨q, c⟩ ts
  | number 1 :: op .eq :: number 0 :: ts => some (never, ts)
  | _ => none

/-- Reads an occurrence of a table, under an alias or not. -/
def readSource : List Token → Option (TableRef × List Token)
  | name t :: keyword .AS :: name a :: ts => some (⟨t, some a⟩, ts)
  | name t :: ts => some (⟨t, none⟩, ts)
  | _ => none

/-- Reads the parenthesis behind a condition. -/
def readClosing : Condition × List Token → Option (Condition × List Token)
  | (c, closing :: ts) => some (c, ts)
  | _ => none

mutual
/-- **Reads terms joined by `OR`.** The first argument bounds the number of steps. -/
def readAlternatives : Nat → List Token → Option (Condition × List Token)
  | 0, _ => none
  | n + 1, ts =>
    match readTerms n ts with
    | some (c, keyword .OR :: ts) => (readAlternatives n ts).map fun (d, ts) => (or c d, ts)
    | r => r
/-- Reads factors joined by `AND`. -/
def readTerms : Nat → List Token → Option (Condition × List Token)
  | 0, _ => none
  | n + 1, ts =>
    match readFactor n ts with
    | some (c, keyword .AND :: ts) => (readTerms n ts).map fun (d, ts) => (and c d, ts)
    | r => r
/-- Reads a factor. -/
def readFactor : Nat → List Token → Option (Condition × List Token)
  | 0, _ => none
  | n + 1, keyword .NOT :: ts => (readFactor n ts).map fun (c, ts) => (not c, ts)
  | n + 1, opening :: ts => (readAlternatives n ts).bind readClosing
  | n + 1, keyword .EXISTS :: opening :: keyword .SELECT :: number 1 :: keyword .FROM :: ts =>
    match readSource ts with
    | some (source, keyword .WHERE :: ts) =>
      ((readAlternatives n ts).bind readClosing).map fun (c, ts) => (existsIn source c, ts)
    | _ => none
  | _ + 1, ts => readTest ts
end

/-- **The condition that a statement is**: the whole text is read, and all arguments are used. -/
def read? (s : Statement) : Option Condition :=
  match fill (lex s.sql.toList) s.args with
  | none => none
  | some ts =>
    match readAlternatives (2 * ts.length + 2) ts with
    | some (c, []) => some c
    | _ => none

/-! ## Factors -/

/-- **Tokens that are read as a condition, whatever follows them.** Twice their number of steps is
enough. -/
def Reads (ts : List Token) (c : Condition) : Prop :=
  ∀ n rest, 2 * ts.length ≤ n → readFactor n (ts ++ rest) = some (c, rest)

/-- A word that joins the parts of a condition. -/
def keywordOf : Connective → Keyword
  | .and => .AND
  | .or => .OR

/-- The tokens of the members of a group with their connective between them. -/
def joinedTokens (c : Connective) : List (List Token) → List Token
  | [] => []
  | [ts] => ts
  | ts :: us :: rest => ts ++ keyword (keywordOf c) :: joinedTokens c (us :: rest)

/-- The tokens of an occurrence of a table. -/
def sourceTokens (t : TableRef) : List Token :=
  match t.aliasName with
  | some a => [name t.table, keyword .AS, name a]
  | none => [name t.table]

/-- A term that is read before an alternative goes on, or does not. -/
theorem readAlternatives_succ {n : Nat} {ts rest : List Token} {c : Condition} (h : readTerms n ts = some (c, rest))
    (hr : ∀ us, rest ≠ keyword .OR :: us) : readAlternatives (n + 1) ts = some (c, rest) := by
  rw [readAlternatives, h]
  split
  · rename_i heq
    cases heq
    exact absurd rfl (hr _)
  · rfl

theorem readTerms_succ {n : Nat} {ts rest : List Token} {c : Condition} (h : readFactor n ts = some (c, rest))
    (hr : ∀ us, rest ≠ keyword .AND :: us) : readTerms (n + 1) ts = some (c, rest) := by
  rw [readTerms, h]
  split
  · rename_i heq
    cases heq
    exact absurd rfl (hr _)
  · rfl

/-- **Factors joined by `AND`** are read up to the end of their parentheses. The induction is on the
members; each takes one step more than it needs itself. -/
theorem readTerms_joined {tss : List (List Token)} {cs : List Condition} (h : List.Forall₂ Reads tss cs)
    {c : Condition} (hc : Connective.conditionOf? .and cs = some c) (n : Nat) (rest : List Token)
    (hn : 2 * (joinedTokens .and tss).length + 1 ≤ n) :
    readTerms n (joinedTokens .and tss ++ closing :: rest) = some (c, closing :: rest) := by
  obtain ⟨n, rfl⟩ : ∃ m, n = m + 1 := ⟨n - 1, by omega⟩
  induction h generalizing c n with
  | nil => cases hc
  | @cons ts d tss ds hd hds ih =>
    cases hds with
    | nil =>
      cases hc
      rw [joinedTokens] at hn ⊢
      exact readTerms_succ (hd n _ (by omega)) (fun _ e => nomatch e)
    | @cons us e tss ds he hds =>
      obtain ⟨r, hr, rfl⟩ := Option.map_eq_some_iff.1 hc
      rw [joinedTokens, List.length_append, List.length_cons] at hn
      obtain ⟨n, rfl⟩ : ∃ m, n = m + 1 := ⟨n - 1, by omega⟩
      have hrest := ih hr n (by omega)
      rw [joinedTokens, List.append_assoc, List.cons_append, readTerms, hd _ _ (by omega)]
      simp only [keywordOf, hrest, Option.map_some, Connective.condition]

/-- **Factors joined by `OR`** are read up to the end of their parentheses. -/
theorem readAlternatives_joined {tss : List (List Token)} {cs : List Condition} (h : List.Forall₂ Reads tss cs)
    {c : Condition} (hc : Connective.conditionOf? .or cs = some c) (n : Nat) (rest : List Token)
    (hn : 2 * (joinedTokens .or tss).length + 2 ≤ n) :
    readAlternatives n (joinedTokens .or tss ++ closing :: rest) = some (c, closing :: rest) := by
  obtain ⟨n, rfl⟩ : ∃ m, n = m + 2 := ⟨n - 2, by omega⟩
  induction h generalizing c n with
  | nil => cases hc
  | @cons ts d tss ds hd hds ih =>
    cases hds with
    | nil =>
      cases hc
      rw [joinedTokens] at hn ⊢
      exact readAlternatives_succ (readTerms_succ (hd n _ (by omega)) (fun _ e => nomatch e)) (fun _ e => nomatch e)
    | @cons us e tss ds he hds =>
      obtain ⟨r, hr, rfl⟩ := Option.map_eq_some_iff.1 hc
      rw [joinedTokens, List.length_append, List.length_cons] at hn
      obtain ⟨n, rfl⟩ : ∃ m, n = m + 1 := ⟨n - 1, by omega⟩
      have hrest := ih hr n (by omega)
      have hfactor := hd (n + 1) (keyword .OR :: (joinedTokens .or (us :: tss) ++ closing :: rest)) (by omega)
      have hterm := readTerms_succ hfactor (fun _ e => nomatch e)
      rw [joinedTokens, List.append_assoc, List.cons_append, keywordOf, readAlternatives, hterm]
      simp only [hrest, Option.map_some, Connective.condition]

/-- What stands between parentheses is read to its end. -/
theorem readAlternatives_group {c : Connective} {tss : List (List Token)} {cs : List Condition}
    (h : List.Forall₂ Reads tss cs) {d : Condition} (hd : c.conditionOf? cs = some d) (n : Nat) (rest : List Token)
    (hn : 2 * (joinedTokens c tss).length + 2 ≤ n) :
    (readAlternatives n (joinedTokens c tss ++ closing :: rest)).bind readClosing = some (d, rest) := by
  have hread : readAlternatives n (joinedTokens c tss ++ closing :: rest) = some (d, closing :: rest) := by
    cases c with
    | and =>
      obtain ⟨n, rfl⟩ : ∃ m, n = m + 1 := ⟨n - 1, by omega⟩
      exact readAlternatives_succ (readTerms_joined h hd n rest (by omega)) (fun _ e => nomatch e)
    | or => exact readAlternatives_joined h hd n rest hn
  rw [hread]
  rfl

/-- **The members of a group in parentheses are read as the group.** -/
theorem reads_group {c : Connective} {tss : List (List Token)} {cs : List Condition} (h : List.Forall₂ Reads tss cs)
    {d : Condition} (hd : c.conditionOf? cs = some d) : Reads (opening :: joinedTokens c tss ++ [closing]) d := by
  intro n rest hn
  rw [List.length_append, List.length_cons, List.length_singleton] at hn
  obtain ⟨n, rfl⟩ : ∃ m, n = m + 1 := ⟨n - 1, by omega⟩
  rw [List.cons_append, List.cons_append, List.append_assoc, List.singleton_append, readFactor]
  exact readAlternatives_group h hd n rest (by omega)

/-- **A condition in parentheses is read as the condition.** -/
theorem Reads.parenthesised {ts : List Token} {c : Condition} (h : Reads ts c) :
    Reads (opening :: ts ++ [closing]) c := by
  have hone : List.Forall₂ Reads [ts] [c] := .cons h .nil
  have hcondition : Connective.conditionOf? .and [c] = some c := rfl
  exact reads_group hone hcondition

/-- **The word before a factor negates it.** -/
theorem Reads.negated {ts : List Token} {c : Condition} (h : Reads ts c) : Reads (keyword .NOT :: ts) (not c) := by
  intro n rest hn
  rw [List.length_cons] at hn
  obtain ⟨n, rfl⟩ : ∃ m, n = m + 1 := ⟨n - 1, by omega⟩
  rw [List.cons_append, readFactor, h n rest (by omega)]
  rfl

/-- Tokens that are read as a test are read as a factor. -/
theorem reads_of_readTest {q : String} {ts : List Token} {c : Condition}
    (h : ∀ rest, readTest (name q :: (ts ++ rest)) = some (c, rest)) : Reads (name q :: ts) c := by
  intro n rest hn
  rw [List.length_cons] at hn
  obtain ⟨n, rfl⟩ : ∃ m, n = m + 1 := ⟨n - 1, by omega⟩
  rw [List.cons_append, readFactor, h rest]
  all_goals
    rintro _ e
    cases e

/-- **No value is one of none**: what is written for that is read as a factor. -/
theorem reads_never : Reads [number 1, op .eq, number 0] never := by
  intro n rest hn
  obtain ⟨n, rfl⟩ : ∃ m, n = m + 1 := ⟨n - 1, by rw [List.length_cons] at hn; omega⟩
  rw [List.cons_append, readFactor]
  · rfl
  all_goals
    rintro _ e
    cases e

theorem readSource_sourceTokens (t : TableRef) (rest : List Token) :
    readSource (sourceTokens t ++ keyword .WHERE :: rest) = some (t, keyword .WHERE :: rest) := by
  obtain ⟨table, aliasName⟩ := t
  cases aliasName <;> rfl

/-- **The question whether a table has a row** for which a condition holds is read as a factor. -/
theorem Reads.inSource {ts : List Token} {c : Condition} (h : Reads ts c) (source : TableRef) :
    Reads ([keyword .EXISTS, opening, keyword .SELECT, number 1, keyword .FROM] ++
      (sourceTokens source ++ keyword .WHERE :: (ts ++ [closing]))) (existsIn source c) := by
  intro n rest hn
  simp only [List.length_append, List.length_cons, List.length_nil] at hn
  obtain ⟨n, rfl⟩ : ∃ m, n = m + 3 := ⟨n - 3, by omega⟩
  -- the condition is read as a term and the only alternative, up to the end of the parentheses
  have hterm := readTerms_succ (h n (closing :: rest) (by omega)) (fun _ e => nomatch e)
  have halternative := readAlternatives_succ hterm (fun _ e => nomatch e)
  simp only [List.cons_append, List.nil_append, List.append_assoc, readFactor, readSource_sourceTokens, halternative,
    Option.bind_some, readClosing, Option.map_some]

/-- **A statement of tokens that are read as a condition is read as that condition.** -/
theorem read?_of_reads {s : Statement} {ts : List Token} {c : Condition}
    (hfill : fill (lex s.sql.toList) s.args = some ts) (h : Reads ts c) : read? s = some c := by
  have hread := h (2 * ts.length) [] (Nat.le_refl _)
  rw [List.append_nil] at hread
  have hterms := readTerms_succ hread (fun _ e => nomatch e)
  have halternatives := readAlternatives_succ hterms (fun _ e => nomatch e)
  simp only [read?, hfill, halternatives]

/-- `NOT` binds tighter than `AND`, and `AND` tighter than `OR`. -/
example : read? ⟨"a.x IS NULL OR NOT a.y = ? AND a.z IS NULL", [.null]⟩ =
    some (or (test (.nullCheck ⟨"a", "x"⟩ true))
      (and (not (test (.compare ⟨"a", "y"⟩ .eq .null))) (test (.nullCheck ⟨"a", "z"⟩ true)))) := by
  rfl

end Condition

end SchemaSql
