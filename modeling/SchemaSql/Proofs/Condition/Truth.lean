import SchemaSql.Proofs.Predicate.Proper

/-!
# What conditions come to

A condition of SQL holds, fails or is unknown. `Condition` is a condition as the grammar of SQL reads it:
tests of columns, joined two at a time by `AND` and `OR`, negated, or asking for a row of another table.
`Predicate.truth?` is the same for the trees of the library, in which a group has any number of members
and those without text do not count.

Both are read in a `World`, which says what every test comes to for the rows under consideration and which
rows the tables have. Nothing is assumed of either, so that what holds in every world holds whatever the
columns contain.
-/

namespace SchemaSql

/-- **What a condition comes to.** It is unknown when a null stands in the way. -/
inductive Truth where
  | holds
  | fails
  | unknown
deriving DecidableEq

namespace Truth

def not : Truth → Truth
  | holds => fails
  | fails => holds
  | unknown => unknown

def and : Truth → Truth → Truth
  | holds, t => t
  | fails, _ => fails
  | unknown, fails => fails
  | unknown, _ => unknown

def or : Truth → Truth → Truth
  | holds, _ => holds
  | fails, t => t
  | unknown, holds => holds
  | unknown, _ => unknown

/-- What a question with two answers comes to. -/
def ofBool (b : Bool) : Truth :=
  if b then holds else fails

end Truth

/-- **A test of columns**, the smallest part of a condition whose truth depends on rows. -/
inductive Test where
  | compare (column : ColumnRef) (op : Comparison) (value : Json)
  | oneOf (column : ColumnRef) (values : List Json)
  | nullCheck (column : ColumnRef) (isNull : Bool)
  | sameColumns (left right : ColumnRef)

/-- **A condition as the grammar reads it.** -/
inductive Condition where
  | test (t : Test)
  /-- The comparison of two different numbers. -/
  | never
  | not (c : Condition)
  | and (c d : Condition)
  | or (c d : Condition)
  | existsIn (source : TableRef) (c : Condition)

/-- The rows around a condition, each with the occurrence of its table, the innermost first. -/
abbrev Scope (ρ : Type) := List (TableRef × ρ)

/-- **What conditions are read in**: the rows that an occurrence of a table has, and what a test comes to,
for the rows around them. -/
structure World (ρ : Type) where
  rows : Scope ρ → TableRef → List ρ
  truth : Scope ρ → Test → Truth

variable {ρ : Type}

/-- **What a condition comes to** for the rows around it. -/
def Condition.truth (w : World ρ) : Scope ρ → Condition → Truth
  | scope, test t => w.truth scope t
  | _, never => .fails
  | scope, not c => (c.truth w scope).not
  | scope, and c d => (c.truth w scope).and (d.truth w scope)
  | scope, or c d => (c.truth w scope).or (d.truth w scope)
  | scope, existsIn source c =>
    .ofBool ((w.rows scope source).any fun r => c.truth w ((source, r) :: scope) = .holds)

namespace Connective

/-- What two parts that are joined come to. -/
def truth : Connective → Truth → Truth → Truth
  | and => Truth.and
  | or => Truth.or

/-- What changes nothing when it is joined. -/
def unit : Connective → Truth
  | and => .holds
  | or => .fails

/-- What the members of a group come to, if it has any. -/
def truthOf? (c : Connective) : List Truth → Option Truth
  | [] => none
  | t :: ts => some (c.truth t (ts.foldr c.truth c.unit))

/-- Two conditions joined. -/
def condition : Connective → Condition → Condition → Condition
  | and => Condition.and
  | or => Condition.or

/-- The members of a group joined two at a time, if it has any. -/
def conditionOf? (c : Connective) : List Condition → Option Condition
  | [] => none
  | [d] => some d
  | d :: e :: ds => (conditionOf? c (e :: ds)).map (c.condition d)

theorem truth_unit (c : Connective) (t : Truth) : c.truth t c.unit = t := by
  cases c <;> cases t <;> rfl

theorem truth_condition (c : Connective) (w : World ρ) (scope : Scope ρ) (d e : Condition) :
    (c.condition d e).truth w scope = c.truth (d.truth w scope) (e.truth w scope) := by
  cases c <;> rfl

/-- **A group joined two at a time comes to what its members come to.** -/
theorem truthOf?_map (c : Connective) (w : World ρ) (scope : Scope ρ) (ds : List Condition) :
    c.truthOf? (ds.map (Condition.truth w scope)) = (c.conditionOf? ds).map (Condition.truth w scope) := by
  induction ds with
  | nil => rfl
  | cons d ds ih =>
    cases ds with
    | nil =>
      simp only [List.map_cons, List.map_nil, truthOf?, List.foldr_nil, truth_unit, conditionOf?, Option.map_some]
    | cons e ds =>
      rw [List.map_cons, truthOf?] at ih
      rw [List.map_cons, List.map_cons, truthOf?, List.foldr_cons, conditionOf?, Option.map_map]
      cases hrest : c.conditionOf? (e :: ds) with
      | none => rw [hrest] at ih; cases ih
      | some r =>
        rw [hrest, Option.map_some, Option.some.injEq] at ih
        rw [Option.map_some, Function.comp_apply, truth_condition, ← ih]

/-- A group with members has a condition. -/
theorem conditionOf?_eq_none_iff {c : Connective} {ds : List Condition} : c.conditionOf? ds = none ↔ ds = [] := by
  fun_induction conditionOf? c ds with
  | case1 => simp only
  | case2 d => simp only [reduceCtorEq]
  | case3 d e ds ih => simp only [Option.map_eq_none_iff, ih, reduceCtorEq]

end Connective

namespace Predicate

mutual
/-- **What a predicate comes to** for the rows around it, `none` if it has no text. Members of a group
without text are left out, and no value is one of none. -/
def truth? (w : World ρ) : Scope ρ → Predicate → Option Truth
  | scope, compare c op v => some (w.truth scope (.compare c op v))
  | _, oneOf _ [] => some .fails
  | scope, oneOf c (v :: vs) => some (w.truth scope (.oneOf c (v :: vs)))
  | scope, nullCheck c isNull => some (w.truth scope (.nullCheck c isNull))
  | scope, sameColumns l r => some (w.truth scope (.sameColumns l r))
  | scope, group c members => c.truthOf? (truths w scope members)
  | scope, not inner => (inner.truth? w scope).map Truth.not
  | scope, existsIn source on =>
    some (.ofBool ((w.rows scope source).any fun r =>
      Connective.truthOf? .and (truths w ((source, r) :: scope) on) = some .holds))
/-- What the predicates with a text come to. -/
def truths (w : World ρ) : Scope ρ → List Predicate → List Truth
  | _, [] => []
  | scope, p :: ps => (p.truth? w scope).toList ++ truths w scope ps
end

mutual
/-- **The condition that a predicate stands for**, `none` if it has no text. -/
def condition? : Predicate → Option Condition
  | compare c op v => some (.test (.compare c op v))
  | oneOf _ [] => some .never
  | oneOf c (v :: vs) => some (.test (.oneOf c (v :: vs)))
  | nullCheck c isNull => some (.test (.nullCheck c isNull))
  | sameColumns l r => some (.test (.sameColumns l r))
  | group c members => c.conditionOf? (conditions members)
  | not inner => inner.condition?.map Condition.not
  | existsIn source on => (Connective.conditionOf? .and (conditions on)).map (Condition.existsIn source)
/-- The conditions of the predicates with a text. -/
def conditions : List Predicate → List Condition
  | [] => []
  | p :: ps => p.condition?.toList ++ conditions ps
end

mutual
/-- **A sound predicate without a condition is one without text.** -/
theorem condition?_eq_none_iff : ∀ {p : Predicate}, p.Sound → (p.condition? = none ↔ p.isEmpty = true)
  | compare _ _ _, _ => by simp only [condition?, isEmpty, reduceCtorEq]
  | oneOf _ [], _ => by simp only [condition?, isEmpty, reduceCtorEq]
  | oneOf _ (_ :: _), _ => by simp only [condition?, isEmpty, reduceCtorEq]
  | nullCheck _ _, _ => by simp only [condition?, isEmpty, reduceCtorEq]
  | sameColumns _ _, _ => by simp only [condition?, isEmpty, reduceCtorEq]
  | group c members, h => by
    rw [condition?, Connective.conditionOf?_eq_none_iff, conditions_eq_nil_iff h, isEmpty]
  | not inner, h => by
    rw [condition?, Option.map_eq_none_iff, condition?_eq_none_iff (p := inner) h, isEmpty]
  | existsIn source on, h => by
    simp only [condition?, Option.map_eq_none_iff, Connective.conditionOf?_eq_none_iff, conditions_eq_nil_iff h.2.1,
      h.2.2, isEmpty]
/-- Sound predicates have no conditions if all of them are without text. -/
theorem conditions_eq_nil_iff : ∀ {ps : List Predicate}, AllSound ps → (conditions ps = [] ↔ allEmpty ps = true)
  | [], _ => by simp only [conditions, allEmpty]
  | p :: ps, h => by
    rw [conditions, List.append_eq_nil_iff, Option.toList_eq_nil_iff, condition?_eq_none_iff h.1,
      conditions_eq_nil_iff h.2, allEmpty, Bool.and_eq_true]
end

mutual
/-- **A sound predicate comes to what its condition comes to**, in every world and for all rows around
it. -/
theorem truth?_eq (w : World ρ) : ∀ {p : Predicate} (scope : Scope ρ), p.Sound →
    p.truth? w scope = p.condition?.map (Condition.truth w scope)
  | compare _ _ _, _, _ => rfl
  | oneOf _ [], _, _ => rfl
  | oneOf _ (_ :: _), _, _ => rfl
  | nullCheck _ _, _, _ => rfl
  | sameColumns _ _, _, _ => rfl
  | group c members, scope, h => by
    rw [truth?, condition?, truths_eq w scope h, Connective.truthOf?_map]
  | not inner, scope, h => by
    rw [truth?, condition?, truth?_eq w (p := inner) scope h, Option.map_map, Option.map_map]
    rfl
  | existsIn source on, scope, h => by
    obtain ⟨_, hon, hsome⟩ := h
    have hne : Connective.conditionOf? .and (conditions on) ≠ none := by
      rw [ne_eq, Connective.conditionOf?_eq_none_iff, conditions_eq_nil_iff hon, hsome]
      exact Bool.false_ne_true
    obtain ⟨c, hc⟩ := Option.ne_none_iff_exists'.1 hne
    -- for each row the members of the group and the condition come to the same
    have hrow : ∀ r, Connective.truthOf? .and (truths w ((source, r) :: scope) on) =
        some (c.truth w ((source, r) :: scope)) := by
      intro r
      rw [truths_eq w _ hon, Connective.truthOf?_map, hc, Option.map_some]
    simp only [truth?, condition?, hc, hrow, Option.map_some, Condition.truth, Option.some.injEq]
/-- Sound predicates come to what their conditions come to. -/
theorem truths_eq (w : World ρ) : ∀ {ps : List Predicate} (scope : Scope ρ), AllSound ps →
    truths w scope ps = (conditions ps).map (Condition.truth w scope)
  | [], _, _ => rfl
  | p :: ps, scope, h => by
    rw [truths, conditions, List.map_append, truth?_eq w scope h.1, truths_eq w scope h.2]
    cases p.condition? <;> rfl
end

end Predicate

end SchemaSql
