import SchemaSql.Proofs.Predicate.Occurrence
import SchemaSql.Proofs.Statement.Emptiness

/-!
# What a join gathers

A join begins with the pair of columns that its constructor compares. Filters and other joins of the same occurrence are
added behind. `Join.Gathered` says which additions a join came about by, in their order, and the invariant is that its
conditions are these additions (`Join.Gathered.on_eq`): the right column of every pair stands behind the name of the
joined table, also where the pair was gathered by another join first, since joins are put together only under one name.

So the clause of a join and the predicate that it has a match have one group in common, which is never empty
(`Join.Gathered.joins`). Putting joins together is associative, wherever it succeeds.
-/

namespace SchemaSql

namespace Join

/-- **What is added to a join**: the columns that a constructor compares, or the predicate of a filter. -/
inductive Addition where
  | pair (left right : FieldRef)
  | filter (p : Predicate)

/-- What an addition becomes in a join of a table that has a name. Behind this name stands the second column of a pair;
a filter without a text becomes nothing. -/
def Addition.predicate? (qualifier : String) : Addition → Option Predicate
  | pair left right => some (.sameColumns left.ref ⟨qualifier, right.column⟩)
  | filter p => if p.isEmpty then none else some p

/-- **A join that came about by additions**, in this order. -/
inductive Gathered : Join → List Addition → Prop
  | of (kind : JoinKind) (left right : FieldRef) (asked : Option String) :
    Gathered (Join.of kind left right asked) [.pair left right]
  | and {j k m : Join} {added others : List Addition} (hj : Gathered j added) (hk : Gathered k others)
    (h : j.and k = .ok m) : Gathered m (added ++ others)
  | filter {j : Join} {added : List Addition} (hj : Gathered j added) (p : Predicate) :
    Gathered (j.filter p) (added ++ [.filter p])

/-- **A join on given predicates.** The clause of the join and the predicate that it has a match name the same target,
with the alias if the joined table goes by one, and have the predicates in one group. -/
structure JoinsOn (j : Join) (ps : List Predicate) : Prop where
  on : j.on = ps
  nonempty : ps ≠ []
  texts : ∀ p ∈ ps, p.assemble.sql ≠ ""
  target : j.source.aliasName = some j.qualifier ∧ j.source.text = j.source.table ++ " AS " ++ j.qualifier ∨
    j.source.aliasName = none ∧ j.qualifier = j.source.table ∧ j.source.text = j.source.table
  clause : j.assemble =
    ⟨j.kind.sql ++ " " ++ j.source.text ++ " ON " ++ (Predicate.groupStatement .and ps).sql,
      (Predicate.groupStatement .and ps).args⟩
  hasMatch : j.hasMatch.assemble =
    ⟨"EXISTS (SELECT 1 FROM " ++ j.source.text ++ " WHERE " ++ (Predicate.groupStatement .and ps).sql ++ ")",
      (Predicate.groupStatement .and ps).args⟩

variable {j k l m : Join} {added : List Addition} {p : Predicate}

/-! ## Joins put together -/

/-- **Joins are put together** exactly if they are of one table under one name; the first one keeps what it has, and gets
the predicates of the other one behind. -/
theorem and_eq_ok_iff :
    j.and k = .ok m ↔
      (k.source.table = j.source.table ∧ k.qualifier = j.qualifier) ∧ m = { j with on := j.on ++ k.on } := by
  rw [and]
  split
  · rename_i h
    exact iff_of_false nofun fun hm => h.elim (fun ht => ht hm.1.1) fun hq => hq hm.1.2
  · rename_i h
    obtain ⟨htable, hname⟩ := not_or.1 h
    rw [and_iff_right ⟨not_ne_iff.1 htable, not_ne_iff.1 hname⟩, Except.ok.injEq, eq_comm]

/-- **It does not matter which two of three joins are put together first.** -/
theorem and_assoc_ok : (j.and k >>= fun a => a.and l) = .ok m ↔ (k.and l >>= fun b => j.and b) = .ok m := by
  simp only [bind_eq_ok_iff, and_eq_ok_iff]
  constructor
  · rintro ⟨_, ⟨⟨hkt, hkq⟩, rfl⟩, ⟨hlt, hlq⟩, rfl⟩
    refine ⟨_, ⟨⟨hlt.trans hkt.symm, hlq.trans hkq.symm⟩, rfl⟩, ⟨hkt, hkq⟩, ?_⟩
    rw [List.append_assoc]
  · rintro ⟨_, ⟨⟨hlt, hlq⟩, rfl⟩, ⟨hkt, hkq⟩, rfl⟩
    refine ⟨_, ⟨⟨hkt, hkq⟩, rfl⟩, ⟨hlt.trans hkt, hlq.trans hkq⟩, ?_⟩
    rw [List.append_assoc]

theorem filter_of_isEmpty (h : p.isEmpty = true) (j : Join) : j.filter p = j := by
  rw [filter, if_pos h]

/-! ## The conditions of a join -/

/-- **The conditions of a join are what was added to it**, the pairs under the name of the joined table. -/
theorem Gathered.on_eq (h : j.Gathered added) : j.on = added.filterMap (Addition.predicate? j.qualifier) := by
  induction h with
  | of kind left right asked => exact on_of kind left right asked
  | @and j k m added others _ _ h ihj ihk =>
    obtain ⟨⟨-, hname⟩, rfl⟩ := and_eq_ok_iff.1 h
    -- the pairs of the other join stand under its name, which is the same
    have hkeep : Join.qualifier { j with on := j.on ++ k.on } = j.qualifier := rfl
    rw [hkeep, List.filterMap_append, ← ihj, ← hname, ← ihk]
  | @filter j added _ p ih =>
    have hkeep : (j.filter p).qualifier = j.qualifier := by
      rw [Join.filter]
      split <;> rfl
    rw [hkeep, List.filterMap_append, ← ih, Join.filter]
    cases hp : p.isEmpty with
    | true => simp [Addition.predicate?, hp]
    | false => simp [Addition.predicate?, hp]

theorem Gathered.exists_pair (h : j.Gathered added) : ∃ left right rest, added = .pair left right :: rest := by
  induction h with
  | of kind left right asked => exact ⟨left, right, [], rfl⟩
  | and _ _ _ ihj _ =>
    obtain ⟨left, right, rest, rfl⟩ := ihj
    exact ⟨left, right, _, rfl⟩
  | filter _ _ ih =>
    obtain ⟨left, right, rest, rfl⟩ := ih
    exact ⟨left, right, _, rfl⟩

/-- No condition of a join is empty. -/
theorem isEmpty_eq_false_of_mem {qualifier : String} (h : p ∈ added.filterMap (Addition.predicate? qualifier)) :
    p.isEmpty = false := by
  obtain ⟨a, -, ha⟩ := List.mem_filterMap.1 h
  cases a with
  | pair left right =>
    cases ha
    rfl
  | filter q =>
    rw [Addition.predicate?] at ha
    split at ha
    · cases ha
    · rename_i hq
      cases ha
      exact Bool.eq_false_iff.2 hq

theorem target_cases (j : Join) :
    j.source.aliasName = some j.qualifier ∧ j.source.text = j.source.table ++ " AS " ++ j.qualifier ∨
      j.source.aliasName = none ∧ j.qualifier = j.source.table ∧ j.source.text = j.source.table := by
  rw [qualifier, TableRef.qualifier, TableRef.text]
  cases h : j.source.aliasName with
  | none => exact .inr ⟨rfl, rfl, rfl⟩
  | some a => exact .inl ⟨rfl, rfl⟩

/-- **A join on predicates that all have a text** has them in one group, in its clause and in its match. -/
theorem joinsOn (hne : j.on ≠ []) (htexts : ∀ p ∈ j.on, p.isEmpty = false) : j.JoinsOn j.on := by
  have hpresent : Predicate.present (j.on.map some) = j.on := by
    rw [Predicate.present_eq, List.filterMap_map, Function.id_comp, List.filterMap_some, List.filter_eq_self]
    exact fun p hp => Bool.not_eq_true' _ ▸ htexts p hp
  have hgroup : j.onGroup = Predicate.groupStatement .and j.on := by
    rw [onGroup, Predicate.all, Predicate.assemble_ofMembers, hpresent, if_neg hne]
  refine ⟨rfl, hne, fun p hp => ?_, j.target_cases, ?_, ?_⟩
  · rw [ne_eq, ← Predicate.isEmpty_iff_assemble_sql, htexts p hp]
    exact Bool.false_ne_true
  · rw [assemble, hgroup]
  · rw [assemble_hasMatch, hgroup]
    rfl

/-- **A gathered join is on what was added to it.** Its group is not empty, has the additions in their order, every pair
under the name of the joined table, and is the same in the clause and in the match. An empty filter changes nothing.
Joins are put together exactly if they are of one table under one name, behind what the first one has, and it does not
matter in which order this is done. -/
theorem Gathered.joins (h : j.Gathered added) :
    j.JoinsOn (added.filterMap (Addition.predicate? j.qualifier)) ∧
      (∀ p : Predicate, p.isEmpty = true → j.filter p = j) ∧
      (∀ k m, j.and k = .ok m ↔
        (k.source.table = j.source.table ∧ k.qualifier = j.qualifier) ∧ m = { j with on := j.on ++ k.on }) ∧
      ∀ k l m, (j.and k >>= fun a => a.and l) = .ok m ↔ (k.and l >>= fun b => j.and b) = .ok m := by
  refine ⟨?_, fun p hp => filter_of_isEmpty hp j, fun k m => and_eq_ok_iff, fun k l m => and_assoc_ok⟩
  obtain ⟨left, right, rest, rfl⟩ := h.exists_pair
  rw [← h.on_eq]
  apply joinsOn
  · rw [h.on_eq]
    exact List.cons_ne_nil _ _
  · intro p hp
    rw [h.on_eq] at hp
    exact isEmpty_eq_false_of_mem hp

/-- Accounts joined to themselves under one alias, which comes from the join itself, from the field, and from the caller:
the joins are put together, with a filter between them that has no text and one that has. -/
theorem Gathered.joins_accounts :
    let id : FieldRef := ⟨"accounts", "accounts", "id", "ID", .signed .w64⟩
    let manager : FieldRef := ⟨"accounts", "accounts", "manager_id", "ManagerID", .signed .w64⟩
    let other := id.aliased "accounts_2"
    let later : Predicate := .not (other.compare .lt (.int { val := 9 }))
    let j : Join :=
      ⟨.left, ⟨"accounts", some "accounts_2"⟩,
        [.sameColumns manager.ref other.ref, later, .sameColumns id.ref (manager.aliased "accounts_2").ref,
          .sameColumns id.ref other.ref]⟩
    let added : List Addition :=
      [.pair manager id, .filter (.any []), .filter later, .pair id (manager.aliased "accounts_2"), .pair id id]
    j.Gathered added ∧ j.JoinsOn (added.filterMap (Addition.predicate? "accounts_2")) ∧
      j.assemble.sql =
        "LEFT JOIN accounts AS accounts_2 ON (accounts.manager_id = accounts_2.id AND NOT (accounts_2.id < ?) AND " ++
          "accounts.id = accounts_2.manager_id AND accounts.id = accounts_2.id)" := by
  intro id manager other later j added
  have hfirst := ((Gathered.of .left manager id none).filter (.any [])).filter later
  have hsecond := (Gathered.of .inner id (manager.aliased "accounts_2") none).and
    (Gathered.of .inner id id (some "accounts_2")) rfl
  have hj : j.Gathered added := hfirst.and hsecond rfl
  refine ⟨hj, hj.joins.1, ?_⟩
  rw [j.assemble_eq]
  decide +kernel

end Join

end SchemaSql
