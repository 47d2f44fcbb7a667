import Mathlib.Data.List.Sort
import SchemaSql.Database.Operation
import SchemaSql.Database.Reply
import SchemaSql.Proofs.Schema.Revalidation
import SchemaSql.Proofs.Steps

/-!
# What the rows of a join are read as

A schema takes from a row the columns whose labels it resolves to its fields, and of several for one field the last
(`Schema.Decides`); the collected values are told by that (`Schema.Collects`). The values of the first table are always
validated. Those of a joined table are not if all of them are null: then the row has no match there, whatever the table
demands of its fields (`Schema.Matches`). Rows are read in their order and the tables of a row in theirs, and the first
validation that fails ends the reading (`selectJoin_reads`).
-/

namespace SchemaSql

/-- **Of several entries with a key the last one counts**, in a form that shows where it stands. -/
theorem Keyed.get?_ofList_eq_some_iff {α : Type} {entries : List (String × α)} {key : String} {value : α} :
    Keyed.get? (Keyed.ofList entries) key = some value ↔
      ∃ before after, entries = before ++ (key, value) :: after ∧ ∀ e ∈ after, e.1 ≠ key := by
  rw [Keyed.get?_ofList, Option.map_eq_some_iff]
  constructor
  · rintro ⟨⟨_, _⟩, hlast, rfl⟩
    obtain ⟨picked, hpicked⟩ := List.getLast?_eq_some_iff.1 hlast
    obtain ⟨before, rest, rfl, -, hrest⟩ := List.filter_eq_append_iff.1 hpicked
    obtain ⟨between, after, rfl, -, hkey, hafter⟩ := List.filter_eq_cons_iff.1 hrest
    cases beq_iff_eq.1 hkey
    refine ⟨before ++ between, after, (List.append_assoc ..).symm, fun e he hkey => ?_⟩
    exact List.filter_eq_nil_iff.1 hafter e he (beq_iff_eq.2 hkey)
  · rintro ⟨before, after, rfl, hafter⟩
    have hnone : after.filter (fun e => e.1 == key) = [] :=
      List.filter_eq_nil_iff.2 fun e he hkey => hafter e he (beq_iff_eq.1 hkey)
    refine ⟨(key, value), ?_, rfl⟩
    rw [List.filter_append, List.filter_cons, if_pos (beq_self_eq_true key), hnone, List.getLast?_concat]

/-- **A value that is validated as null**: null itself, or a number that is not finite. -/
inductive SqlValue.Blank : SqlValue → Prop
  | null : Blank .null
  | float {x : Binary64} (h : x.finite? = none) : Blank (.float x)

theorem SqlValue.toJson_eq_null_iff {v : SqlValue} : v.toJson = .null ↔ v.Blank := by
  constructor
  · intro h
    cases v with
    | null => exact .null
    | float x =>
      rcases ScalarType.ofBinary64_cases x with ⟨y, -, hy⟩ | ⟨hnone, -⟩
      · cases hy.symm.trans h
      · exact .float hnone
    | int | text | bytes | bool | time => cases h
  · rintro (_ | @⟨x, hnone⟩)
    · rfl
    · rcases ScalarType.ofBinary64_cases x with ⟨y, hy, -⟩ | ⟨-, hjson⟩
      · cases hnone.symm.trans hy
      · exact hjson

namespace Schema

/-! ## What is taken from a row -/

/-- A schema resolves the label of a column to a field with a name. -/
def Resolves (s : Schema) (name : String) (column : String × SqlValue) : Prop :=
  ∃ f, s.fieldOfLabel? column.1 = some f ∧ f.name = name

/-- **The value that counts for a name**: that of the last column whose label is resolved to the name. -/
def Decides (s : Schema) (r : Row) (name : String) (v : SqlValue) : Prop :=
  ∃ before label after, r = before ++ (label, v) :: after ∧ s.Resolves name (label, v) ∧
    ∀ later ∈ after, ¬ s.Resolves name later

/-- **The values that a schema collects from a row**, in the form in which they are validated. -/
structure Collects (s : Schema) (r : Row) (values : Keyed Json) : Prop where
  sorted : Keyed.Sorted values
  get?_iff (name : String) (x : Json) : values.get? name = some x ↔ ∃ v, s.Decides r name v ∧ v.toJson = x

/-- **What the validation of the collected values comes to.** -/
def Reads (s : Schema) (r : Row) (result : Except Error RecordValue) : Prop :=
  ∃ values, s.Collects r values ∧ s.validate (.object values) = result

/-- **A row has no match in a table**: it has nothing but nulls for it. -/
def Unmatched (s : Schema) (r : Row) : Prop :=
  ∀ name v, s.Decides r name v → v.toJson = .null

/-- **What a row has for a joined table**: nothing if it has no match there, and otherwise the valid record value. -/
structure Matches (s : Schema) (r : Row) (found : Option RecordValue) : Prop where
  none_iff : found = none ↔ s.Unmatched r
  valid : ∀ o, found = some o → s.Reads r (.ok o)

end Schema

/-- **A row of joined tables is read** as the record value of the first one and what it has for the others. -/
structure JoinedRow.Reads (base : Schema) (joined : List Schema) (r : Row) (row : JoinedRow) : Prop where
  first : base.Reads r (.ok row.base)
  others : List.Forall₂ (fun s found => s.Matches r found) joined row.joined

/-- **A row of joined tables is refused** with the first error of a validation: that of the first table, or behind it
that of the first joined table that the row has a match in but not a valid one. -/
inductive JoinedRow.Refuses (base : Schema) (joined : List Schema) (r : Row) (e : Error) : Prop
  | first (h : base.Reads r (.error e))
  | other {o : RecordValue} {before : List Schema} {s : Schema} {after : List Schema} (first : base.Reads r (.ok o))
    (split : joined = before ++ s :: after) (earlier : ∀ t ∈ before, ∃ found, t.Matches r found)
    (found : ¬ s.Unmatched r) (h : s.Reads r (.error e))

namespace Schema

variable {s : Schema} {r : Row}

/-- **What is found for a name in a row** is the value that counts for it. -/
theorem collects_rowValues (s : Schema) (r : Row) : s.Collects r (s.rowValues r) := by
  refine ⟨Keyed.sorted_ofList _, fun name x => ?_⟩
  rw [rowValues, Keyed.get?_ofList_eq_some_iff]
  constructor
  · rintro ⟨before, after, hentries, hafter⟩
    obtain ⟨first, rest, rfl, -, hrest⟩ := List.filterMap_eq_append_iff.1 hentries
    obtain ⟨between, ⟨label, v⟩, later, rfl, -, hcolumn, hlater⟩ := List.filterMap_eq_cons_iff.1 hrest
    obtain ⟨f, hf, hentry⟩ := Option.map_eq_some_iff.1 hcolumn
    obtain ⟨hname, hx⟩ := Prod.mk.inj hentry
    refine ⟨v, ⟨first ++ between, label, later, (List.append_assoc ..).symm, ⟨f, hf, hname⟩, ?_⟩, hx⟩
    rintro column hmem ⟨g, hg, rfl⟩
    refine hafter (g.name, column.2.toJson) ?_ rfl
    exact hlater ▸ List.mem_filterMap.2 ⟨column, hmem, Option.map_eq_some_iff.2 ⟨g, hg, rfl⟩⟩
  · rintro ⟨v, ⟨before, label, after, rfl, ⟨f, hf, rfl⟩, hafter⟩, rfl⟩
    refine ⟨_, _, by rw [List.filterMap_append, List.filterMap_cons_some (by rw [hf]; rfl)], fun e he hname => ?_⟩
    obtain ⟨column, hmem, hcolumn⟩ := List.mem_filterMap.1 he
    obtain ⟨g, hg, rfl⟩ := Option.map_eq_some_iff.1 hcolumn
    exact hafter column hmem ⟨g, hg, hname⟩

/-- **No other values are collected.** -/
theorem Collects.eq {values : Keyed Json} (h : s.Collects r values) : values = s.rowValues r := by
  have hcollects := s.collects_rowValues r
  refine h.sorted.eq_of_mem_iff hcollects.sorted fun ⟨name, x⟩ => ?_
  rw [h.sorted.mem_iff, hcollects.sorted.mem_iff, h.get?_iff, hcollects.get?_iff]

theorem reads_iff {result : Except Error RecordValue} : s.Reads r result ↔ s.readRow r = result := by
  constructor
  · rintro ⟨values, hvalues, rfl⟩
    rw [hvalues.eq, readRow]
  · exact fun h => ⟨s.rowValues r, s.collects_rowValues r, h⟩

theorem isUnmatched_iff : s.isUnmatched r = true ↔ s.Unmatched r := by
  have hcollects := s.collects_rowValues r
  rw [isUnmatched, List.all_eq_true]
  constructor
  · intro h name v hv
    have hfound := (hcollects.get?_iff name v.toJson).2 ⟨v, hv, rfl⟩
    exact Json.isNull_iff.1 (h (name, v.toJson) (hcollects.sorted.mem_iff.2 hfound))
  · rintro h ⟨name, x⟩ he
    obtain ⟨v, hv, rfl⟩ := (hcollects.get?_iff name x).1 (hcollects.sorted.mem_iff.1 he)
    exact Json.isNull_iff.2 (h name v hv)

/-- A row has a match exactly where a value counts that is not validated as null. -/
theorem not_unmatched_iff : ¬ s.Unmatched r ↔ ∃ name v, s.Decides r name v ∧ ¬ v.Blank := by
  simp only [Unmatched, SqlValue.toJson_eq_null_iff, not_forall, exists_prop]

/-- **Without a match nothing is validated.** -/
theorem readMatch_eq_ok_iff {found : Option RecordValue} : s.readMatch r = .ok found ↔ s.Matches r found := by
  rw [readMatch]
  split
  · rename_i hnone
    have hun := isUnmatched_iff.1 hnone
    constructor
    · intro h
      cases h
      exact ⟨iff_of_true rfl hun, nofun⟩
    · exact fun h => congrArg Except.ok (h.none_iff.2 hun).symm
  · rename_i hsome
    have hun : ¬ s.Unmatched r := fun h => hsome (isUnmatched_iff.2 h)
    cases hr : s.readRow r with
    | ok o =>
      constructor
      · intro h
        cases h
        refine ⟨iff_of_false nofun hun, fun o' ho => ?_⟩
        cases ho
        exact reads_iff.2 hr
      · intro h
        cases found with
        | none => exact absurd (h.none_iff.1 rfl) hun
        | some o' =>
          cases hr.symm.trans (reads_iff.1 (h.valid o' rfl))
          rfl
    | error e =>
      refine iff_of_false nofun fun h => ?_
      cases found with
      | none => exact hun (h.none_iff.1 rfl)
      | some o => cases hr.symm.trans (reads_iff.1 (h.valid o rfl))

/-- A joined table is read unless it refuses a match. -/
theorem exists_readMatch_iff :
    (∃ found, s.readMatch r = .ok found) ↔
      ((∃ name v, s.Decides r name v ∧ ¬ v.Blank) → ∃ o, s.Reads r (.ok o)) := by
  simp only [← not_unmatched_iff, ← isUnmatched_iff, readMatch, reads_iff]
  split
  · rename_i hnone
    exact iff_of_true ⟨none, rfl⟩ fun h => absurd hnone h
  · rename_i hsome
    cases s.readRow r with
    | ok o => exact iff_of_true ⟨some o, rfl⟩ fun _ => ⟨o, rfl⟩
    | error e => exact iff_of_false nofun fun h => nomatch h hsome

/-- **Only a match can be refused.** -/
theorem readMatch_eq_error_iff {e : Error} : s.readMatch r = .error e ↔ ¬ s.Unmatched r ∧ s.Reads r (.error e) := by
  rw [readMatch, ← isUnmatched_iff, reads_iff]
  split
  · rename_i hnone
    exact iff_of_false nofun fun h => h.1 hnone
  · rename_i hsome
    cases s.readRow r with
    | ok o => exact iff_of_false nofun fun h => nomatch h.2
    | error e' => exact ⟨fun h => by cases h; exact ⟨hsome, rfl⟩, fun h => by cases h.2; rfl⟩

end Schema

namespace JoinedRow

variable {base : Schema} {joined : List Schema} {r : Row}

theorem read_eq_ok_iff {row : JoinedRow} : JoinedRow.read base joined r = .ok row ↔ row.Reads base joined r := by
  simp only [JoinedRow.read, bind_eq_ok_iff, mapM_eq_ok_iff, Schema.readMatch_eq_ok_iff, ← Schema.reads_iff]
  constructor
  · rintro ⟨first, hfirst, others, hothers, h⟩
    cases h
    exact ⟨hfirst, hothers⟩
  · exact fun h => ⟨row.base, h.first, row.joined, h.others, rfl⟩

theorem read_eq_error_iff {e : Error} : JoinedRow.read base joined r = .error e ↔ Refuses base joined r e := by
  simp only [JoinedRow.read, bind_eq_error_iff, mapM_eq_error_iff, Schema.readMatch_eq_ok_iff,
    Schema.readMatch_eq_error_iff, ← Schema.reads_iff]
  constructor
  · rintro (h | ⟨o, ho, ⟨before, s, after, hsplit, hbefore, hfound, h⟩ | ⟨_, -, h⟩⟩)
    · exact .first h
    · exact .other ho hsplit hbefore hfound h
    · cases h
  · rintro (h | ⟨ho, hsplit, hbefore, hfound, h⟩)
    · exact .inl h
    · exact .inr ⟨_, ho, .inl ⟨_, _, _, hsplit, hbefore, hfound, h⟩⟩

theorem exists_read_iff :
    (∃ row, JoinedRow.read base joined r = .ok row) ↔
      (∃ o, base.Reads r (.ok o)) ∧
        ∀ s ∈ joined, (∃ name v, s.Decides r name v ∧ ¬ v.Blank) → ∃ o, s.Reads r (.ok o) := by
  have hjoined : (∃ others, joined.mapM (fun s => s.readMatch r) = .ok others) ↔
      ∀ s ∈ joined, (∃ name v, s.Decides r name v ∧ ¬ v.Blank) → ∃ o, s.Reads r (.ok o) :=
    exists_mapM_iff.trans (forall₂_congr fun _ _ => Schema.exists_readMatch_iff)
  rw [← hjoined]
  simp only [JoinedRow.read, bind_eq_ok_iff, Schema.reads_iff]
  constructor
  · rintro ⟨_, first, hfirst, others, hothers, -⟩
    exact ⟨⟨first, hfirst⟩, others, hothers⟩
  · rintro ⟨⟨first, hfirst⟩, others, hothers⟩
    exact ⟨_, first, hfirst, others, hothers, rfl⟩

end JoinedRow

/-- **What a join returns for the rows of a database**, whatever these are. It succeeds with what each row is read as,
in the order of the rows. It fails with the error of the first row that is refused, behind rows that are read. No other
value than one that counts and is not validated as null can make a joined table fail it. -/
theorem selectJoin_reads {σ : Type} {db : Database σ} {state : σ} {base : Schema} {joined : List Schema}
    {joins : List Join} {filter : Option Predicate} {q : Statement} {rows : List Row}
    (hbuild : Assembly.selectJoin base (Exchange.joinColumns base joined) joins filter = .ok q)
    (hanswer : (db.query q state).1 = .ok rows) :
    let result := ((Exchange.selectJoin base joined joins filter).run db state).result
    (∀ out, result = .ok out ↔ List.Forall₂ (fun r row => JoinedRow.Reads base joined r row) rows out) ∧
      (∀ e, result = .error e ↔
        ∃ before r after, rows = before ++ r :: after ∧
          (∀ earlier ∈ before, ∃ row, JoinedRow.Reads base joined earlier row) ∧ JoinedRow.Refuses base joined r e) ∧
      ((∃ out, result = .ok out) ↔
        ∀ r ∈ rows, (∃ o, base.Reads r (.ok o)) ∧
          ∀ s ∈ joined, (∃ name v, s.Decides r name v ∧ ¬ v.Blank) → ∃ o, s.Reads r (.ok o)) := by
  intro result
  have hresult : result = rows.mapM (JoinedRow.read base joined) := by
    show ((Exchange.selectJoin base joined joins filter).run db state).result = _
    rw [Exchange.selectJoin, hbuild, Exchange.run_ask_ok, hanswer]
    rfl
  rw [hresult]
  refine ⟨fun out => ?_, fun e => ?_, ?_⟩
  · simp only [mapM_eq_ok_iff, JoinedRow.read_eq_ok_iff]
  · simp only [mapM_eq_error_iff, JoinedRow.read_eq_ok_iff, JoinedRow.read_eq_error_iff]
  · simp only [exists_mapM_iff, JoinedRow.exists_read_iff]

/-- Members, and the profiles that some of them have. -/
def members : Schema :=
  ⟨"members", "members", [{ name := "ID", column := "id", type := .signed .w64, primaryKey := true }]⟩

def profiles : Schema :=
  ⟨"profiles", "profiles",
    [{ name := "MemberID", column := "member_id", type := .signed .w64, notNull := true },
      { name := "Bio", column := "bio", type := .text }]⟩

/-- A row for a member, with what stands in the columns of the profile. -/
def memberRow (id : Int64) (memberId bio : SqlValue) : Row :=
  [("members__id", .int id), ("profiles__member_id", memberId), ("profiles__bio", bio)]

/-- A member without a profile is read although the profiles refuse null. A profile without a member is refused, behind
what was read before it. -/
theorem selectJoin_reads_profiles :
    let join : Join := .of .left ⟨"members", "members", "id", "ID", .signed .w64⟩
      ⟨"profiles", "profiles", "member_id", "MemberID", .signed .w64⟩ none
    let answer := fun rows => ((Exchange.selectJoin members [profiles] [join] none).run Reply.database
      [.answer rows {}]).result
    let one : JoinedRow := ⟨⟨"members", [("ID", .int { val := 1 })]⟩,
      [some ⟨"profiles", [("Bio", .string "hi"), ("MemberID", .int { val := 1 })]⟩]⟩
    let two : JoinedRow := ⟨⟨"members", [("ID", .int { val := 2 })]⟩, [none]⟩
    let found := [memberRow 1 (.int 1) (.text "hi"), memberRow 2 .null (.float .nan)]
    answer found = .ok [one, two] ∧
      List.Forall₂ (fun r row => JoinedRow.Reads members [profiles] r row) found [one, two] ∧
      answer (found ++ [memberRow 3 .null (.text "lost")]) = .error (.validation (.nullNotAllowed "MemberID")) ∧
      JoinedRow.Refuses members [profiles] (memberRow 3 .null (.text "lost"))
        (.validation (.nullNotAllowed "MemberID")) := by
  intro join answer one two found
  have hfound : answer found = .ok [one, two] := rfl
  have hlost : answer (found ++ [memberRow 3 .null (.text "lost")]) = .error (.validation (.nullNotAllowed "MemberID")) :=
    rfl
  refine ⟨hfound, ((selectJoin_reads rfl rfl).1 _).1 hfound, hlost, ?_⟩
  exact JoinedRow.read_eq_error_iff.1 rfl

end SchemaSql
