import SchemaSql.Fallible
import SchemaSql.Proofs.Predicate.Layout
import SchemaSql.Statement.Assembly

/-!
# Requests for statements

A request asks for one of the seven statements, with everything that the statement is built of. The lemmas
`select_ok` to `selectPage_ok` say what a statement consists of when it is built at all; whatever is proved of
built statements goes through them. `Request.Proper` says that schemas, references, predicates and joins were
made by the library and have names that can stand in a statement, and then the question marks of the
statement are those of its values (`Request.Proper.plain`).
-/

namespace SchemaSql

/-- **What a statement is built of.** -/
inductive Request where
  | select (schema : Option Schema) (filter : Option Predicate)
  | selectJoin (base : Schema) (columns : List FieldRef) (joins : List Join) (filter : Option Predicate)
  | insert (schema : Schema) (values : ValueSource)
  | update (schema : Schema) (values : ValueSource) (filter : Option Predicate)
  | delete (schema : Schema) (filter : Option Predicate)
  | count (schema : Schema) (filter : Option Predicate)
  | selectPage (schema : Option Schema) (filter : Option Predicate) (page : Page)

namespace Request

/-- **The statement that is asked for**, or why there is none. -/
def assemble : Request → Except Error Statement
  | select s filter => Assembly.select s filter
  | selectJoin base columns joins filter => Assembly.selectJoin base columns joins filter
  | insert s values => Assembly.insert s values
  | update s values filter => Assembly.update s values filter
  | delete s filter => Assembly.delete s filter
  | count s filter => Assembly.count s filter
  | selectPage s filter page => Assembly.selectPage s filter page

/-- The pieces of the statement that is asked for. -/
def build : Request → Except Error Fragment
  | select s filter => Build.select s filter
  | selectJoin base columns joins filter => Build.selectJoin base columns joins filter
  | insert s values => Build.insert s values
  | update s values filter => Build.update s values filter
  | delete s filter => Build.delete s filter
  | count s filter => Build.count s filter
  | selectPage s filter page => Build.selectPage s filter page

/-- **A request made of what the library makes**, under names that can stand in a statement. Nothing is asked
of the values. -/
def Proper : Request → Prop
  | select s filter => (∀ t ∈ s, t.Proper) ∧ ∀ p ∈ filter, p.Proper
  | selectJoin base columns joins filter =>
    base.Proper ∧ (∀ c ∈ columns, c.Proper) ∧ (∀ j ∈ joins, j.Proper) ∧ ∀ p ∈ filter, p.Proper
  | insert s _ => s.Proper
  | update s _ filter => s.Proper ∧ ∀ p ∈ filter, p.Proper
  | delete s filter => s.Proper ∧ ∀ p ∈ filter, p.Proper
  | count s filter => s.Proper ∧ ∀ p ∈ filter, p.Proper
  | selectPage s filter page => (∀ t ∈ s, t.Proper) ∧ (∀ p ∈ filter, p.Proper) ∧ ∀ o ∈ page.order, o.1.Proper

end Request

/-! ## What built statements consist of -/

namespace Build

variable {s : Schema} {os : Option Schema} {values : ValueSource} {filter : Option Predicate} {f : Fragment}

theorem nonEmpty_ok (h : nonEmpty os = .ok s) : os = some s := by
  unfold nonEmpty at h
  split at h
  · split at h <;> cases h
    rfl
  · cases h

/-- A table is a target exactly if it occurs under its own name. -/
theorem unaliased_eq_ok_iff {verb : Verb} : unaliased verb s = .ok () ↔ s.isAliased = false := by
  rw [unaliased]
  cases s.isAliased with
  | true => exact iff_of_false nofun nofun
  | false => exact iff_of_true rfl rfl

theorem required_ok {verb : Verb} (h : required verb filter = .ok f) :
    ∃ p, filter = some p ∧ p.isEmpty = false ∧ f = p.render := by
  unfold required at h
  split at h
  · rename_i p
    split at h
    · cases h
    · rename_i hp
      cases h
      exact ⟨p, rfl, Predicate.isEmpty_render p ▸ Bool.eq_false_iff.2 hp, rfl⟩
  · cases h

theorem someAssignments_ok {verb : Verb} {cs : List (String × Json)} (h : someAssignments verb s values = .ok cs) :
    cs = assignments s values := by
  simp only [someAssignments] at h
  split at h
  · cases h
  · exact (Except.ok.inj h).symm

theorem select_ok (h : select os filter = .ok f) :
    ∃ s, os = some s ∧
      f = .text ("SELECT " ++ projection s.refs ++ " FROM " ++ s.source.text) :: Predicate.whereClause filter := by
  obtain ⟨s, hs, hf⟩ := bind_eq_ok_iff.1 h
  exact ⟨s, nonEmpty_ok hs, (Except.ok.inj hf).symm⟩

theorem selectJoin_ok {columns : List FieldRef} {joins : List Join}
    (h : selectJoin s columns joins filter = .ok f) :
    f = .text ("SELECT " ++ projection columns ++ " FROM " ++ s.source.text) ::
      joins.flatMap (fun j => .text " " :: j.clause) ++ Predicate.whereClause filter := by
  unfold selectJoin at h
  split at h
  · cases h
  · exact (Except.ok.inj h).symm

theorem insert_ok (h : insert s values = .ok f) :
    f = .text ("INSERT INTO " ++ s.table ++ " (" ++ ", ".intercalate ((assignments s values).map (·.1)) ++
      ") VALUES (") :: Fragment.values ((assignments s values).map (·.2)) ++ [.text ")"] := by
  obtain ⟨cs, hcs, hf⟩ := bind_eq_ok_iff.1 h
  rw [← someAssignments_ok hcs]
  exact (Except.ok.inj hf).symm

theorem update_ok (h : update s values filter = .ok f) :
    ∃ p, filter = some p ∧ p.isEmpty = false ∧
      f = .text ("UPDATE " ++ s.table ++ " SET ") ::
        Fragment.joined ", " ((assignments s values).map fun c => [.text (c.1 ++ " = "), .value c.2]) ++
          .text " WHERE " :: p.render := by
  obtain ⟨_, -, h⟩ := bind_eq_ok_iff.1 h
  obtain ⟨condition, hcondition, h⟩ := bind_eq_ok_iff.1 h
  obtain ⟨cs, hcs, hf⟩ := bind_eq_ok_iff.1 h
  obtain ⟨p, hp, hempty, rfl⟩ := required_ok hcondition
  refine ⟨p, hp, hempty, ?_⟩
  rw [← someAssignments_ok hcs]
  exact (Except.ok.inj hf).symm

theorem delete_ok (h : delete s filter = .ok f) :
    ∃ p, filter = some p ∧ p.isEmpty = false ∧ f = .text ("DELETE FROM " ++ s.table ++ " WHERE ") :: p.render := by
  obtain ⟨_, -, h⟩ := bind_eq_ok_iff.1 h
  obtain ⟨condition, hcondition, hf⟩ := bind_eq_ok_iff.1 h
  obtain ⟨p, hp, hempty, rfl⟩ := required_ok hcondition
  exact ⟨p, hp, hempty, (Except.ok.inj hf).symm⟩

theorem selectPage_ok {page : Page} (h : selectPage os filter page = .ok f) :
    ∃ s, os = some s ∧
      f = .text ("SELECT " ++ projection s.refs ++ " FROM " ++ s.source.text) :: Predicate.whereClause filter ++
        [.text (orderClause s page ++ " LIMIT "), .value (.word page.limit), .text " OFFSET ",
          .value (.word page.offset)] := by
  obtain ⟨rows, hrows, h⟩ := bind_eq_ok_iff.1 h
  obtain ⟨s, hs, hf⟩ := bind_eq_ok_iff.1 h
  obtain ⟨t, ht, rfl⟩ := select_ok hrows
  obtain rfl : t = s := Option.some.inj (ht.symm.trans (nonEmpty_ok hs))
  exact ⟨t, ht, (Except.ok.inj hf).symm⟩

/-! ## Question marks of built statements -/

theorem unmarked_projection {cs : List FieldRef} (h : ∀ c ∈ cs, c.Proper) : Unmarked (projection cs) := by
  apply unmarked_intercalate (by decide)
  intro t ht
  obtain ⟨c, hc, rfl⟩ := List.mem_map.1 ht
  have hvalid := (h c hc).ref_valid
  simp +decide [ColumnRef.label, hvalid.unmarked, hvalid.1.unmarked, hvalid.2.unmarked]

theorem unmarked_orderClause (hs : s.Proper) {page : Page} (hp : ∀ o ∈ page.order, o.1.Proper) :
    Unmarked (orderClause s page) := by
  have hterm : ∀ {c : ColumnRef} (d : Direction), c.Valid → Unmarked (c.text ++ " " ++ d.sql) := by
    intro c d hc
    cases d <;> simp +decide [hc.unmarked, Direction.sql]
  have hterms : ∀ t ∈ orderTerms s page, Unmarked t := by
    intro t ht
    unfold orderTerms at ht
    split at ht
    · obtain ⟨g, hg, rfl⟩ := List.mem_map.1 ht
      have hmem : s.bind g ∈ s.refs := List.mem_map_of_mem (List.mem_filter.1 hg).1
      exact hterm .ascending (hs.of_mem_refs hmem).ref_valid
    · obtain ⟨o, ho, rfl⟩ := List.mem_map.1 ht
      exact hterm o.2 (hp o ho).ref_valid
  simp only [orderClause]
  split
  · decide
  · have hjoined : Unmarked (", ".intercalate (orderTerms s page)) := unmarked_intercalate (by decide) hterms
    simp +decide [hjoined]

end Build

/-- The occurrence of a proper schema has valid names. -/
theorem Schema.Proper.source_valid {s : Schema} (h : s.Proper) : s.source.Valid := by
  constructor
  · exact h.made.checked.table
  · intro a ha
    simp only [Schema.source] at ha
    split at ha
    · exact Option.mem_some.1 ha ▸ h.qualifier
    · cases ha

/-- The assigned columns of a proper schema are identifiers. -/
theorem Schema.Checked.valid_assignment {s : Schema} (h : s.Checked) {values : ValueSource} {c : String × Json}
    (hc : c ∈ Build.assignments s values) : Identifier.Valid c.1 := by
  obtain ⟨f, hf, hv⟩ := List.mem_filterMap.1 hc
  obtain ⟨v, -, rfl⟩ := Option.map_eq_some_iff.1 hv
  exact h.columns f hf

open Fragment

theorem Predicate.plain_whereClause {filter : Option Predicate} (h : ∀ p ∈ filter, p.Proper) :
    (whereClause filter).Plain := by
  unfold whereClause
  split
  · exact plain_nil
  · rename_i p
    have hp := plain_render (h p rfl).sound
    split <;> simp +decide [hp]

theorem Join.Proper.plain_clause {j : Join} (h : j.Proper) : j.clause.Plain := by
  have hon := Predicate.plain_grouped .and (Predicate.plain_renderAll h.sound.on)
  have hkind : Unmarked j.kind.sql := by
    cases j.kind <;> decide
  simp +decide [clause, condition, hkind, h.sound.source.unmarked, hon]

theorem Join.plain_clauses {js : List Join} (h : ∀ j ∈ js, j.Proper) :
    Plain (js.flatMap fun j => .text " " :: j.clause) := by
  induction js with
  | nil => exact plain_nil
  | cons j js ih =>
    have hj := (h j List.mem_cons_self).plain_clause
    have hjs := ih fun k hk => h k (List.mem_cons_of_mem _ hk)
    simp +decide [hj, hjs]

/-- The columns of a new row are separated by commas. -/
theorem Schema.Checked.unmarked_columns {s : Schema} (h : s.Checked) (values : ValueSource) :
    Unmarked (", ".intercalate ((Build.assignments s values).map (·.1))) := by
  apply unmarked_intercalate (by decide)
  intro t ht
  obtain ⟨c, hc, rfl⟩ := List.mem_map.1 ht
  exact (h.valid_assignment hc).unmarked

theorem Schema.Checked.plain_sets {s : Schema} (h : s.Checked) (values : ValueSource) :
    Plain (joined ", " ((Build.assignments s values).map fun c => [.text (c.1 ++ " = "), .value c.2])) := by
  apply plain_joined (by decide)
  intro f hf
  obtain ⟨c, hc, rfl⟩ := List.mem_map.1 hf
  simp +decide [(h.valid_assignment hc).unmarked]

/-- **The question marks of a statement are those of its values**, whatever the values are. -/
theorem Request.Proper.plain {r : Request} (h : r.Proper) {f : Fragment} (hf : r.build = .ok f) : f.Plain := by
  cases r with
  | select os filter =>
    obtain ⟨s, rfl, rfl⟩ := Build.select_ok hf
    have hs := h.1 s rfl
    have hcolumns : ∀ c ∈ s.refs, c.Proper := fun c hc => hs.of_mem_refs hc
    simp +decide [Build.unmarked_projection hcolumns, hs.source_valid.unmarked, Predicate.plain_whereClause h.2]
  | selectJoin base columns joins filter =>
    obtain rfl := Build.selectJoin_ok hf
    obtain ⟨hbase, hcolumns, hjoins, hfilter⟩ := h
    have hclauses := Join.plain_clauses hjoins
    simp +decide [Build.unmarked_projection hcolumns, hbase.source_valid.unmarked, hclauses,
      Predicate.plain_whereClause hfilter]
  | insert s values =>
    obtain rfl := Build.insert_ok hf
    have hchecked := h.made.checked
    simp +decide [hchecked.table.unmarked, hchecked.unmarked_columns values]
  | update s values filter =>
    obtain ⟨p, rfl, -, rfl⟩ := Build.update_ok hf
    have hchecked := h.1.made.checked
    simp +decide [hchecked.table.unmarked, hchecked.plain_sets values, Predicate.plain_render (h.2 p rfl).sound]
  | delete s filter =>
    obtain ⟨p, rfl, -, rfl⟩ := Build.delete_ok hf
    simp +decide [h.1.made.checked.table.unmarked, Predicate.plain_render (h.2 p rfl).sound]
  | count s filter =>
    cases hf
    simp +decide [h.1.source_valid.unmarked, Predicate.plain_whereClause h.2]
  | selectPage os filter page =>
    obtain ⟨s, rfl, rfl⟩ := Build.selectPage_ok hf
    obtain ⟨hs, hfilter, horder⟩ := h
    have hs := hs s rfl
    have hcolumns : ∀ c ∈ s.refs, c.Proper := fun c hc => hs.of_mem_refs hc
    simp +decide [Build.unmarked_projection hcolumns, hs.source_valid.unmarked, Predicate.plain_whereClause hfilter,
      Build.unmarked_orderClause hs horder]

end SchemaSql
