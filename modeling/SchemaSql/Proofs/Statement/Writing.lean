import SchemaSql.Proofs.Schema.Acceptance
import SchemaSql.Proofs.Statement.ColumnLists

/-!
# Values that statements write

An insertion and an update write the fields that the source has values for, in the order of columns, and bind the
values in the same order, before those of the predicate (`Assembly.insert_eq_provided`,
`Assembly.update_eq_provided`). The source decides by names and the statement by columns. For a validated object the
two meet: its names are those of distinct fields, so each of its entries is written once and nothing else is
(`Schema.Made.writes`).
-/

namespace SchemaSql

namespace ValueSource

/-- **What is to be written of a schema's fields**: all those that the source has values for, in the order of columns,
each with the value that the source has for its name. -/
structure Provides (values : ValueSource) (s : Schema) (writes : List (Field × Json)) : Prop where
  fields : writes.map (·.1) = values.given s.fields
  values : ∀ w ∈ writes, values w.1.name = some w.2

variable {values : ValueSource} {fs : List Field}

theorem mem_provided {w : Field × Json} : w ∈ values.provided fs ↔ w.1 ∈ fs ∧ values w.1.name = some w.2 := by
  obtain ⟨f, v⟩ := w
  rw [provided, List.mem_filterMap]
  constructor
  · rintro ⟨g, hg, h⟩
    obtain ⟨u, hu, hpair⟩ := Option.map_eq_some_iff.1 h
    cases hpair
    exact ⟨hg, hu⟩
  · rintro ⟨hf, hv⟩
    exact ⟨f, hf, by rw [hv, Option.map_some]⟩

theorem provides_provided (values : ValueSource) (s : Schema) : values.Provides s (values.provided s.fields) :=
  ⟨map_fst_provided values s.fields, fun _ hw => (mem_provided.1 hw).2⟩

/-- Fields with distinct names are provided under distinct names. -/
theorem nodup_names_provided (values : ValueSource) (h : (fs.map (·.name)).Nodup) :
    ((values.provided fs).map (·.1.name)).Nodup := by
  have hnames : (values.provided fs).map (·.1.name) = (values.given fs).map (·.name) := by
    rw [← map_fst_provided, List.map_map]
    rfl
  rw [hnames]
  exact h.sublist (List.filter_sublist.map _)

end ValueSource

namespace Assembly

variable {s : Schema} {values : ValueSource} {p : Predicate}

/-- What is gathered in the loop over the fields is what is provided. -/
theorem assigned_provided (write : String → String) (s : Schema) (values : ValueSource) :
    assigned write s values =
      ⟨(values.provided s.fields).map fun w => write w.1.column, (values.provided s.fields).map (·.2)⟩ := by
  rw [assigned_eq, Build.assignments_eq, List.map_map, List.map_map]
  rfl

/-- **An insertion** lists the columns of the provided fields and binds their values. -/
theorem insert_eq_provided (s : Schema) (values : ValueSource) :
    insert s values =
      if values.provided s.fields = [] then .error (.noFields .insert)
      else .ok
        ⟨"INSERT INTO " ++ s.table ++ " (" ++ ", ".intercalate ((values.provided s.fields).map (·.1.column)) ++
            ") VALUES (" ++ ", ".intercalate ((values.provided s.fields).map fun _ => "?") ++ ")",
          (values.provided s.fields).map (·.2)⟩ := by
  simp only [insert, assigned_provided, List.isEmpty_map, List.isEmpty_iff, placeholders, List.length_map,
    List.map_const', id_eq]

/-- **An update** sets the columns of the provided fields and binds their values before those of the predicate. -/
theorem update_eq_provided (hs : s.isAliased = false) (values : ValueSource) (hp : p.isEmpty = false) :
    update s values (some p) =
      if values.provided s.fields = [] then .error (.noFields .update)
      else .ok
        ⟨"UPDATE " ++ s.table ++ " SET " ++ ", ".intercalate ((values.provided s.fields).map fun w =>
            w.1.column ++ " = ?") ++ " WHERE " ++ p.assemble.sql,
          (values.provided s.fields).map (·.2) ++ p.assemble.args⟩ := by
  have htarget : Build.unaliased .update s = .ok () := Build.unaliased_eq_ok_iff.2 hs
  have htext : p.assemble.sql ≠ "" := by
    rw [ne_eq, ← Predicate.isEmpty_iff_assemble_sql, hp]
    exact Bool.false_ne_true
  have hclause : required .update (some p) = .ok p.assemble := if_neg htext
  rw [update, htarget, hclause]
  simp only [bind, Except.bind, assigned_provided, List.isEmpty_map, List.isEmpty_iff]

end Assembly

namespace Schema

variable {s : Schema} {values : ValueSource}

/-- **The provided fields of a record value are its entries**, in the order of columns, if its names are those of
fields. -/
theorem Checked.provided_perm (hs : s.Checked) {o : RecordValue} (ho : Keyed.Sorted o.values)
    (hnames : ∀ name ∈ o.names, ∃ f ∈ s.fields, f.name = name) :
    (((ValueSource.ofRecord o).provided s.fields).map fun w => (w.1.name, w.2)).Perm o.values := by
  have hprovided := ValueSource.nodup_names_provided (.ofRecord o) hs.names
  have hentries : (o.values.map (·.1)).Nodup := ho.keys.imp String.ne_of_lt
  refine (List.perm_ext_iff_of_nodup (.of_map (·.1) ?_) (.of_map (·.1) hentries)).2 fun e => ?_
  · rwa [List.map_map]
  obtain ⟨name, v⟩ := e
  have hfound : (name, v) ∈ o.values ↔ o.get? name = some v := ho.mem_iff
  rw [List.mem_map, hfound]
  constructor
  · rintro ⟨w, hw, hpair⟩
    cases hpair
    exact (ValueSource.mem_provided.1 hw).2
  · intro hv
    have hname : name ∈ o.names := List.mem_map_of_mem (hfound.2 hv)
    obtain ⟨f, hf, rfl⟩ := hnames name hname
    exact ⟨(f, v), ValueSource.mem_provided.2 ⟨hf, hv⟩, rfl⟩

/-- A validated object has its names from fields, each once. -/
theorem Checked.names_of_validate (hs : s.Checked) {input : Json} (hn : input.Normal) {o : RecordValue}
    (h : s.validate input = .ok o) : Keyed.Sorted o.values ∧ ∀ name ∈ o.names, ∃ f ∈ s.fields, f.name = name := by
  obtain ⟨ms, rfl, ho⟩ := (hs.validate_eq_ok_iff hn).1 h
  refine ⟨hn.1.of_keys_eq ho.names, fun name hname => ?_⟩
  obtain ⟨m, hm, rfl⟩ := List.mem_map.1 (ho.names ▸ hname : name ∈ Keyed.keys ms)
  obtain ⟨_, ⟨f, hf, hfm, -⟩, -⟩ := ho.values m hm
  exact ⟨f, hf, hfm⟩

/-- **What is written is what is provided, each value once and at the column of its field.** An insertion, and an update
of a table under its own name for a predicate with a text, write all provided fields in the order of columns, and are
refused exactly if there are none. Of a validated object these are all entries, each once. -/
theorem Made.writes (hs : s.Made) (values : ValueSource) :
    ∃ writes, values.Provides s writes ∧
      (Assembly.insert s values =
        if writes = [] then .error (.noFields .insert)
        else .ok
          ⟨"INSERT INTO " ++ s.table ++ " (" ++ ", ".intercalate (writes.map (·.1.column)) ++ ") VALUES (" ++
              ", ".intercalate (writes.map fun _ => "?") ++ ")",
            writes.map (·.2)⟩) ∧
      (∀ p : Predicate, p.isEmpty = false → s.isAliased = false →
        Assembly.update s values (some p) =
          if writes = [] then .error (.noFields .update)
          else .ok
            ⟨"UPDATE " ++ s.table ++ " SET " ++ ", ".intercalate (writes.map fun w => w.1.column ++ " = ?") ++
                " WHERE " ++ p.assemble.sql,
              writes.map (·.2) ++ p.assemble.args⟩) ∧
      ∀ input o, input.Normal → s.validate input = .ok o → values = .ofRecord o →
        (writes.map fun w => (w.1.name, w.2)).Perm o.values ∧ (writes = [] ↔ o.isEmpty = true) := by
  refine ⟨values.provided s.fields, values.provides_provided s, Assembly.insert_eq_provided s values, ?_, ?_⟩
  · exact fun p hp hunaliased => Assembly.update_eq_provided hunaliased values hp
  · rintro input o hn h rfl
    obtain ⟨hsorted, hnames⟩ := hs.checked.names_of_validate hn h
    have hperm := hs.checked.provided_perm hsorted hnames
    refine ⟨hperm, ?_⟩
    rw [RecordValue.isEmpty, List.isEmpty_iff, ← List.length_eq_zero_iff, ← List.length_eq_zero_iff, ← hperm.length_eq,
      List.length_map]

/-- The entries of a validated person go by the names of its fields, and are written in the order of columns: the number
that came as a text, and the null as well. -/
theorem writes_persons :
    let input : Json := .object [("Age", .null), ("ID", .string "7"), ("Name", .string "Ada")]
    let o : RecordValue := ⟨"persons", [("Age", .null), ("ID", .int { val := 7 }), ("Name", .string "Ada")]⟩
    let p : Predicate := .compare ⟨"persons", "id"⟩ .eq (.int { val := 6 })
    let values := [Json.int { val := 7 }, .string "Ada", .null]
    persons.Made ∧ input.Normal ∧ persons.validate input = .ok o ∧ p.isEmpty = false ∧ persons.isAliased = false ∧
      Assembly.update persons (.ofRecord o) (some p) =
        .ok ⟨"UPDATE persons SET id = ?, name = ?, age = ? WHERE persons.id = ?", values ++ p.assemble.args⟩ ∧
      ∃ writes, (ValueSource.ofRecord o).Provides persons writes ∧ writes.map (·.2) = values ∧
        (writes.map fun w => (w.1.name, w.2)).Perm o.values := by
  intro input o p values
  have hsorted : Keyed.Sorted [("Age", Json.null), ("ID", .string "7"), ("Name", .string "Ada")] := by
    unfold Keyed.Sorted
    decide
  have hn : input.Normal := ⟨hsorted, trivial, trivial, trivial, trivial⟩
  have hvalid : persons.validate input = .ok o := rfl
  have hbuilt : Assembly.update persons (.ofRecord o) (some p) =
      .ok ⟨"UPDATE persons SET id = ?, name = ?, age = ? WHERE persons.id = ?", values ++ p.assemble.args⟩ := rfl
  obtain ⟨writes, hprovides, -, hupdate, hvalidated⟩ := made_persons.writes (.ofRecord o)
  obtain ⟨hperm, hnone⟩ := hvalidated input o hn hvalid rfl
  have hsome : writes ≠ [] := fun h => absurd (hnone.1 h) (by decide)
  have hstatement := hbuilt.symm.trans (hupdate p rfl rfl)
  rw [if_neg hsome] at hstatement
  obtain ⟨-, hargs⟩ := Statement.mk.inj (Except.ok.inj hstatement)
  exact ⟨made_persons, hn, hvalid, rfl, rfl, hbuilt, writes, hprovides, (List.append_cancel_right hargs).symm, hperm⟩

end Schema

end SchemaSql
