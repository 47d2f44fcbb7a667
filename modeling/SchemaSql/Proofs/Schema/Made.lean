import SchemaSql.Fallible
import SchemaSql.Schema.Basic

/-!
# Schemas and references that can be made

A schema comes from `Schema.new`, which checks its names, and may then be given aliases, which nobody
checks. A reference to a field comes from such a schema, and may be given an alias of its own. `Made`
says that a value came about in this way and no other; `Checked` is what the checks leave behind, and
`Made.checked` carries it through every alias. A schema or a reference is `Proper` if it was made and
the name that stands before its columns is valid too, so that all its names can stand in a statement.
-/

namespace SchemaSql

/-- **A schema that came from `new`**, under any number of aliases, the last of which counts. -/
inductive Schema.Made : Schema → Prop
  | new {table : String} {fields : List Field} {s : Schema} (h : Schema.new table fields = .ok s) : Made s
  | aliased {s : Schema} (hs : Made s) (aliasName : String) : Made (s.aliased aliasName)

/-- **A reference that came from a schema**, under any number of aliases. -/
inductive FieldRef.Made : FieldRef → Prop
  | ref {s : Schema} {name : String} {f : FieldRef} (hs : s.Made) (h : s.ref name = .ok f) : Made f
  | aliased {f : FieldRef} (hf : Made f) (aliasName : String) : Made (f.aliased aliasName)

/-- **What the checks of `new` establish**: table and columns are identifiers, and no two fields share a
name. -/
structure Schema.Checked (s : Schema) : Prop where
  table : Identifier.Valid s.table
  columns : ∀ f ∈ s.fields, Identifier.Valid f.column
  names : (s.fields.map (·.name)).Nodup

/-- **A schema whose names can all stand in a statement.** -/
structure Schema.Proper (s : Schema) : Prop where
  made : s.Made
  qualifier : Identifier.Valid s.qualifier

/-- **A reference whose names can all stand in a statement.** -/
structure FieldRef.Proper (f : FieldRef) : Prop where
  made : f.Made
  qualifier : Identifier.Valid f.qualifier

/-- A column whose names are both identifiers. -/
def ColumnRef.Valid (c : ColumnRef) : Prop :=
  Identifier.Valid c.qualifier ∧ Identifier.Valid c.column

namespace Schema

/-- The check of the fields leaves valid columns and distinct names that were not seen before. The
induction is on the fields; `seen` grows by the name of the first. -/
theorem checkFields_ok {table : String} {fs : List Field} {seen : List String}
    (h : checkFields table seen fs = .ok ()) :
    (∀ f ∈ fs, Identifier.Valid f.column) ∧ (fs.map (·.name)).Nodup ∧ ∀ f ∈ fs, f.name ∉ seen := by
  induction fs generalizing seen with
  | nil => exact ⟨fun _ hf => absurd hf List.not_mem_nil, List.nodup_nil, fun _ hf => absurd hf List.not_mem_nil⟩
  | cons f fs ih =>
    simp only [checkFields] at h
    split at h
    · cases h
    · rename_i hnew
      split at h
      · cases h
      · rename_i hcolumn
        obtain ⟨hcolumns, hnames, hseen⟩ := ih h
        have hfirst : f.name ∉ fs.map (·.name) := by
          intro hmem
          obtain ⟨g, hg, hname⟩ := List.mem_map.1 hmem
          exact hseen g hg (hname ▸ List.mem_cons_self)
        refine ⟨?_, ?_, ?_⟩
        · intro g hg
          rcases List.mem_cons.1 hg with rfl | hg
          · exact Identifier.check_eq_ok_iff.1 hcolumn
          · exact hcolumns g hg
        · rw [List.map_cons]
          exact List.nodup_cons.2 ⟨hfirst, hnames⟩
        · intro g hg
          rcases List.mem_cons.1 hg with rfl | hg
          · exact hnew
          · exact fun hmem => hseen g hg (List.mem_cons_of_mem _ hmem)

/-- **`new` makes checked schemas** under the name of their table. -/
theorem checked_of_new {table : String} {fields : List Field} {s : Schema} (h : Schema.new table fields = .ok s) :
    s.Checked ∧ s.qualifier = s.table := by
  unfold Schema.new at h
  split at h
  · cases h
  · rename_i htable
    obtain ⟨_, hfields, hs⟩ := bind_eq_ok_iff.1 h
    obtain ⟨hcolumns, hnames, _⟩ := checkFields_ok hfields
    cases hs
    have hperm := Field.sorted_perm fields
    refine ⟨⟨Identifier.check_eq_ok_iff.1 htable, ?_, ?_⟩, rfl⟩
    · exact fun f hf => hcolumns f (hperm.mem_iff.1 hf)
    · exact (hperm.map (·.name)).symm.nodup hnames

/-- **Every schema that can be made is checked**, whatever its aliases. -/
theorem Made.checked {s : Schema} (h : s.Made) : s.Checked := by
  induction h with
  | new h => exact (checked_of_new h).1
  | aliased _ aliasName ih => exact ⟨ih.table, ih.columns, ih.names⟩

/-- In a checked schema a field is found under its name. -/
theorem Checked.field?_of_mem {s : Schema} (h : s.Checked) {f : Field} (hf : f ∈ s.fields) :
    s.field? f.name = some f := by
  obtain ⟨_, _, hnames⟩ := h
  unfold field?
  generalize s.fields = fs at hf hnames
  induction fs with
  | nil => exact absurd hf List.not_mem_nil
  | cons g fs ih =>
    rw [List.map_cons, List.nodup_cons] at hnames
    rcases List.mem_cons.1 hf with rfl | hf
    · simp only [List.find?_cons, beq_self_eq_true]
    · have hne : g.name ≠ f.name := fun e => hnames.1 (e ▸ List.mem_map_of_mem hf)
      simp only [List.find?_cons, beq_eq_false_iff_ne.2 hne]
      exact ih hf hnames.2

/-- A field that is found is one of the schema's, and has the name. -/
theorem mem_of_field? {s : Schema} {name : String} {f : Field} (h : s.field? name = some f) :
    f ∈ s.fields ∧ f.name = name := by
  have hname : (f.name == name) = true := List.find?_some (p := fun f : Field => f.name == name) h
  exact ⟨List.mem_of_find?_eq_some h, beq_iff_eq.1 hname⟩

/-- **A schema's own references are made of it.** -/
theorem Made.of_mem_refs {s : Schema} (hs : s.Made) {f : FieldRef} (hf : f ∈ s.refs) : f.Made := by
  obtain ⟨g, hg, rfl⟩ := List.mem_map.1 hf
  have href : s.ref g.name = .ok (s.bind g) := by
    rw [Schema.ref, hs.checked.field?_of_mem hg]
  exact .ref hs href

/-- A new schema is proper: its columns stand behind the name of its table. -/
theorem Proper.of_new {table : String} {fields : List Field} {s : Schema} (h : Schema.new table fields = .ok s) :
    s.Proper := by
  obtain ⟨hchecked, hqualifier⟩ := checked_of_new h
  exact ⟨.new h, hqualifier ▸ hchecked.table⟩

theorem Proper.of_ref {s : Schema} (hs : s.Proper) {name : String} {f : FieldRef} (h : s.ref name = .ok f) :
    f.Proper := by
  refine ⟨.ref hs.made h, ?_⟩
  unfold Schema.ref at h
  split at h <;> cases h
  exact hs.qualifier

theorem Proper.of_mem_refs {s : Schema} (hs : s.Proper) {f : FieldRef} (hf : f ∈ s.refs) : f.Proper := by
  obtain ⟨g, _, rfl⟩ := List.mem_map.1 hf
  exact ⟨hs.made.of_mem_refs hf, hs.qualifier⟩

end Schema

namespace FieldRef

/-- Table and column of a reference that can be made are identifiers. -/
theorem Made.names {f : FieldRef} (h : f.Made) : Identifier.Valid f.table ∧ Identifier.Valid f.column := by
  induction h with
  | @ref s name f hs h =>
    unfold Schema.ref at h
    split at h
    · rename_i g hg
      cases h
      exact ⟨hs.checked.table, hs.checked.columns g (Schema.mem_of_field? hg).1⟩
    · cases h
  | aliased _ _ ih => exact ih

/-- **The column of a proper reference is written under valid names.** -/
theorem Proper.ref_valid {f : FieldRef} (h : f.Proper) : f.ref.Valid :=
  ⟨h.qualifier, h.made.names.2⟩

end FieldRef

end SchemaSql
