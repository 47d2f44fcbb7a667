import SchemaSql.Proofs.Declaration.Flattening
import SchemaSql.Proofs.Declaration.Grammar
import SchemaSql.Schema.Basic

/-!
# What tags let through

A tag cannot give an override or a literal without text, and a foreign key that it gives refers to identifiers. So
the fields of a declaration have no such parts either. Overrides and literals are copied into statements as they are,
and since directives end at semicolons, no tag brings one along (`Tag.lacks_of_parse`).
-/

namespace SchemaSql

/-- **What a tag can say**: overrides and literals have text, and foreign keys refer to identifiers. -/
structure Tag.Proper (t : Tag) : Prop where
  sqlType : t.sqlType ≠ some ""
  default : t.default ≠ some ""
  foreignKey : ∀ k, t.foreignKey = some k → k.Valid

/-- **What a declared field can have**: its override and its literal have text, and its foreign key refers to
identifiers. -/
structure Field.Declared (f : Field) : Prop where
  sqlType : f.sqlType ≠ some ""
  default : f.default ≠ some ""
  foreignKey : ∀ k, f.foreignKey = some k → k.Valid

namespace Tag

/-- **A tag that can be read is proper.** -/
theorem proper_of_parse {tag : String} {t : Tag} (h : parse tag = .ok t) : t.Proper := by
  obtain ⟨ds, hrenders, hmeans⟩ := parse_eq_ok_iff.1 h
  have hgivable := hrenders.givable
  exact ⟨fun ht => (hgivable _ (hmeans.mem_of_sqlType ht)).1 rfl,
    fun ht => (hgivable _ (hmeans.mem_of_default ht)).1 rfl, fun k ht => hgivable _ (hmeans.mem_of_foreignKey ht)⟩

/-- **No semicolon gets through a tag** into an override or a literal. -/
theorem lacks_of_parse {tag : String} {t : Tag} (h : parse tag = .ok t) {text : String}
    (ht : t.sqlType = some text ∨ t.default = some text) : Text.Lacks ';' text := by
  obtain ⟨ds, hrenders, hmeans⟩ := parse_eq_ok_iff.1 h
  rcases ht with ht | ht
  · exact (hrenders.givable _ (hmeans.mem_of_sqlType ht)).2.2
  · exact (hrenders.givable _ (hmeans.mem_of_default ht)).2.2

end Tag

/-! ## Fields and their tags -/

/-- A field has the override, the literal and the foreign key of a tag. -/
structure Field.TaggedBy (f : Field) (t : Tag) : Prop where
  sqlType : f.sqlType = t.sqlType
  default : f.default = t.default
  foreignKey : f.foreignKey = t.foreignKey

theorem Visit.exists_tag {v : Visit} {f : Field} (h : v.field? = some f) :
    ∃ t, Tag.parse v.tag = .ok t ∧ f.TaggedBy t := by
  unfold field? at h
  split at h
  · cases h
  · rename_i t ht
    split at h
    · cases h
    · split at h <;> cases h
      exact ⟨t, ht, rfl, rfl, rfl⟩

/-- **Each field of the schema of a declaration** has what some tag says. -/
theorem Schema.exists_tag {d : Declaration} {s : Schema} {f : Field} (h : Schema.ofDeclaration d = .ok s)
    (hf : f ∈ s.fields) : ∃ tag t, Tag.parse tag = .ok t ∧ f.TaggedBy t := by
  obtain ⟨fields, hfields, h⟩ := bind_eq_ok_iff.1 h
  obtain ⟨table, _, h⟩ := bind_eq_ok_iff.1 h
  unfold Schema.new at h
  split at h
  · cases h
  · obtain ⟨_, _, h⟩ := bind_eq_ok_iff.1 h
    cases h
    obtain ⟨_, _, rfl⟩ := Declaration.fields_eq_ok_iff.1 hfields
    obtain ⟨v, _, hv⟩ := List.mem_filterMap.1 ((Field.sorted_perm _).mem_iff.1 hf)
    exact ⟨v.tag, v.exists_tag hv⟩

/-- **The fields of the schema of a declaration are declared.** -/
theorem Schema.declared_of_mem {d : Declaration} {s : Schema} {f : Field} (h : Schema.ofDeclaration d = .ok s)
    (hf : f ∈ s.fields) : f.Declared := by
  obtain ⟨tag, t, ht, hsqlType, hdefault, hforeignKey⟩ := exists_tag h hf
  have hproper := Tag.proper_of_parse ht
  exact ⟨hsqlType ▸ hproper.sqlType, hdefault ▸ hproper.default, hforeignKey ▸ hproper.foreignKey⟩

end SchemaSql
