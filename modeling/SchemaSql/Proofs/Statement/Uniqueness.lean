import SchemaSql.Database.Value
import SchemaSql.Proofs.Statement.TableDefinition

/-!
# Values that may occur once

A database keeps rows apart by the keys of their table: each column marked unique, the column spelled as a primary key,
and the listed primary keys together. `TableDefinition.Enforces` says that a column is kept apart by itself in whatever
rows a table admits, and `TableDefinition.enforces_iff` that this takes a key of no other column.

A field marked unique is kept apart so if it is no primary key or the only one (`Schema.enforces_iff_keyAlone`). Among
several primary keys the mark is lost: it is left out at every primary key, and two keys are unique only together.

A key says nothing of rows that are null in one of its columns, and the types of columns are not read here.
-/

namespace SchemaSql

/-- **A row of a table**, by its columns. -/
abbrev TableRow := String → SqlValue

/-- **Two rows have the same values in some columns**, and none of these is null. -/
def TableRow.Clash (columns : List String) (r r' : TableRow) : Prop :=
  ∀ c ∈ columns, r c ≠ .null ∧ r c = r' c

namespace TableDefinition

/-- **The keys of a table**: columns in which no two of its rows have the same values. -/
def keys (d : TableDefinition) : List (List String) :=
  ((d.columns.filter fun c => c.unique || c.kind.isKey).map fun c => [c.column]) ++ if d.key = [] then [] else [d.key]

/-- **Rows that a table admits**: no two of them clash in a key. -/
def Admits (d : TableDefinition) (rows : List TableRow) : Prop :=
  ∀ key ∈ d.keys, rows.Pairwise fun r r' => ¬ TableRow.Clash key r r'

/-- **A table keeps a column unique**: no two rows that it admits together clash in this column alone. -/
def Enforces (d : TableDefinition) (column : String) : Prop :=
  ∀ rows, d.Admits rows → rows.Pairwise fun r r' => ¬ TableRow.Clash [column] r r'

variable {d : TableDefinition} {column : String}

theorem mem_keys {key : List String} :
    key ∈ d.keys ↔
      (∃ c ∈ d.columns, (c.unique = true ∨ c.kind.isKey = true) ∧ [c.column] = key) ∨ d.key ≠ [] ∧ key = d.key := by
  rw [keys, List.mem_append, List.mem_map]
  refine or_congr ?_ ?_
  · simp only [List.mem_filter, Bool.or_eq_true, and_assoc]
  · split
    · rename_i h
      exact iff_of_false List.not_mem_nil fun hk => hk.1 h
    · rename_i h
      rw [List.mem_singleton, and_iff_right h]

/-- **A column is unique exactly if it has a key of its own.** Otherwise the table admits two rows that differ in all
other columns. -/
theorem enforces_iff : d.Enforces column ↔ ∃ key ∈ d.keys, ∀ c ∈ key, c = column := by
  constructor
  · intro h
    by_contra hkeys
    let row (n : Int64) : TableRow := fun c => if c = column then .int 0 else .int n
    have hrow (n : Int64) : row n column = .int 0 := if_pos rfl
    have hadmits : d.Admits [row 0, row 1] := by
      intro key hkey
      refine List.pairwise_pair.2 fun hclash => hkeys ⟨key, hkey, fun c hc => ?_⟩
      by_contra hne
      have hsame : row 0 c = row 1 c := (hclash c hc).2
      rw [show row 0 c = .int 0 from if_neg hne, show row 1 c = .int 1 from if_neg hne] at hsame
      exact absurd (SqlValue.int.inj hsame) (by decide)
    refine List.pairwise_pair.1 (h _ hadmits) (List.forall_mem_singleton.2 ⟨?_, ?_⟩)
    · rw [hrow]
      exact SqlValue.noConfusion
    · rw [hrow, hrow]
  · rintro ⟨key, hkey, hcolumn⟩ rows hrows
    refine (hrows key hkey).imp fun hfree hclash => hfree fun c hc => ?_
    exact hcolumn c hc ▸ hclash column (List.mem_singleton_self column)

end TableDefinition

namespace Schema

variable {s : Schema} {f : Field} {t : TypeTable} {define : Field → ColumnDefinition}

/-- **A field is no primary key, or the only one.** -/
def KeyAlone (s : Schema) (f : Field) : Prop :=
  f.primaryKey = true → s.primaryKeys = [f]

/-- **What stands at the column of a unique field**: it is marked, or spelled as a primary key, exactly if no other
field is a primary key with it. -/
theorem marked_iff_keyAlone (hf : f.DefinedAs s t (define f)) (hunique : f.unique = true) :
    (define f).unique = true ∨ s.primaryKeys = [f] ↔ s.KeyAlone f := by
  rw [hf.unique, KeyAlone, and_iff_right hunique]
  cases f.primaryKey <;> simp

/-- A field marked or spelled as a primary key at its column is unique. -/
theorem enforces_of_marked (hf : f ∈ s.fields) (hdefined : f.DefinedAs s t (define f))
    (h : (define f).unique = true ∨ s.primaryKeys = [f]) : (s.definition define).Enforces f.column := by
  refine TableDefinition.enforces_iff.2 ⟨[f.column], TableDefinition.mem_keys.2 (.inl ⟨define f, ?_, ?_, ?_⟩), ?_⟩
  · exact List.mem_map_of_mem hf
  · refine h.imp_right fun hone => ?_
    rw [hdefined.key.2 hone]
    rfl
  · rw [hdefined.column]
  · exact List.forall_mem_singleton.2 rfl

/-- Listed primary keys are several columns. -/
theorem not_key_of_column (hcolumns : (s.fields.map (·.column)).Nodup) {column : String}
    (hkey : (s.definition define).key ≠ []) : ¬ ∀ c ∈ (s.definition define).key, c = column := by
  intro h
  have hlisted : (s.definition define).key = s.listedKeys.map (·.column) := rfl
  rw [hlisted, listedKeys] at hkey h
  by_cases hmany : 2 ≤ s.primaryKeys.length
  · rw [if_pos hmany] at h
    have hnodup : (s.primaryKeys.map (·.column)).Nodup := hcolumns.sublist (List.filter_sublist.map _)
    rw [List.eq_replicate_of_mem h, List.nodup_replicate, List.length_map] at hnodup
    omega
  · exact hkey (by rw [if_neg hmany]; rfl)

/-- **A column marked unique is kept unique exactly if its field is no primary key or the only one**, where no two
fields share a column. -/
theorem enforces_iff_keyAlone (hdefined : ∀ f ∈ s.fields, f.DefinedAs s t (define f)) (hf : f ∈ s.fields)
    (hunique : f.unique = true) (hcolumns : (s.fields.map (·.column)).Nodup) :
    (s.definition define).Enforces f.column ↔ s.KeyAlone f := by
  rw [← marked_iff_keyAlone (hdefined f hf) hunique]
  constructor
  · intro h
    obtain ⟨key, hkey, hcolumn⟩ := TableDefinition.enforces_iff.1 h
    rcases TableDefinition.mem_keys.1 hkey with ⟨c, hc, hmark, rfl⟩ | ⟨hne, rfl⟩
    · -- a key of one column is that of the field itself
      obtain ⟨g, hg, rfl⟩ := List.mem_map.1 hc
      have hsame : g.column = f.column :=
        (hdefined g hg).column ▸ hcolumn (define g).column (List.mem_singleton_self _)
      obtain rfl : g = f := List.inj_on_of_nodup_map hcolumns hg hf hsame
      refine hmark.imp_right fun hkind => ?_
      by_contra hother
      obtain ⟨notNull, hplain⟩ := (hdefined g hg).plain hother
      rw [hplain] at hkind
      exact Bool.false_ne_true hkind
    · exact absurd hcolumn (not_key_of_column hcolumns hne)
  · exact enforces_of_marked hf (hdefined f hf)

/-- **Where the mark of a unique field reaches the table**, in every dialect: its column is marked or spelled as a
primary key exactly if the field is no primary key or the only one, and then it is unique. Otherwise the table
admits rows that share its value, unless another field has the same column. -/
theorem exists_createdAs_unique (hs : s.Made) (hf : f ∈ s.fields) (hunique : f.unique = true) (dialect : Dialect) :
    ∃ script define, dialect.types.script s = .ok script ∧ s.CreatedAs dialect.types script define ∧
      ((define f).unique = true ∨ s.primaryKeys = [f] ↔ s.KeyAlone f) ∧
      (s.KeyAlone f → (s.definition define).Enforces f.column) ∧
      ((s.fields.map (·.column)).Nodup → ((s.definition define).Enforces f.column ↔ s.KeyAlone f)) := by
  have hfields : s.isEmpty = false := List.isEmpty_eq_false_iff.2 (List.ne_nil_of_mem hf)
  obtain ⟨script, hok⟩ := dialect.types.exists_script hfields
  have hcreated := hs.checked.createdAs hok
  have hmarked := marked_iff_keyAlone (hcreated.columns f hf) hunique
  exact ⟨script, dialect.types.define s, hok, hcreated, hmarked,
    fun h => enforces_of_marked hf (hcreated.columns f hf) (hmarked.2 h),
    enforces_iff_keyAlone hcreated.columns hf hunique⟩

def tenantID : Field :=
  { name := "TenantID", column := "tenant_id", type := .signed .w64, primaryKey := true, unique := true }

def tenantSlug : Field :=
  { name := "Slug", column := "slug", type := .text, unique := true }

/-- A table with one primary key, which is marked unique like the column behind it. -/
def tenants : Schema :=
  ⟨"tenants", "tenants", [tenantID, tenantSlug]⟩

/-- The mark of the only primary key is left out, and not missed. -/
theorem exists_createdAs_tenants :
    tenants.Made ∧ tenantID ∈ tenants.fields ∧ tenantID.unique = true ∧ tenants.KeyAlone tenantID ∧
      (Dialect.postgres.types.script tenants).toOption.map (·.createTable) =
        some "CREATE TABLE tenants (\n    tenant_id BIGSERIAL PRIMARY KEY,\n    slug TEXT UNIQUE\n)" ∧
      ∃ script define, Dialect.postgres.types.script tenants = .ok script ∧
        tenants.CreatedAs Dialect.postgres.types script define ∧ (tenants.definition define).Enforces "tenant_id" := by
  have hnew : Schema.new tenants.table tenants.fields = .ok tenants := rfl
  have halone : tenants.KeyAlone tenantID := fun _ => rfl
  have hmem : tenantID ∈ tenants.fields := List.mem_cons_self
  obtain ⟨script, define, hok, hcreated, -, hunique, -⟩ := exists_createdAs_unique (.new hnew) hmem rfl .postgres
  exact ⟨.new hnew, hmem, rfl, halone, by decide +kernel, script, define, hok, hcreated, hunique halone⟩

/-- A table with two primary keys, of which one is marked unique. -/
def memberships : Schema :=
  ⟨"memberships", "memberships",
    [tenantID, { name := "UserID", column := "user_id", type := .signed .w64, primaryKey := true }]⟩

/-- **The mark of one of several primary keys is lost**: its column is not marked, nor the only primary key, and the
table admits memberships of several users in one tenant. -/
theorem not_enforces_memberships :
    memberships.Made ∧ tenantID ∈ memberships.fields ∧ tenantID.unique = true ∧
      (Dialect.postgres.types.script memberships).toOption.map (·.createTable) =
        some ("CREATE TABLE memberships (\n    tenant_id BIGINT NOT NULL,\n    user_id BIGINT NOT NULL,\n    " ++
          "PRIMARY KEY (tenant_id, user_id)\n)") ∧
      ∀ script define, Dialect.postgres.types.script memberships = .ok script →
        memberships.CreatedAs Dialect.postgres.types script define →
          (define tenantID).unique = false ∧ memberships.primaryKeys ≠ [tenantID] ∧
            ¬ (memberships.definition define).Enforces "tenant_id" := by
  have hnew : Schema.new memberships.table memberships.fields = .ok memberships := rfl
  have hmem : tenantID ∈ memberships.fields := List.mem_cons_self
  have hothers : ¬ memberships.KeyAlone tenantID := fun h => absurd (h rfl) (by decide)
  refine ⟨.new hnew, hmem, rfl, by decide +kernel, fun script define _ hcreated => ?_⟩
  have hmarked := (marked_iff_keyAlone (hcreated.columns tenantID hmem) rfl).not.2 hothers
  obtain ⟨hmark, hone⟩ := not_or.1 hmarked
  exact ⟨Bool.eq_false_iff.2 hmark, hone,
    (enforces_iff_keyAlone hcreated.columns hmem rfl (by decide)).not.2 hothers⟩

end Schema

end SchemaSql
