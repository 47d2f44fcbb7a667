import SchemaSql.Artifact.Basic
import SchemaSql.Proofs.Declaration.Declared
import SchemaSql.Proofs.Field.Order
import SchemaSql.Proofs.Schema.Made

/-!
# How fields are mixed

A declaration may mix primary keys, its own fields and embedded ones in any way. Its fields always pass the checks of a
schema, so nothing but the order of columns is left of how they were mixed: declarations whose fields are the same in
each group have the same schema and the same artifacts. Within a schema the fields of an embedded record that are no
primary keys still stand in one run.
-/

namespace SchemaSql

variable {d d' : Declaration} {fs fs' : List Field} {table : String}

/-- **Each field of a declaration has a valid column**: a tag gives no other, and a name that becomes a column is
checked. -/
theorem Declaration.valid_column (hd : d.fields = .ok fs) {f : Field} (hf : f ∈ fs) : Identifier.Valid f.column := by
  obtain ⟨hsound, -, rfl⟩ := fields_eq_ok_iff.1 hd
  obtain ⟨v, hv, hfield⟩ := List.mem_filterMap.1 hf
  by_cases hkept : ∃ t type, v.Kept t type
  · obtain ⟨t, type, hk⟩ := hkept
    rw [hk.read_field?.2] at hfield
    split at hfield
    · rename_i scalar hclass
      cases hfield
      show Identifier.Valid (t.column.getD (SnakeCase.ofName v.name))
      cases hc : t.column with
      | none => exact (hsound v hv).column t type scalar hk hclass hc
      | some name =>
        obtain ⟨ds, hrenders, htag⟩ := Tag.parse_eq_ok_iff.1 hk.tag
        exact hrenders.givable _ (htag.mem_of_column hc)
    · cases hfield
  · obtain ⟨t, ht⟩ := (hsound v hv).tag
    rw [(Visit.read_of_not_kept ht fun type hk => hkept ⟨t, type, hk⟩).2] at hfield
    cases hfield

namespace Schema

/-- Fields with valid columns and distinct names, none of which was seen before, pass the check. -/
theorem checkFields_of_valid {seen : List String} (hcolumns : ∀ f ∈ fs, Identifier.Valid f.column)
    (hnames : (fs.map (·.name)).Nodup) (hseen : ∀ f ∈ fs, f.name ∉ seen) : checkFields table seen fs = .ok () := by
  induction fs generalizing seen with
  | nil => rfl
  | cons f fs ih =>
    obtain ⟨hcolumn, hcolumns⟩ := List.forall_mem_cons.1 hcolumns
    obtain ⟨hname, hnames⟩ := List.nodup_cons.1 hnames
    obtain ⟨hnew, hseen⟩ := List.forall_mem_cons.1 hseen
    rw [checkFields, if_neg hnew, Identifier.check_eq_ok_iff.2 hcolumn]
    refine ih hcolumns hnames fun g hg hmem => ?_
    rcases List.mem_cons.1 hmem with heq | hmem
    · exact hname (List.mem_map.2 ⟨g, hg, heq⟩)
    · exact hseen g hg hmem

/-- **The fields of a declaration make up a schema** with every table whose name is valid. -/
theorem new_fields (hd : d.fields = .ok fs) (table : String) :
    Schema.new table fs = match Identifier.check table with
      | .error e => .error (.invalidIdentifier .table e)
      | .ok _ => .ok ⟨table, table, Field.sorted fs⟩ := by
  have hnames : (fs.map (·.name)).Nodup := by
    obtain ⟨-, hnames, rfl⟩ := Declaration.fields_eq_ok_iff.1 hd
    exact hnames
  have hcheck : checkFields table [] fs = .ok () :=
    checkFields_of_valid (fun _ hf => Declaration.valid_column hd hf) hnames fun _ _ => List.not_mem_nil
  rw [Schema.new, hcheck]
  rfl

/-- **Declarations whose fields are the same in each group** have the same schema. -/
theorem ofDeclaration_congr (htable : d.table = d'.table) (hd : d.fields = .ok fs) (hd' : d'.fields = .ok fs')
    (h : ∀ k, Field.ofGroup k fs = Field.ofGroup k fs') : Schema.ofDeclaration d = Schema.ofDeclaration d' := by
  rw [ofDeclaration, ofDeclaration, hd, hd', htable]
  cases d'.table with
  | error e => rfl
  | ok table =>
    show Schema.new table fs = Schema.new table fs'
    rw [new_fields hd, new_fields hd', Field.sorted_congr h]

/-- **The fields of an embedded record stand in one run**, primary keys apart. -/
theorem infix_of_entered {s : Schema} {before after : List Visit} {inner : Declaration}
    (h : Schema.ofDeclaration d = .ok s) (hentered : Declaration.Entered false d.members before inner after) :
    ∃ gs, inner.fields = .ok gs ∧ (gs.filter fun g => !g.primaryKey).map Field.inside <:+: s.fields := by
  obtain ⟨fs, hd, h⟩ := bind_eq_ok_iff.1 h
  obtain ⟨table, -, h⟩ := bind_eq_ok_iff.1 h
  obtain ⟨gs, hgs, hfs⟩ := hentered.fields hd
  have hrun : Field.ofGroup .inner (gs.map Field.inside) = (gs.filter fun g => !g.primaryKey).map Field.inside := by
    rw [Field.ofGroup, List.filter_map]
    refine congrArg _ (List.filter_congr fun g _ => ?_)
    simp only [Function.comp_apply, Field.group, Field.inside, ↓reduceIte]
    cases g.primaryKey <;> rfl
  rw [new_fields hd] at h
  split at h
  · cases h
  · cases h
    exact ⟨gs, hgs, hrun ▸ Field.infix_sorted_of_inner hfs⟩

end Schema

namespace Artifacts

/-- **The order of columns is a stable partition, and how groups are mixed makes no difference.** It keeps all fields,
puts primary keys before the record's own fields and these before embedded ones, keeps the order within each group, and
leaves ordered fields as they are. So declarations of one type name and one table whose fields are the same in each
group have the same artifacts; and each embedded record leaves its fields that are no primary keys in one run. -/
theorem order_ignores_mixing :
    (∀ fs, (Field.sorted fs).Perm fs ∧ Field.Arranged fs (Field.sorted fs) ∧
      Field.sorted (Field.sorted fs) = Field.sorted fs) ∧
    (∀ dialects d d' fs fs', d.typeName = d'.typeName → d.table = d'.table → d.fields = .ok fs → d'.fields = .ok fs' →
      (∀ k, Field.ofGroup k fs = Field.ofGroup k fs') → ofDeclaration dialects d = ofDeclaration dialects d') ∧
    (∀ d s before inner after, Schema.ofDeclaration d = .ok s → Declaration.Entered false d.members before inner after →
      ∃ gs, inner.fields = .ok gs ∧ (gs.filter fun g => !g.primaryKey).map Field.inside <:+: s.fields) := by
  refine ⟨fun fs => ⟨Field.sorted_perm fs, Field.arranged_sorted fs, ?_⟩, ?_, ?_⟩
  · exact Field.sorted_eq_self (Field.grouped_sorted fs)
  · intro dialects d d' fs fs' hname htable hd hd' hgroups
    rw [ofDeclaration, ofDeclaration, Schema.ofDeclaration_congr htable hd hd' hgroups, hname]
  · exact fun d s before inner after h hentered => Schema.infix_of_entered h hentered

/-- When a record was changed, and its version. -/
def changes : Declaration :=
  ⟨"Changes", [.field "CreatedAt" "" .dateTime, .field "Version" "pk" (.int 32), .field "UpdatedAt" "" .dateTime], none⟩

/-- A key, with what was changed. -/
def recordBase : Member :=
  .embedded "Base" "" "Base"
    [.field "ID" "pk" (.int 64), .embedded "Changes" "" changes.typeName changes.members none] none

/-- An account with the given members. -/
def accountOf (members : List Member) : Declaration :=
  ⟨"Account", members, some (.literal "accounts")⟩

def idField : Field := { name := "ID", column := "id", type := .signed .w64, primaryKey := true, embedded := true }

def versionField : Field :=
  { name := "Version", column := "version", type := .signed .w32, primaryKey := true, embedded := true }

def emailField : Field := { name := "Email", column := "email", type := .text, unique := true }

def createdField : Field := { name := "CreatedAt", column := "created_at", type := .dateTime, embedded := true }

def updatedField : Field := { name := "UpdatedAt", column := "updated_at", type := .dateTime, embedded := true }

/-- Whether an account embeds its base before its own field or behind it, the artifacts are the same; the version is
taken out of the changes, and the two instants come to stand side by side. -/
theorem order_ignores_mixing_account :
    let first := accountOf [recordBase, .field "Email" "unique" .string]
    let second := accountOf [.field "Email" "unique" .string, recordBase]
    let s : Schema := ⟨"accounts", "accounts", [idField, versionField, emailField, createdField, updatedField]⟩
    first.table = second.table ∧ (∃ fs fs', first.fields = .ok fs ∧ second.fields = .ok fs' ∧ fs ≠ fs' ∧
      ∀ k, Field.ofGroup k fs = Field.ofGroup k fs') ∧
      ofDeclaration Dialect.all first = ofDeclaration Dialect.all second ∧
      Schema.ofDeclaration first = .ok s ∧
      ∃ gs, changes.fields = .ok gs ∧ (gs.filter fun g => !g.primaryKey).map Field.inside <:+: s.fields := by
  intro first second s
  have htable : first.table = second.table := rfl
  have hfirst : first.fields = .ok [idField, createdField, versionField, updatedField, emailField] := rfl
  have hsecond : second.fields = .ok [emailField, idField, createdField, versionField, updatedField] := rfl
  have hgroups : ∀ k, Field.ofGroup k [idField, createdField, versionField, updatedField, emailField] =
      Field.ofGroup k [emailField, idField, createdField, versionField, updatedField] := by
    intro k
    cases k <;> rfl
  have hs : Schema.ofDeclaration first = .ok s := rfl
  have hentered : Declaration.Entered false first.members
      [⟨false, "Base", "", none⟩, ⟨true, "ID", "pk", some (.int 64)⟩, ⟨true, "Changes", "", none⟩] changes
      [⟨false, "Email", "unique", some .string⟩] :=
    .within [] [_] rfl (.here [_] [] rfl)
  obtain ⟨-, hmixing, hruns⟩ := order_ignores_mixing
  exact ⟨htable, ⟨_, _, hfirst, hsecond, by decide, hgroups⟩,
    hmixing Dialect.all first second _ _ rfl htable hfirst hsecond hgroups, hs, hruns first s _ _ _ hs hentered⟩

end Artifacts

end SchemaSql
