import SchemaSql.Proofs.Declaration.Declared
import SchemaSql.Proofs.Statement.ColumnLists
import SchemaSql.Proofs.Text.SnakeCase

/-!
# How statements spell names

The script that creates a table puts quotes around reserved words, and no other statement does. That both speak of the
same table and the same columns rests on the names alone: none of those that a declaration brings into its script is
reserved. `TypeTable.spelled` is the script in a given spelling of names, `Schema.scriptNames` lists the names that it
spells, and for the schema of a declaration all of them pass the check of identifiers. So the spelling with quotes
makes the same script as the bare one, and the statements that read and write rows use the same bare names.
-/

namespace SchemaSql

namespace Identifier

/-- **No reserved word has an underscore**, in any mixture of cases. -/
theorem isReserved_eq_false_of_underscore {n : String} (h : '_' ∈ n.toList) : isReserved n = false := by
  have hupper : '_' ∈ (Text.uppercase n).toList := by
    rw [Text.uppercase, String.toList_ofList, Text.upper]
    exact List.mem_flatMap_of_mem h List.mem_cons_self
  have hwords : ∀ w ∈ reservedWords, '_' ∉ w.toList := by decide
  rw [isReserved, List.contains_eq_mem, decide_eq_false_iff_not]
  exact fun hmem => hwords _ hmem hupper

/-- The name of the index on a column. -/
def indexName (table column : String) : String :=
  "idx_" ++ table ++ "_" ++ column

theorem toList_indexName (table column : String) :
    (indexName table column).toList = 'i' :: 'd' :: 'x' :: '_' :: (table.toList ++ '_' :: column.toList) := by
  simp only [indexName, String.toList_append, List.append_assoc]
  rfl

/-- The name of an index is a word if the names that it is made of are. -/
theorem isWord_indexName {table column : String} (ht : isWord table.toList = true) (hc : isWord column.toList = true) :
    isWord (indexName table column).toList = true := by
  rw [toList_indexName, isWord_iff]
  refine ⟨⟨'i', _, rfl, rfl⟩, ?_⟩
  simp only [List.forall_mem_cons, List.forall_mem_append]
  exact ⟨rfl, rfl, rfl, rfl, (isWord_iff.1 ht).2, rfl, (isWord_iff.1 hc).2⟩

/-- **The name of an index is valid**: a word, and no reserved one. -/
theorem Valid.indexName {table column : String} (ht : Valid table) (hc : Valid column) :
    Valid (indexName table column) := by
  have hunderscore : '_' ∈ (Identifier.indexName table column).toList := by
    rw [toList_indexName]
    exact List.mem_cons_of_mem _ (List.mem_cons_of_mem _ (List.mem_cons_of_mem _ List.mem_cons_self))
  exact ⟨isWord_indexName ht.1 hc.1, isReserved_eq_false_of_underscore hunderscore⟩

end Identifier

/-! ## Scripts in a spelling of names -/

/-- The names that a field brings into the script of a table. -/
def Field.scriptNames (table : String) (f : Field) : List String :=
  f.column :: (f.foreignKey.toList.flatMap (fun k => [k.table, k.column]) ++
    if f.indexed then [Identifier.indexName table f.column] else [])

theorem Field.indexName_mem_scriptNames {f : Field} (table : String) (hf : f.indexed = true) :
    Identifier.indexName table f.column ∈ f.scriptNames table := by
  rw [scriptNames, if_pos hf]
  exact List.mem_cons_of_mem _ (List.mem_append_right _ (List.mem_singleton_self _))

/-- **The names that stand in the script of a schema**: those of the table, of its columns and indexes, and of what
foreign keys refer to. -/
def Schema.scriptNames (s : Schema) : List String :=
  s.table :: s.fields.flatMap (Field.scriptNames s.table)

namespace TypeTable

variable (t : TypeTable) (spell : String → String)

/-- The definition of a column in a spelling of names. -/
def spelledColumn (inlineKey : Bool) (f : Field) : String :=
  " ".intercalate (spell f.column :: (t.typeClause f inlineKey).1 ::
    ((if f.unique && !f.primaryKey then ["UNIQUE"] else []) ++
      (match f.default with
        | some d => ["DEFAULT " ++ d]
        | none => []) ++
      (match f.foreignKey with
        | some k => ["REFERENCES " ++ spell k.table ++ "(" ++ spell k.column ++ ")"]
        | none => [])))

/-- The constraint for several primary keys in a spelling of names. -/
def spelledKey (s : Schema) : List String :=
  if 1 < s.primaryKeys.length then
    ["PRIMARY KEY (" ++ ", ".intercalate (s.primaryKeys.map fun f => spell f.column) ++ ")"]
  else []

/-- The statement that creates an index in a spelling of names. -/
def spelledIndex (table column : String) : String :=
  "CREATE INDEX " ++ spell (Identifier.indexName table column) ++ " ON " ++ spell table ++ " (" ++ spell column ++ ")"

/-- **The script that creates the table of a schema**, in a spelling of names. -/
def spelled (s : Schema) : TableScript where
  dialect := t.dialect
  createTable := "CREATE TABLE " ++ spell s.table ++ " (\n    " ++
    ",\n    ".intercalate (s.fields.map (t.spelledColumn spell (hasInlineKey s)) ++ spelledKey spell s) ++ "\n)"
  indexes := (s.fields.filter (·.indexed)).map fun f => spelledIndex spell s.table f.column
  warnings := t.warnings s

/-- The script of a schema spells names as its dialect does. -/
theorem script_eq_spelled (s : Schema) :
    t.script s = if s.isEmpty then .error .emptySchema else .ok (t.spelled t.name s) := by
  have hcolumn : (fun f => (t.columnDefinition f (hasInlineKey s)).1) = t.spelledColumn t.name (hasInlineKey s) := by
    funext f
    cases hd : f.default <;> cases hk : f.foreignKey <;>
      simp only [columnDefinition_fst, constraints, spelledColumn, hd, hk]
  have hindex : (fun f : Field => t.createIndex s.table f.column) = fun f => spelledIndex t.name s.table f.column := rfl
  rw [script, tableBody, keyConstraint, hcolumn, hindex, spelled, spelledKey]

variable {t spell} {spell' : String → String}

theorem spelledColumn_congr {table : String} {f : Field} (h : ∀ n ∈ f.scriptNames table, spell n = spell' n)
    (inlineKey : Bool) : t.spelledColumn spell inlineKey f = t.spelledColumn spell' inlineKey f := by
  unfold Field.scriptNames at h
  rw [List.forall_mem_cons, List.forall_mem_append] at h
  obtain ⟨hcolumn, hkey, -⟩ := h
  cases hk : f.foreignKey with
  | none => simp only [spelledColumn, hk, hcolumn]
  | some k =>
    rw [hk, Option.toList_some, List.flatMap_singleton] at hkey
    have htable : spell k.table = spell' k.table := hkey _ List.mem_cons_self
    have htarget : spell k.column = spell' k.column := hkey _ (List.mem_cons_of_mem _ List.mem_cons_self)
    simp only [spelledColumn, hk, hcolumn, htable, htarget]

/-- **A script depends on the spelling of its names only.** -/
theorem spelled_congr {s : Schema} (h : ∀ n ∈ s.scriptNames, spell n = spell' n) :
    t.spelled spell s = t.spelled spell' s := by
  obtain ⟨htable, hfields⟩ := List.forall_mem_cons.1 h
  have hfield : ∀ f ∈ s.fields, ∀ n ∈ f.scriptNames s.table, spell n = spell' n :=
    fun f hf n hn => hfields n (List.mem_flatMap_of_mem hf hn)
  have hcolumn : ∀ f ∈ s.fields, spell f.column = spell' f.column :=
    fun f hf => hfield f hf _ List.mem_cons_self
  have hindex : ∀ f ∈ s.fields.filter (·.indexed),
      spelledIndex spell s.table f.column = spelledIndex spell' s.table f.column := by
    intro f hf
    obtain ⟨hmem, hindexed⟩ := List.mem_filter.1 hf
    have hname := hfield f hmem _ (Field.indexName_mem_scriptNames s.table hindexed)
    unfold spelledIndex
    rw [hname, htable, hcolumn f hmem]
  have hkeys : spelledKey spell s = spelledKey spell' s := by
    have hcolumns : s.primaryKeys.map (fun f => spell f.column) = s.primaryKeys.map fun f => spell' f.column :=
      List.map_congr_left fun f hf => hcolumn f (List.mem_filter.1 hf).1
    rw [spelledKey, spelledKey, hcolumns]
  have hcolumns : s.fields.map (t.spelledColumn spell (hasInlineKey s)) =
      s.fields.map (t.spelledColumn spell' (hasInlineKey s)) :=
    List.map_congr_left fun f hf => spelledColumn_congr (hfield f hf) (hasInlineKey s)
  rw [spelled, spelled, htable, hcolumns, hkeys, List.map_congr_left hindex]

end TypeTable

/-! ## The names of declared schemas -/

namespace Schema

/-- **One spelling in all statements of a schema.** The names in its script pass the check of identifiers, and no
dialect puts quotes around them; the script is the one with bare names, and the statements that read and write rows
have the same bare names of the table and its columns. -/
structure SpellsAlike (s : Schema) (t : TypeTable) : Prop where
  checked : ∀ n ∈ s.scriptNames, Identifier.check n = .ok ()
  unquoted : ∀ n ∈ s.scriptNames, Identifier.quoteReserved t.dialect n = n
  created : t.script s = if s.isEmpty then .error .emptySchema else .ok (t.spelled id s)
  selected : ∀ {filter : Option Predicate} {u : Statement}, Assembly.select (some s) filter = .ok u →
    u.sql = "SELECT " ++ ", ".intercalate (s.fields.map fun g =>
      ColumnRef.text ⟨s.table, g.column⟩ ++ " AS " ++ ColumnRef.label ⟨s.table, g.column⟩) ++
      " FROM " ++ s.table ++ Predicate.whereLiteral (fun _ => "?") filter
  inserted : ∀ {values : ValueSource} {u : Statement}, Assembly.insert s values = .ok u →
    u.sql = "INSERT INTO " ++ s.table ++ " (" ++ ", ".intercalate ((values.given s.fields).map (·.column)) ++
      ") VALUES (" ++ ", ".intercalate ((values.given s.fields).map fun _ => "?") ++ ")"
  updated : ∀ {values : ValueSource} {filter : Option Predicate} {u : Statement},
    Assembly.update s values filter = .ok u → ∃ p, filter = some p ∧ u.sql = "UPDATE " ++ s.table ++ " SET " ++
      ", ".intercalate ((values.given s.fields).map fun g => g.column ++ " = ?") ++ " WHERE " ++ p.assemble.sql
  deleted : ∀ {filter : Option Predicate} {u : Statement}, Assembly.delete s filter = .ok u →
    ∃ p, filter = some p ∧ u.sql = "DELETE FROM " ++ s.table ++ " WHERE " ++ p.assemble.sql

variable {s : Schema}

/-- The names of a checked schema whose foreign keys refer to identifiers are valid. -/
theorem Checked.valid_of_mem_scriptNames (hs : s.Checked)
    (hkeys : ∀ f ∈ s.fields, ∀ k, f.foreignKey = some k → k.Valid) : ∀ n ∈ s.scriptNames, Identifier.Valid n := by
  rw [scriptNames, List.forall_mem_cons]
  refine ⟨hs.table, fun n hn => ?_⟩
  obtain ⟨f, hf, hn⟩ := List.mem_flatMap.1 hn
  have hcolumn := hs.columns f hf
  rcases List.mem_cons.1 hn with rfl | hn
  · exact hcolumn
  · rcases List.mem_append.1 hn with hn | hn
    · obtain ⟨k, hk, hn⟩ := List.mem_flatMap.1 hn
      obtain ⟨htable, htarget⟩ := hkeys f hf k (Option.mem_toList.1 hk)
      rcases List.mem_pair.1 hn with rfl | rfl
      · exact htable
      · exact htarget
    · split at hn
      · rw [List.mem_singleton.1 hn]
        exact hs.table.indexName hcolumn
      · exact absurd hn List.not_mem_nil

/-- The schema of a declaration is checked and stands under the name of its table. -/
theorem checked_of_ofDeclaration {d : Declaration} (h : Schema.ofDeclaration d = .ok s) :
    s.Checked ∧ s.qualifier = s.table := by
  obtain ⟨fields, -, h⟩ := bind_eq_ok_iff.1 h
  obtain ⟨table, -, h⟩ := bind_eq_ok_iff.1 h
  exact checked_of_new h

/-- **The statements of a declared schema spell its names alike**, in every dialect. -/
theorem spellsAlike_of_ofDeclaration {d : Declaration} (h : Schema.ofDeclaration d = .ok s) (t : TypeTable) :
    s.SpellsAlike t := by
  obtain ⟨hchecked, hqualifier⟩ := checked_of_ofDeclaration h
  have hvalid := hchecked.valid_of_mem_scriptNames fun f hf => (declared_of_mem h hf).foreignKey
  have hsource : s.source.text = s.table := by
    simp only [source, isAliased, hqualifier, bne_self_eq_false, Bool.false_eq_true, ↓reduceIte, TableRef.text]
  constructor
  · exact fun n hn => Identifier.check_eq_ok_iff.2 (hvalid n hn)
  · exact fun n hn => (hvalid n hn).quoteReserved t.dialect
  · have hbare : ∀ n ∈ s.scriptNames, t.name n = id n := fun n hn => (hvalid n hn).quoteReserved t.dialect
    rw [t.script_eq_spelled, TypeTable.spelled_congr hbare]
  · intro filter f hf
    rw [hchecked.lists.selected hf, hsource, ← hqualifier]
    rfl
  · exact hchecked.lists.inserted
  · exact hchecked.lists.updated
  · intro filter f hf
    obtain ⟨p, hfilter, -, hsql⟩ := Assembly.delete_sql hf
    exact ⟨p, hfilter, hsql⟩

/-- A record with two primary keys, of which one is embedded, and a reference to another table. -/
def orderLine : Declaration where
  typeName := "OrderLine"
  members := [.embedded "Base" "" "Base" [.field "ID" "pk" (.int 64)] none,
    .field "Owner" "index; default: 0; fk: accounts.user_id" (.optional (.int 64)),
    .field "Number" "pk; column: order_; type: INT" (.int 32)]

def orderLineFields : List Field :=
  [{ name := "ID", column := "id", type := .signed .w64, primaryKey := true, embedded := true },
    { name := "Number", column := "order_", type := .signed .w32, primaryKey := true, sqlType := some "INT" },
    { name := "Owner", column := "owner", type := .signed .w64, indexed := true, default := some "0",
      foreignKey := some ⟨"accounts", "user_id"⟩ }]

/-- Names next to reserved words are spelled alike too. -/
theorem spellsAlike_orderLine :
    let s : Schema := ⟨"order_line", "order_line", orderLineFields⟩
    Schema.ofDeclaration orderLine = .ok s ∧
      s.scriptNames = ["order_line", "id", "order_", "owner", "accounts", "user_id", "idx_order_line_owner"] ∧
      s.SpellsAlike Dialect.mysqlTypes := by
  have h : Schema.ofDeclaration orderLine = .ok ⟨"order_line", "order_line", orderLineFields⟩ := rfl
  exact ⟨h, by decide +kernel, spellsAlike_of_ofDeclaration h Dialect.mysqlTypes⟩

end Schema

end SchemaSql
