import SchemaSql.Proofs.Statement.Spelling

/-!
# The statements of a written script

A script is written with a semicolon at the end of the last line of each statement. It can be taken apart there
because no statement has a semicolon of its own: `TableScript.cut` cuts a text behind every semicolon at the end of a
line, and recovers the statements of any script of which this holds (`TableScript.cut_text`). It holds of the schemas
of declarations, in every dialect: their names are identifiers, the texts of their tags end at semicolons, and neither
the tables of column types nor the words of the statements have one.

Overrides and literals may well hold line breaks, commas and parentheses, so nothing is said of the parts of a
statement, only of where it ends.
-/

namespace SchemaSql

/-! ## Cutting a text into statements -/

namespace Text

/-- The texts before the semicolons at the ends of lines, and what follows the last of these. -/
def cutStatements : List Char → List (List Char)
  | [] => []
  | ';' :: '\n' :: rest => [] :: cutStatements rest
  | c :: rest =>
    match cutStatements rest with
    | p :: ps => (c :: p) :: ps
    | [] => [[c]]

/-- A text without a semicolon is cut off as a whole. -/
theorem cutStatements_append {cs : List Char} (h : ';' ∉ cs) (rest : List Char) :
    cutStatements (cs ++ ';' :: '\n' :: rest) = cs :: cutStatements rest := by
  induction cs with
  | nil => rfl
  | cons c cs ih =>
    obtain ⟨hc, hcs⟩ := not_or.1 fun hm => h (List.mem_cons.2 hm)
    rw [List.cons_append, cutStatements, ih hcs]
    exact fun _ e => absurd e.symm hc

end Text

namespace TableScript

/-- **The statements that a text holds**, each up to a semicolon at the end of a line. -/
def cut (text : String) : List String :=
  (Text.cutStatements text.toList).map String.ofList

/-- **The text of a script is cut into its statements** if none of them has a semicolon. -/
theorem cut_text {script : TableScript} (h : ∀ t ∈ script.statements, Text.Lacks ';' t) :
    cut script.text = script.statements := by
  rw [cut, text]
  generalize script.statements = ts at h
  induction ts with
  | nil => rfl
  | cons t ts ih =>
    obtain ⟨ht, hts⟩ := List.forall_mem_cons.1 h
    have hend : ";\n".toList = [';', '\n'] := rfl
    rw [List.map_cons, String.join_cons, String.toList_append, String.toList_append, hend, List.append_assoc,
      List.cons_append, List.singleton_append, Text.cutStatements_append ht, List.map_cons, String.ofList_toList,
      ih hts]

end TableScript

/-! ## Texts that go into a script -/

/-- **No text of a table of column types has a semicolon.** -/
structure TypeTable.Unbroken (t : TypeTable) : Prop where
  types : ∀ e ∈ t.types, Text.Lacks ';' e.2
  keyTemplate : Text.Lacks ';' t.keyTemplate
  keyTypes : ∀ e ∈ t.keyTypes, Text.Lacks ';' e.2
  fallback : Text.Lacks ';' t.fallback

/-- The table of a dialect is unbroken. -/
theorem Dialect.unbroken_types (d : Dialect) : d.types.Unbroken := by
  cases d <;> exact ⟨by decide, by decide, by decide, by decide⟩

/-- **No text that a field brings into a script has a semicolon.** -/
structure Field.Unbroken (f : Field) : Prop where
  column : Text.Lacks ';' f.column
  sqlType : ∀ text, f.sqlType = some text → Text.Lacks ';' text
  default : ∀ text, f.default = some text → Text.Lacks ';' text
  foreignKey : ∀ k, f.foreignKey = some k → Text.Lacks ';' k.table ∧ Text.Lacks ';' k.column

/-- **No text that a schema brings into its script has a semicolon.** -/
structure Schema.Unbroken (s : Schema) : Prop where
  table : Text.Lacks ';' s.table
  fields : ∀ f ∈ s.fields, f.Unbroken

namespace TypeTable

variable {t : TypeTable} {f : Field} {s : Schema}

/-- Quotes are no semicolons. -/
theorem lacks_name (t : TypeTable) {n : String} (h : Text.Lacks ';' n) : Text.Lacks ';' (t.name n) := by
  unfold name Identifier.quoteReserved
  split
  · have hquote : ';' ≠ t.dialect.quoteChar := by cases t.dialect <;> decide
    rw [Text.Lacks, Identifier.quote, String.toList_ofList]
    exact fun hc => h (Text.Doubled.mem_of_mem_encode hquote hc)
  · exact h

/-- A template is filled in with the characters of a type and its own. -/
theorem mem_fillTemplate {c : Char} {type template : List Char} (h : c ∈ fillTemplate type template) :
    c ∈ type ∨ c ∈ template := by
  fun_induction fillTemplate type template with
  | case1 rest ih =>
    rcases List.mem_append.1 h with h | h
    · exact .inl h
    · exact (ih h).imp_right fun h => by simp only [List.mem_cons, h, or_true]
  | case2 d rest _ ih =>
    rcases List.mem_cons.1 h with rfl | h
    · exact .inr List.mem_cons_self
    · exact (ih h).imp_right (List.mem_cons_of_mem d)
  | case3 => exact absurd h List.not_mem_nil

theorem Unbroken.columnType (ht : t.Unbroken) (hf : f.Unbroken) : Text.Lacks ';' (t.columnType f.type f.sqlType) := by
  unfold TypeTable.columnType
  dsimp only
  split
  · rw [Text.Lacks, Text.trimmed, String.toList_ofList]
    intro hc
    cases hs : f.sqlType with
    | none => rw [hs] at hc; exact absurd (Text.mem_of_mem_trim hc) List.not_mem_nil
    | some text => rw [hs] at hc; exact hf.sqlType text hs (Text.mem_of_mem_trim hc)
  · cases hl : t.types.lookup f.type with
    | none => exact ht.fallback
    | some type =>
      obtain ⟨before, after, htypes, -⟩ := List.lookup_eq_some_iff.1 hl
      exact ht.types (f.type, type) (htypes ▸ List.mem_append_right _ List.mem_cons_self)

theorem Unbroken.keyClause (ht : t.Unbroken) (type : ScalarType) {sqlType : String} (h : Text.Lacks ';' sqlType) :
    Text.Lacks ';' (t.keyClause type sqlType).1 := by
  unfold TypeTable.keyClause
  split
  · rw [Text.Lacks, String.toList_ofList]
    intro hc
    rcases mem_fillTemplate hc with hc | hc
    · split at hc
      · rename_i e he
        exact ht.keyTypes e (List.mem_of_find?_eq_some he) hc
      · exact h hc
    · exact ht.keyTemplate hc
  · exact Text.lacks_append.2 ⟨h, by decide⟩

theorem Unbroken.typeClause (ht : t.Unbroken) (hf : f.Unbroken) (inlineKey : Bool) :
    Text.Lacks ';' (t.typeClause f inlineKey).1 := by
  have htype := ht.columnType hf
  unfold TypeTable.typeClause
  dsimp only
  split
  · exact ht.keyClause f.type htype
  · dsimp only
    split
    · exact Text.lacks_append.2 ⟨htype, by decide⟩
    · exact htype

/-- The clauses behind the type of a column have no semicolons. -/
theorem lacks_of_mem_constraints (hf : f.Unbroken) : ∀ c ∈ t.constraints f, Text.Lacks ';' c := by
  unfold constraints
  simp only [List.forall_mem_append]
  refine ⟨⟨?_, ?_⟩, ?_⟩
  · split
    · exact List.forall_mem_singleton.2 (by decide)
    · exact List.forall_mem_nil _
  · split
    · rename_i d hd
      exact List.forall_mem_singleton.2 (Text.lacks_append.2 ⟨by decide, hf.default d hd⟩)
    · exact List.forall_mem_nil _
  · split
    · rename_i k hk
      obtain ⟨htable, hcolumn⟩ := hf.foreignKey k hk
      refine List.forall_mem_singleton.2 ?_
      simp +decide only [Text.lacks_append, t.lacks_name htable, t.lacks_name hcolumn, and_self]
    · exact List.forall_mem_nil _

/-- **The definition of a column has no semicolon.** -/
theorem Unbroken.columnDefinition (ht : t.Unbroken) (hf : f.Unbroken) (inlineKey : Bool) :
    Text.Lacks ';' (t.columnDefinition f inlineKey).1 := by
  rw [columnDefinition_fst]
  refine Text.lacks_intercalate (by decide) ?_
  rw [List.forall_mem_cons, List.forall_mem_cons]
  exact ⟨t.lacks_name hf.column, ht.typeClause hf inlineKey, lacks_of_mem_constraints hf⟩

theorem lacks_createIndex (t : TypeTable) {table column : String} (ht : Text.Lacks ';' table)
    (hc : Text.Lacks ';' column) : Text.Lacks ';' (t.createIndex table column) := by
  have hplain : Text.Lacks ';' ("idx_" ++ table ++ "_" ++ column) := by
    simp +decide only [Text.lacks_append, ht, hc, and_self]
  have hindex := t.lacks_name hplain
  have htable := t.lacks_name ht
  have hcolumn := t.lacks_name hc
  unfold createIndex
  simp only [Text.lacks_append]
  refine ⟨⟨⟨⟨⟨⟨?_, hindex⟩, ?_⟩, htable⟩, ?_⟩, hcolumn⟩, ?_⟩
  all_goals decide

/-- The constraint for several primary keys has no semicolon. -/
theorem lacks_of_mem_keyConstraint (hs : s.Unbroken) : ∀ c ∈ t.keyConstraint s, Text.Lacks ';' c := by
  unfold keyConstraint
  split
  · have hkeys : Text.Lacks ';' (", ".intercalate (s.primaryKeys.map fun f => t.name f.column)) :=
      Text.lacks_intercalate (by decide) (List.forall_mem_map.2 fun f hf =>
        t.lacks_name (hs.fields f (List.mem_filter.1 hf).1).column)
    refine List.forall_mem_singleton.2 ?_
    simp +decide only [Text.lacks_append, hkeys, and_self]
  · exact List.forall_mem_nil _

/-- **No statement of a script has a semicolon** if none comes into it with the schema or the column types. -/
theorem Unbroken.statements (ht : t.Unbroken) (hs : s.Unbroken) {script : TableScript} (h : t.script s = .ok script) :
    ∀ st ∈ script.statements, Text.Lacks ';' st := by
  have hparts : ∀ c ∈ t.tableBody s, Text.Lacks ';' c := by
    rw [tableBody, List.forall_mem_append]
    exact ⟨List.forall_mem_map.2 fun f hf => ht.columnDefinition (hs.fields f hf) _, lacks_of_mem_keyConstraint hs⟩
  have hbody : Text.Lacks ';' (",\n    ".intercalate (t.tableBody s)) := Text.lacks_intercalate (by decide) hparts
  obtain ⟨hcreate, hindexes⟩ := script_ok h
  rw [TableScript.statements, hcreate, hindexes]
  refine List.forall_mem_cons.2 ⟨?_, List.forall_mem_map.2 fun f hf => ?_⟩
  · simp +decide only [Text.lacks_append, t.lacks_name hs.table, hbody, and_self]
  · exact t.lacks_createIndex hs.table (hs.fields f (List.mem_filter.1 hf).1).column

end TypeTable

/-! ## Scripts of declared schemas -/

namespace Schema

variable {s : Schema}

/-- **No semicolon comes into a script with the schema of a declaration**: identifiers have none, and tags let none
through. -/
theorem unbroken_of_ofDeclaration {d : Declaration} (h : Schema.ofDeclaration d = .ok s) : s.Unbroken := by
  obtain ⟨hchecked, -⟩ := checked_of_ofDeclaration h
  refine ⟨hchecked.table.lacks (by decide), fun f hf => ?_⟩
  obtain ⟨tag, t, ht, htagged⟩ := exists_tag h hf
  have hproper := Tag.proper_of_parse ht
  constructor
  · exact (hchecked.columns f hf).lacks (by decide)
  · exact fun text htext => Tag.lacks_of_parse ht (.inl (htagged.sqlType ▸ htext))
  · exact fun text htext => Tag.lacks_of_parse ht (.inr (htagged.default ▸ htext))
  · intro k hk
    obtain ⟨htable, hcolumn⟩ := hproper.foreignKey k (htagged.foreignKey ▸ hk)
    exact ⟨htable.lacks (by decide), hcolumn.lacks (by decide)⟩

/-- **The written script of a declared schema is cut into its statements**, in every dialect: none of them has a
semicolon, and they are the one that creates the table and one for each index. -/
theorem cut_text_of_ofDeclaration {d : Declaration} (h : Schema.ofDeclaration d = .ok s) (hs : s.isEmpty = false)
    (dialect : Dialect) :
    ∃ script, dialect.types.script s = .ok script ∧ (∀ st ∈ script.statements, ';' ∉ st.toList) ∧
      TableScript.cut script.text = script.statements ∧
      script.statements =
        ("CREATE TABLE " ++ s.table ++ " (\n    " ++ ",\n    ".intercalate (dialect.types.tableBody s) ++ "\n)") ::
          (s.fields.filter (·.indexed)).map fun f => dialect.types.createIndex s.table f.column := by
  have hname : dialect.types.name s.table = s.table := (checked_of_ofDeclaration h).1.table.quoteReserved _
  obtain ⟨script, hok⟩ := dialect.types.exists_script hs
  obtain ⟨hcreate, hindexes⟩ := TypeTable.script_ok hok
  have hlacks := dialect.unbroken_types.statements (unbroken_of_ofDeclaration h) hok
  refine ⟨script, hok, hlacks, TableScript.cut_text hlacks, ?_⟩
  rw [TableScript.statements, hcreate, hindexes, hname]

/-- A record whose tags have line breaks, commas and parentheses in their overrides and literals. -/
def ledgerLine : Declaration where
  typeName := "LedgerLine"
  members := [.embedded "Base" "" "Base" [.field "Note" "index;default:'a),\n    b: \n';type: VARCHAR(8)\n" .string] none,
    .field "ID" "pk; type:\nNUMERIC(10, 2)" (.int 64)]

def ledgerLineFields : List Field :=
  [{ name := "ID", column := "id", type := .signed .w64, primaryKey := true, sqlType := some "NUMERIC(10, 2)" },
    { name := "Note", column := "note", type := .text, indexed := true, embedded := true,
      sqlType := some "VARCHAR(8)", default := some "'a),\n    b: \n'" }]

/-- Statements over several lines are taken apart in the right places. -/
theorem cut_text_ledgerLine :
    let s : Schema := ⟨"ledger_line", "ledger_line", ledgerLineFields⟩
    Schema.ofDeclaration ledgerLine = .ok s ∧ s.isEmpty = false ∧
      (Dialect.postgresTypes.script s).map (·.statements) =
        .ok ["CREATE TABLE ledger_line (\n    id NUMERIC(10, 2) PRIMARY KEY,\n    " ++
            "note VARCHAR(8) DEFAULT 'a),\n    b: \n'\n)",
          "CREATE INDEX idx_ledger_line_note ON ledger_line (note)"] ∧
      ∃ script, Dialect.postgresTypes.script s = .ok script ∧ TableScript.cut script.text = script.statements := by
  have h : Schema.ofDeclaration ledgerLine = .ok ⟨"ledger_line", "ledger_line", ledgerLineFields⟩ := rfl
  obtain ⟨script, hok, -, hcut, -⟩ := cut_text_of_ofDeclaration h rfl .postgres
  exact ⟨h, rfl, rfl, script, hok, hcut⟩

end Schema

end SchemaSql
