import Mathlib.Data.List.Nodup
import SchemaSql.Artifact.Basic
import SchemaSql.Proofs.Statement.Spelling
import SchemaSql.Proofs.Text.SnakeCase

/-!
# The constants of fields

A source text declares one constant for each field, under the name of the field in snake case and in upper case. Going
to snake case may make one name of two, and a name need not be a word. The way to upper case adds nothing to that but
for the few characters outside of ASCII that get capitals of ASCII: with these spelled out, the constants are usable
exactly if the names in snake case are distinct words (`usable_iff`). Only the columns of fields are checked, so that
nothing more is sure about a field with a column of its own (`constants_not_usable`).
-/

namespace SchemaSql

/-- **A field whose name is a word in snake case.** -/
def Field.Plain (f : Field) : Prop :=
  Identifier.isWord (SnakeCase.ofName f.name).toList = true

/-- **The name of a field in snake case, spelled with letters of ASCII** where these have the same upper form. -/
def Field.spelledName (f : Field) : String :=
  String.ofList (Text.spelled (SnakeCase.ofName f.name).toList)

theorem Field.spelledName_of_ascii {f : Field} (h : Text.Ascii (SnakeCase.ofName f.name).toList) :
    f.spelledName = SnakeCase.ofName f.name := by
  rw [spelledName, Text.spelled_of_ascii h, String.ofList_toList]

namespace Artifacts

/-- **Names under which constants can be declared side by side**: they are words, and no two are the same. -/
structure Usable (names : List String) : Prop where
  words : ∀ n ∈ names, Identifier.isWord n.toList = true
  distinct : names.Nodup

variable {f g : Field} {fs : List Field}

theorem toList_constantName (f : Field) :
    (constantName f).toList = Text.upper (SnakeCase.ofName f.name).toList := by
  rw [constantName, Text.uppercase, String.toList_ofList]

/-- **The name of a constant is a word** exactly if the name of the field, spelled in ASCII, is one in snake case. -/
theorem isWord_constantName_iff (f : Field) :
    Identifier.isWord (constantName f).toList = true ↔ Identifier.isWord f.spelledName.toList = true := by
  rw [toList_constantName, Identifier.isWord_upper_iff, Field.spelledName, String.toList_ofList]

/-- A spelled name has no capitals. -/
theorem not_isUpper_of_mem_spelledName {c : Char} (h : c ∈ f.spelledName.toList) : c.isUpper = false := by
  rw [Field.spelledName, String.toList_ofList] at h
  rcases Text.mem_spelled h with ⟨hlower, -⟩ | ⟨hmem, -⟩
  · exact hlower
  · exact SnakeCase.not_isUpper_of_mem_ofName hmem

/-- **Fields share a constant** whose name is a word exactly if they share a spelled name. -/
theorem constantName_eq_iff (hf : Identifier.isWord f.spelledName.toList = true)
    (hg : Identifier.isWord g.spelledName.toList = true) :
    constantName f = constantName g ↔ f.spelledName = g.spelledName := by
  have hupper (f : Field) : (constantName f).toList = Text.upper f.spelledName.toList := by
    rw [toList_constantName, Field.spelledName, String.toList_ofList, Text.upper_spelled]
  rw [← String.toList_inj, hupper, hupper, Text.upper_inj (Identifier.ascii_of_isWord hf)
    (Identifier.ascii_of_isWord hg) (fun _ => not_isUpper_of_mem_spelledName)
    (fun _ => not_isUpper_of_mem_spelledName), String.toList_inj]

/-- **The constants of fields are usable** exactly if the spelled names in snake case are distinct words. -/
theorem usable_iff (fs : List Field) : Usable (fs.map constantName) ↔
    (∀ f ∈ fs, Identifier.isWord f.spelledName.toList = true) ∧ (fs.map Field.spelledName).Nodup := by
  have hwords : (∀ n ∈ fs.map constantName, Identifier.isWord n.toList = true) ↔
      ∀ f ∈ fs, Identifier.isWord f.spelledName.toList = true := by
    rw [List.forall_mem_map]
    exact forall₂_congr fun f _ => isWord_constantName_iff f
  have hdistinct (h : ∀ f ∈ fs, Identifier.isWord f.spelledName.toList = true) :
      (fs.map constantName).Nodup ↔ (fs.map Field.spelledName).Nodup := by
    constructor
    · intro hconstants
      refine (List.Nodup.of_map _ hconstants).map_on fun f hf g hg heq => List.inj_on_of_nodup_map hconstants hf hg ?_
      exact (constantName_eq_iff (h f hf) (h g hg)).2 heq
    · intro hnames
      refine (List.Nodup.of_map _ hnames).map_on fun f hf g hg heq => List.inj_on_of_nodup_map hnames hf hg ?_
      exact (constantName_eq_iff (h f hf) (h g hg)).1 heq
  constructor
  · intro hu
    have hnames := hwords.1 hu.words
    exact ⟨hnames, (hdistinct hnames).1 hu.distinct⟩
  · rintro ⟨hnames, hnodup⟩
    exact ⟨hwords.2 hnames, (hdistinct hnames).2 hnodup⟩

/-- **With names in ASCII the constants are usable** exactly if the names in snake case are distinct words. -/
theorem usable_iff_of_ascii (h : ∀ f ∈ fs, Text.Ascii (SnakeCase.ofName f.name).toList) :
    Usable (fs.map constantName) ↔ (∀ f ∈ fs, f.Plain) ∧ (fs.map fun f => SnakeCase.ofName f.name).Nodup := by
  have hsame : ∀ f ∈ fs, f.spelledName = SnakeCase.ofName f.name := fun f hf => Field.spelledName_of_ascii (h f hf)
  rw [usable_iff, List.map_congr_left hsame]
  exact and_congr_left fun _ => forall₂_congr fun f hf => by rw [hsame f hf, Field.Plain]

/-- **The constants of plain fields are usable** exactly if the names in snake case are distinct. -/
theorem usable_iff_nodup (h : ∀ f ∈ fs, f.Plain) :
    Usable (fs.map constantName) ↔ (fs.map fun f => SnakeCase.ofName f.name).Nodup := by
  rw [usable_iff_of_ascii fun f hf => Identifier.ascii_of_isWord (h f hf)]
  exact and_iff_right h

/-- **When the constants that are declared for the fields of a record are usable.** There is one for each field, in the
order of columns. They are usable exactly if the names in snake case, with the few characters spelled out that get
capitals of ASCII, are distinct words. With names in ASCII these are the names in snake case, and every name that is a
word is one in snake case too. If no column was given, they are usable exactly if the columns are distinct. -/
theorem constants_usable {dialects : List Dialect} {d : Declaration} {a : Artifacts}
    (h : ofDeclaration dialects d = .ok a) :
    ∃ s, Schema.ofDeclaration d = .ok s ∧
      (∃ head, a.source =
        head ++ "\npub mod fields \x7b\n" ++ String.join (s.fields.map fieldConstant) ++ "\x7d\n") ∧
      (Usable (s.fields.map constantName) ↔
        (∀ f ∈ s.fields, Identifier.isWord f.spelledName.toList = true) ∧ (s.fields.map Field.spelledName).Nodup) ∧
      ((∀ f ∈ s.fields, Text.Ascii f.name.toList) →
        (Usable (s.fields.map constantName) ↔
          (∀ f ∈ s.fields, f.Plain) ∧ (s.fields.map fun f => SnakeCase.ofName f.name).Nodup)) ∧
      (∀ f ∈ s.fields, Identifier.isWord f.name.toList = true → f.Plain) ∧
      ((∀ f ∈ s.fields, f.column = SnakeCase.ofName f.name) →
        (Usable (s.fields.map constantName) ↔ (s.fields.map (·.column)).Nodup)) := by
  obtain ⟨s, hs, h⟩ := bind_eq_ok_iff.1 h
  obtain ⟨scripts, -, h⟩ := bind_eq_ok_iff.1 h
  cases h
  have hchecked := (Schema.checked_of_ofDeclaration hs).1
  refine ⟨s, hs, ⟨_, rfl⟩, usable_iff s.fields, fun hascii => ?_, fun f _ hf => ?_, fun hdefault => ?_⟩
  · exact usable_iff_of_ascii fun f hf => SnakeCase.ascii_ofName (hascii f hf)
  · exact SnakeCase.isWord_ofName hf
  · -- a column that was not given is the name in snake case, and columns are checked
    have hplain : ∀ f ∈ s.fields, f.Plain := by
      intro f hf
      rw [Field.Plain, ← hdefault f hf]
      exact (hchecked.columns f hf).1
    rw [usable_iff_nodup hplain, List.map_congr_left hdefault]

/-- A record with names that are words. -/
def visitors : Declaration :=
  ⟨"Visitors", [.field "UserID" "pk" (.int 64), .field "HTTPStatus" "" (.int 32), .field "_seen at" "" .dateTime],
    some (.literal "visitors")⟩

theorem constants_usable_visitors :
    ∃ a s, ofDeclaration Dialect.all visitors = .ok a ∧ Schema.ofDeclaration visitors = .ok s ∧
      s.fields.map constantName = ["USER_ID", "HTTP_STATUS", "_SEEN_AT"] ∧ Usable (s.fields.map constantName) := by
  have ha : ∃ a, ofDeclaration Dialect.all visitors = .ok a := ⟨_, rfl⟩
  obtain ⟨a, ha⟩ := ha
  obtain ⟨s, hs, -, -, -, -, hdefault⟩ := constants_usable ha
  refine ⟨a, s, ha, hs, ?_⟩
  cases hs
  exact ⟨rfl, (hdefault (by decide)).2 (by decide)⟩

/-- Two names that differ in case, of which one has a column of its own. -/
def twins : Declaration :=
  ⟨"T", [.field "ID" "" (.int 64), .field "Id" "column:other_id" .string], some (.literal "t")⟩

/-- A name that begins with a digit, with a column of its own. -/
def ranked : Declaration :=
  ⟨"T", [.field "1st" "column:first" (.int 64)], some (.literal "t")⟩

/-- **Constants may clash, and their names need not be words**: only the columns of the fields are checked. -/
theorem constants_not_usable :
    (∃ a s, ofDeclaration [.sqlite] twins = .ok a ∧ Schema.ofDeclaration twins = .ok s ∧
      s.fields.map constantName = ["ID", "ID"] ∧ ¬ Usable (s.fields.map constantName)) ∧
    (∃ a s, ofDeclaration [.sqlite] ranked = .ok a ∧ Schema.ofDeclaration ranked = .ok s ∧
      s.fields.map constantName = ["1_ST"] ∧ ¬ Usable (s.fields.map constantName)) := by
  have htwins : Schema.ofDeclaration twins = .ok ⟨"t", "t",
      [{ name := "ID", column := "id", type := .signed .w64 }, { name := "Id", column := "other_id", type := .text }]⟩ :=
    rfl
  have hranked : Schema.ofDeclaration ranked = .ok ⟨"t", "t",
      [{ name := "1st", column := "first", type := .signed .w64 }]⟩ := rfl
  have hclash : ¬ Usable ["ID", "ID"] := fun h => absurd h.distinct (by decide)
  have hdigit : ¬ Usable ["1_ST"] := fun h => absurd (h.words "1_ST" List.mem_cons_self) (by decide)
  exact ⟨⟨_, _, rfl, htwins, rfl, hclash⟩, ⟨_, _, rfl, hranked, rfl, hdigit⟩⟩

end Artifacts

end SchemaSql
