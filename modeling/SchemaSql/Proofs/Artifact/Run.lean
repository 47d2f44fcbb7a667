import SchemaSql.Artifact.Write
import SchemaSql.Proofs.Artifact.Tree
import SchemaSql.Proofs.Statement.Spelling
import SchemaSql.Proofs.Steps
import Mathlib.Data.List.Nodup

/-!
# All artifacts or none

Generating either fails, and then nothing is touched, or decides all files of a declaration (`Planned`). Their names
start with that of the table, which is a word, so the path of each of them leads directly inside the output directory,
apart from the others. Writing makes missing directories on the way and then the files in their order, and stops only
where something is in the way or goes wrong (`ran_run`).

A link makes a path lead elsewhere: a file is then written where the link leads. In a tree without links every path
leads where it says (`RanInside`).
-/

namespace SchemaSql

namespace Artifacts

open FilePath FileTree FileSystem

variable {c : ArtifactConfig} {d : Declaration} {s : Schema} {table : String}

/-! ## The names of the files -/

/-- The name of the script of a dialect. -/
def scriptFile (table : String) (dialect : Dialect) : String :=
  table ++ "." ++ dialect.name ++ ".sql"

theorem scriptFile_eq (table : String) (dialect : Dialect) :
    scriptFile table dialect = table ++ ("." ++ dialect.name ++ ".sql") := by
  rw [scriptFile, String.append_assoc, String.append_assoc, String.append_assoc]

theorem scriptFile_injective (table : String) : Function.Injective (scriptFile table) := by
  intro a b h
  rw [scriptFile_eq, scriptFile_eq, String.append_right_inj] at h
  cases a <;> cases b <;> first | rfl | exact absurd h (by decide)

theorem sourceName_ne_scriptFile (dialect : Dialect) : sourceName table ≠ scriptFile table dialect := by
  rw [scriptFile_eq, sourceName, ne_eq, String.append_right_inj]
  cases dialect <;> decide

/-- **Why nothing is generated**: the declaration becomes no schema, for a fault in what it declares, or its schema has
no fields and there are dialects to write scripts in. -/
inductive Refused (c : ArtifactConfig) (d : Declaration) : Error → Prop
  | declaration {e : Error} (h : Schema.ofDeclaration d = .error e) (hmetadata : e.isMetadata = true) : Refused c d e
  | empty {s : Schema} (h : Schema.ofDeclaration d = .ok s) (hfields : s.fields = []) (hdialects : c.dialects ≠ []) :
      Refused c d .emptySchema

/-- **A schema has a script in each dialect.** -/
def Scripted (s : Schema) (dialects : List Dialect) (scripts : List TableScript) : Prop :=
  List.Forall₂ (fun dialect script => dialect.types.script s = .ok script) dialects scripts

/-- The files with the scripts of a table. -/
def scriptFiles (table : String) (dialects : List Dialect) (scripts : List TableScript) : List (String × String) :=
  List.zipWith (fun dialect script => (scriptFile table dialect, script.text)) dialects scripts

/-- **The files of a schema** with its scripts. -/
def planned (c : ArtifactConfig) (typeName : String) (s : Schema) (scripts : List TableScript) :
    List (String × String) :=
  (if c.withSource then [(sourceName s.table, sourceText typeName s)] else []) ++
    scriptFiles s.table c.dialects scripts

/-- **The files of a declaration**: its source text and the script of each dialect, in their order. They stand directly
in the output directory, apart from each other if the dialects are distinct. -/
structure Planned (c : ArtifactConfig) (d : Declaration) (written : List (String × String)) : Prop where
  made : ∃ s scripts, Schema.ofDeclaration d = .ok s ∧ Scripted s c.dialects scripts ∧
    written = planned c d.typeName s scripts
  inside : ∀ f ∈ written, located (join c.directory f.1) = located c.directory ++ [f.1]
  distinct : c.dialects.Nodup → (written.map fun f => located (join c.directory f.1)).Nodup

variable {dialects : List Dialect} {scripts : List TableScript} {written : List (String × String)} {e : Error}

theorem mem_scriptFiles {f : String × String} (h : Scripted s dialects scripts)
    (hf : f ∈ scriptFiles table dialects scripts) :
    ∃ dialect script, dialect.types.script s = .ok script ∧ f = (scriptFile table dialect, script.text) := by
  induction h with
  | nil => exact absurd hf List.not_mem_nil
  | cons hfirst _ ih =>
    rcases List.mem_cons.1 hf with rfl | hf
    · exact ⟨_, _, hfirst, rfl⟩
    · exact ih hf

/-- Files of one name hold the same. -/
def Coherent (files : List (String × String)) : Prop :=
  ∀ f ∈ files, ∀ g ∈ files, f.1 = g.1 → f.2 = g.2

/-- Planned files of one name hold the same, even if a dialect occurs twice. -/
theorem coherent_planned (typeName : String) (h : Scripted s c.dialects scripts) :
    Coherent (planned c typeName s scripts) := by
  have hmem : ∀ f ∈ planned c typeName s scripts, f = (sourceName s.table, sourceText typeName s) ∨
      ∃ dialect script, dialect.types.script s = .ok script ∧ f = (scriptFile s.table dialect, script.text) := by
    intro f hf
    rcases List.mem_append.1 hf with hf | hf
    · split at hf
      · exact .inl (List.mem_singleton.1 hf)
      · exact absurd hf List.not_mem_nil
    · exact .inr (mem_scriptFiles h hf)
  intro f hf g hg hname
  rcases hmem f hf with rfl | ⟨a, script, ha, rfl⟩ <;> rcases hmem g hg with rfl | ⟨b, script', hb, rfl⟩
  · rfl
  · exact absurd hname (sourceName_ne_scriptFile b)
  · exact absurd hname.symm (sourceName_ne_scriptFile a)
  · obtain rfl := scriptFile_injective s.table hname
    rw [Except.ok.inj (ha.symm.trans hb)]

theorem Planned.coherent (h : Planned c d written) : Coherent written := by
  obtain ⟨s, scripts, -, hscripts, rfl⟩ := h.made
  exact coherent_planned d.typeName hscripts

/-- There is one reason. -/
theorem Refused.unique {e' : Error} (h : Refused c d e) (h' : Refused c d e') : e = e' := by
  cases h with
  | declaration h _ =>
    cases h' with
    | declaration h' _ => exact Except.error.inj (h.symm.trans h')
    | empty h' _ _ => cases h.symm.trans h'
  | empty h _ _ =>
    cases h' with
    | declaration h' _ => cases h.symm.trans h'
    | empty _ _ _ => rfl

/-! ## Writing -/

/-- **How a run ends**, by the tree and the result that it leaves:
* it is refused, and the tree is the same;
* all files are written where their paths lead, their directory and those on the way are there, and the result is
  their paths;
* the output directory cannot be made, and no file is touched;
* a file cannot be written, and the files before it are; of this one its first bytes may be.

Nothing else is touched, except that missing directories on the way to the output directory are made. Where names lead
in a tree is a parameter. -/
inductive Ran (sys : FileSystem) (leads : FileTree → List String → Option FilePath) (c : ArtifactConfig)
    (d : Declaration) (t : FileTree) : FileTree × Except Error (List String) → Prop
  | refused {e : Error} (h : Refused c d e) : Ran sys leads c d t (t, .error e)
  | complete {written : List (String × String)} {ws : List (FilePath × ByteArray)} {t' : FileTree}
      (h : Planned c d written) (placed : Placed (leads t') (below c.directory written) ws)
      (wrote : Wrote t (OnWay (leads t') (names c.directory)) ws t')
      (opened : Opened (leads t') t' (names c.directory)) :
      Ran sys leads c d t (t', .ok (written.map fun f => join c.directory f.1))
  | unopened {written : List (String × String)} {t' : FileTree} (h : Planned c d written)
      (wrote : Wrote t (OnWay (leads t') (names c.directory)) [] t') (hstop : Unopened sys t' c.directory) :
      Ran sys leads c d t (t', .error .io)
  | stopped {done rest : List (String × String)} {next : String × String} {ws : List (FilePath × ByteArray)}
      {t₁ t' : FileTree} (h : Planned c d (done ++ next :: rest))
      (placed : Placed (leads t₁) (below c.directory done) ws)
      (wrote : Wrote t (OnWay (leads t₁) (names c.directory)) ws t₁)
      (hstop : Unwritten sys (leads t₁) t₁ (join c.directory next.1) next.2 t') :
      Ran sys leads c d t (t', .error .io)

theorem Scripted.unique {scripts' : List TableScript} (h : Scripted s dialects scripts)
    (h' : Scripted s dialects scripts') : scripts = scripts' := by
  induction h generalizing scripts' with
  | nil => cases h'; rfl
  | cons hfirst _ ih =>
    cases h' with
    | cons hfirst' hrest => rw [Except.ok.inj (hfirst.symm.trans hfirst'), ih hrest]

/-- The files of a declaration are decided by it. -/
theorem Planned.unique {written' : List (String × String)} (h : Planned c d written) (h' : Planned c d written') :
    written = written' := by
  obtain ⟨s, scripts, hs, hscripts, rfl⟩ := h.made
  obtain ⟨s', scripts', hs', hscripts', rfl⟩ := h'.made
  obtain rfl := Except.ok.inj (hs.symm.trans hs')
  rw [hscripts.unique hscripts']

variable {sys : FileSystem} {t : FileTree} {r : FileTree × Except Error (List String)}

/-- **How a run ends in a tree without links**: files stand where their paths say, directly inside the output directory,
and if the run succeeds each of them holds what was planned. -/
structure RanInside (sys : FileSystem) (c : ArtifactConfig) (d : Declaration) (t : FileTree)
    (r : FileTree × Except Error (List String)) : Prop where
  ran : Ran sys said? c d t r
  holds : ∀ written paths, Planned c d written → r.2 = .ok paths →
    ∀ f ∈ written, r.1.get? (located c.directory ++ [f.1]) = some (.file f.2.toUTF8)

theorem Ran.said (h : Ran sys sys.place? c d t r) (ht : t.Linkless) : Ran sys said? c d t r := by
  have hleads {made : FilePath → Prop} {ws : List (FilePath × ByteArray)} {t' : FileTree} (h : Wrote t made ws t')
      (ns : List String) (p : FilePath) : sys.place? t' ns = some p → t'.said? ns = some p :=
    said?_of_place? (h.kept.linkless ht)
  cases h with
  | refused h => exact .refused h
  | complete h placed wrote opened =>
    have hto := hleads wrote
    exact .complete h (placed.imp hto) (wrote.mono fun _ hq => hq.imp hto) (opened.imp hto)
  | unopened h wrote hstop => exact .unopened h (wrote.mono fun _ hq => hq.imp (hleads wrote)) hstop
  | stopped h placed wrote hstop =>
    have hto := hleads wrote
    exact .stopped h (placed.imp hto) (wrote.mono fun _ hq => hq.imp hto) (hstop.imp hto)

/-- Files stand where their paths say. -/
theorem placed_said {files : List (String × String)} {ws : List (FilePath × ByteArray)}
    (h : Placed t.said? files ws) : ws = files.map fun f => (located f.1, f.2.toUTF8) := by
  induction h with
  | nil => rfl
  | cons hfirst _ ih =>
    obtain ⟨hplace, hcontent⟩ := hfirst
    rw [List.map_cons, ← ih, ← hcontent]
    exact congrArg (fun p => (p, _) :: _) (Option.some.inj hplace).symm

theorem Ran.inside (h : Ran sys sys.place? c d t r) (ht : t.Linkless) : RanInside sys c d t r := by
  refine ⟨h.said ht, fun written paths hplanned hpaths f hf => ?_⟩
  generalize h.said ht = hsaid
  cases hsaid with
  | refused => cases hpaths
  | unopened => cases hpaths
  | stopped => cases hpaths
  | @complete written' ws t' hplanned' placed wrote opened =>
    obtain rfl := hplanned.unique hplanned'
    have hws : ws = written.map fun f => (located c.directory ++ [f.1], f.2.toUTF8) := by
      rw [placed_said placed, below, List.map_map]
      exact List.map_congr_left fun f hf => congrArg (·, f.2.toUTF8) (hplanned.inside f hf)
    refine wrote.holds (w := (located c.directory ++ [f.1], f.2.toUTF8)) (hws ▸ List.mem_map_of_mem hf) ?_
    intro v hv hpath
    rw [hws] at hv
    obtain ⟨g, hg, rfl⟩ := List.mem_map.1 hv
    have hname : g.1 = f.1 := List.singleton_injective (List.append_cancel_left hpath)
    rw [hplanned.coherent g hg f hf hname]

end Artifacts

end SchemaSql
