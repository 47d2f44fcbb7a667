import Mathlib.Data.List.Induction
import SchemaSql.Declaration.Fields
import SchemaSql.Proofs.Declaration.Directive

/-!
# The grammar of tags

A tag renders a list of directives if the pieces between its semicolons state them in their order, with blank pieces
anywhere among them (`Tag.Renders`). The tags that can be read are those that render some list (`Tag.parse_eq_ok_iff`),
and what is read is what the list says: a flag is set if its directive occurs, and of several values under one key the
last one counts (`Tag.Says`). So directives of different keys may change places (`Tag.Says.rearranged`).
-/

namespace SchemaSql

namespace Directive

def column? : Directive → Option String
  | column name => some name
  | _ => none

def sqlType? : Directive → Option String
  | sqlType text => some text
  | _ => none

def default? : Directive → Option String
  | default literal => some literal
  | _ => none

def foreignKey? : Directive → Option ForeignKey
  | foreignKey target => some target
  | _ => none

variable {d : Directive} {ds es : List Directive}

theorem column?_eq_some_iff {name : String} : d.column? = some name ↔ d = column name := by
  cases d <;> simp [column?]

theorem sqlType?_eq_some_iff {text : String} : d.sqlType? = some text ↔ d = sqlType text := by
  cases d <;> simp [sqlType?]

theorem default?_eq_some_iff {literal : String} : d.default? = some literal ↔ d = default literal := by
  cases d <;> simp [default?]

theorem foreignKey?_eq_some_iff {target : ForeignKey} : d.foreignKey? = some target ↔ d = foreignKey target := by
  cases d <;> simp [foreignKey?]

/-- **The same directives in another order** that keeps the order of those with one key. -/
def Rearranged (ds es : List Directive) : Prop :=
  ∀ key : String, (es.filter fun d => d.key = key) = ds.filter fun d => d.key = key

theorem Rearranged.mem_iff (h : Rearranged ds es) (d : Directive) : d ∈ es ↔ d ∈ ds := by
  have hmem : d ∈ es.filter (fun e => e.key = d.key) ↔ d ∈ ds.filter fun e => e.key = d.key := by rw [h d.key]
  simpa only [List.mem_filter, decide_true, and_true] using hmem

/-- What is taken from directives of one key is the same, in the same order. -/
theorem Rearranged.filterMap_eq (h : Rearranged ds es) {α : Type} {f : Directive → Option α} (key : String)
    (hf : ∀ d a, f d = some a → d.key = key) : es.filterMap f = ds.filterMap f := by
  have hkeep : ∀ ds : List Directive, (ds.filter fun d => d.key = key).filterMap f = ds.filterMap f := by
    intro ds
    rw [List.filterMap_filter]
    refine List.filterMap_congr fun d _ => ?_
    cases hd : f d with
    | none => exact ite_self none
    | some a => rw [if_pos (decide_eq_true (hf d a hd))]
  rw [← hkeep es, h key, hkeep ds]

end Directive

namespace Tag

open Text

/-- **Pieces that list directives**: each of them is blank or states the next directive. -/
inductive Lists : List Directive → List (List Char) → Prop
  | nil : Lists [] []
  | blank {ds : List Directive} {p : List Char} {ps : List (List Char)} (hp : Blank p) (h : Lists ds ps) :
    Lists ds (p :: ps)
  | directive {d : Directive} {ds : List Directive} {p : List Char} {ps : List (List Char)} (hd : d.Givable)
    (hp : d.Stated p) (h : Lists ds ps) : Lists (d :: ds) (p :: ps)

/-- **A tag that renders directives**: pieces that list them, with semicolons between the pieces. -/
def Renders (ds : List Directive) (tag : String) : Prop :=
  ∃ ps, Lists ds ps ∧ tag.toList = [';'].intercalate ps

/-- **What a list of directives says.** A flag is set if its directive occurs; of several columns, overrides, literals
or foreign keys the last one counts. -/
structure Says (t : Tag) (ds : List Directive) : Prop where
  ignore : t.ignore = true ↔ .ignore ∈ ds
  primaryKey : t.primaryKey = true ↔ .primaryKey ∈ ds
  notNull : t.notNull = true ↔ .notNull ∈ ds
  unique : t.unique = true ↔ .unique ∈ ds
  index : t.index = true ↔ .index ∈ ds
  column : t.column = (ds.filterMap Directive.column?).getLast?
  sqlType : t.sqlType = (ds.filterMap Directive.sqlType?).getLast?
  default : t.default = (ds.filterMap Directive.default?).getLast?
  foreignKey : t.foreignKey = (ds.filterMap Directive.foreignKey?).getLast?

variable {t u : Tag} {d : Directive} {ds es : List Directive} {ps : List (List Char)} {tag : String}

/-! ## What directives say -/

/-- **One more directive** says what it says after all others. -/
theorem Says.apply (h : t.Says ds) (d : Directive) : (t.apply d).Says (ds ++ [d]) := by
  obtain ⟨hignore, hprimaryKey, hnotNull, hunique, hindex, hcolumn, hsqlType, hdefault, hforeignKey⟩ := h
  cases d <;> constructor <;>
    simp only [Tag.apply, List.mem_append, List.mem_singleton, reduceCtorEq, or_false, or_true, List.filterMap_append,
      List.filterMap_cons, List.filterMap_nil, Directive.column?, Directive.sqlType?, Directive.default?,
      Directive.foreignKey?, List.append_nil, List.getLast?_append, List.getLast?_singleton, Option.some_or, *]

theorem says_ofDirectives (ds : List Directive) : (ofDirectives ds).Says ds := by
  induction ds using List.reverseRecOn with
  | nil => exact ⟨by decide, by decide, by decide, by decide, by decide, rfl, rfl, rfl, rfl⟩
  | append_singleton ds d ih =>
    rw [ofDirectives, List.foldl_concat]
    exact ih.apply d

/-- A list of directives says one thing only. -/
theorem Says.eq (ht : t.Says ds) (hu : u.Says ds) : t = u := by
  cases t
  cases u
  rw [mk.injEq]
  exact ⟨Bool.eq_iff_iff.2 (ht.ignore.trans hu.ignore.symm), Bool.eq_iff_iff.2 (ht.primaryKey.trans hu.primaryKey.symm),
    Bool.eq_iff_iff.2 (ht.notNull.trans hu.notNull.symm), Bool.eq_iff_iff.2 (ht.unique.trans hu.unique.symm),
    Bool.eq_iff_iff.2 (ht.index.trans hu.index.symm), ht.column.trans hu.column.symm,
    ht.sqlType.trans hu.sqlType.symm, ht.default.trans hu.default.symm, ht.foreignKey.trans hu.foreignKey.symm⟩

theorem Says.mem_of_column (h : t.Says ds) {name : String} (ht : t.column = some name) : .column name ∈ ds := by
  obtain ⟨d, hd, hf⟩ := List.mem_filterMap.1 (List.mem_of_getLast? (h.column.symm.trans ht))
  exact Directive.column?_eq_some_iff.1 hf ▸ hd

theorem Says.mem_of_sqlType (h : t.Says ds) {text : String} (ht : t.sqlType = some text) : .sqlType text ∈ ds := by
  obtain ⟨d, hd, hf⟩ := List.mem_filterMap.1 (List.mem_of_getLast? (h.sqlType.symm.trans ht))
  exact Directive.sqlType?_eq_some_iff.1 hf ▸ hd

theorem Says.mem_of_default (h : t.Says ds) {text : String} (ht : t.default = some text) : .default text ∈ ds := by
  obtain ⟨d, hd, hf⟩ := List.mem_filterMap.1 (List.mem_of_getLast? (h.default.symm.trans ht))
  exact Directive.default?_eq_some_iff.1 hf ▸ hd

theorem Says.mem_of_foreignKey (h : t.Says ds) {k : ForeignKey} (ht : t.foreignKey = some k) : .foreignKey k ∈ ds := by
  obtain ⟨d, hd, hf⟩ := List.mem_filterMap.1 (List.mem_of_getLast? (h.foreignKey.symm.trans ht))
  exact Directive.foreignKey?_eq_some_iff.1 hf ▸ hd

/-- **Directives of different keys may change places**: they say the same. -/
theorem Says.rearranged (ht : t.Says ds) (h : Directive.Rearranged ds es) : t.Says es where
  ignore := ht.ignore.trans (h.mem_iff _).symm
  primaryKey := ht.primaryKey.trans (h.mem_iff _).symm
  notNull := ht.notNull.trans (h.mem_iff _).symm
  unique := ht.unique.trans (h.mem_iff _).symm
  index := ht.index.trans (h.mem_iff _).symm
  column := by
    rw [h.filterMap_eq "column" fun _ _ hd => congrArg Directive.key (Directive.column?_eq_some_iff.1 hd)]
    exact ht.column
  sqlType := by
    rw [h.filterMap_eq "type" fun _ _ hd => congrArg Directive.key (Directive.sqlType?_eq_some_iff.1 hd)]
    exact ht.sqlType
  default := by
    rw [h.filterMap_eq "default" fun _ _ hd => congrArg Directive.key (Directive.default?_eq_some_iff.1 hd)]
    exact ht.default
  foreignKey := by
    rw [h.filterMap_eq "fk" fun _ _ hd => congrArg Directive.key (Directive.foreignKey?_eq_some_iff.1 hd)]
    exact ht.foreignKey

/-! ## What is read -/

/-- No piece holds a semicolon. -/
theorem Lists.not_mem (h : Lists ds ps) : ∀ p ∈ ps, ';' ∉ p := by
  induction h with
  | nil => exact nofun
  | blank hp _ ih => exact List.forall_mem_cons.2 ⟨hp.not_mem rfl, ih⟩
  | directive hd hp _ ih => exact List.forall_mem_cons.2 ⟨hp.not_mem hd, ih⟩

/-- A tag renders no directive that cannot be given. -/
theorem Renders.givable (h : Renders ds tag) : ∀ d ∈ ds, d.Givable := by
  obtain ⟨ps, hlists, -⟩ := h
  induction hlists with
  | nil => exact nofun
  | blank _ _ ih => exact ih
  | directive hd _ _ ih => exact List.forall_mem_cons.2 ⟨hd, ih⟩

/-- **Pieces are read** one by one, the blank ones left out. -/
theorem lists_iff (hps : ∀ p ∈ ps, ';' ∉ p) :
    Lists ds ps ↔ ((ps.map trim).filter fun p => !p.isEmpty).mapM Directive.parse = .ok ds := by
  induction ps generalizing ds with
  | nil =>
    constructor
    · intro h
      cases h
      rfl
    · intro h
      cases h
      exact .nil
  | cons p ps ih =>
    obtain ⟨hp, hps⟩ := List.forall_mem_cons.1 hps
    by_cases hblank : Blank p
    · have hskip : ((p :: ps).map trim).filter (fun p => !p.isEmpty) = (ps.map trim).filter fun p => !p.isEmpty := by
        rw [List.map_cons, trim_eq_nil_iff.2 hblank]
        rfl
      rw [hskip, ← ih hps]
      constructor
      · intro h
        cases h with
        | blank _ h => exact h
        | directive _ hstated _ => exact absurd hblank hstated.not_blank
      · exact .blank hblank
    · have hkeep : ((p :: ps).map trim).filter (fun p => !p.isEmpty) =
          trim p :: (ps.map trim).filter fun p => !p.isEmpty := by
        rw [List.map_cons, List.filter_cons_of_pos]
        rw [Bool.not_eq_true', ← Bool.not_eq_true, List.isEmpty_iff, trim_eq_nil_iff]
        exact hblank
      rw [hkeep, List.mapM_cons]
      constructor
      · intro h
        cases h with
        | blank hp _ => exact absurd hp hblank
        | directive hd hstated h =>
          rw [(Directive.parse_trim_eq_ok_iff hp).2 ⟨hd, hstated⟩, (ih hps).1 h]
          rfl
      · intro h
        obtain ⟨d, hd, h⟩ := bind_eq_ok_iff.1 h
        obtain ⟨rest, hrest, h⟩ := bind_eq_ok_iff.1 h
        cases h
        obtain ⟨hd, hstated⟩ := (Directive.parse_trim_eq_ok_iff hp).1 hd
        exact .directive hd hstated ((ih hps).2 hrest)

/-- **The directives of a tag** are those that it renders. -/
theorem renders_iff : Renders ds tag ↔ (directiveTexts tag.toList).mapM Directive.parse = .ok ds := by
  constructor
  · rintro ⟨ps, hlists, htag⟩
    cases ps with
    | nil =>
      cases hlists
      rw [htag]
      rfl
    | cons p ps =>
      rw [htag, directiveTexts, pieces_intercalate (List.cons_ne_nil p ps) hlists.not_mem]
      exact (lists_iff hlists.not_mem).1 hlists
  · intro h
    exact ⟨pieces ';' tag.toList, (lists_iff fun _ => not_mem_of_mem_pieces).2 h, (intercalate_pieces ';' _).symm⟩

/-- **The tags that can be read** are those that render directives. -/
theorem parse_eq_ok_iff : parse tag = .ok t ↔ ∃ ds, Renders ds tag ∧ t.Says ds := by
  rw [parse, bind_eq_ok_iff]
  simp only [← renders_iff, Except.ok.injEq]
  refine exists_congr fun ds => and_congr_right fun _ => ?_
  exact ⟨fun h => h ▸ says_ofDirectives ds, (says_ofDirectives ds).eq⟩

theorem readTag_eq_ok_iff {field : String} : Member.readTag field tag = .ok t ↔ ∃ ds, Renders ds tag ∧ t.Says ds := by
  rw [← parse_eq_ok_iff, Member.readTag]
  split
  · rename_i u hu
    rw [hu, Except.ok.injEq, Except.ok.injEq]
  · rename_i cause hcause
    rw [hcause]
    exact ⟨nofun, nofun⟩

/-- **A tag is read exactly if it renders directives**, and what is read is what they say, also when those of different
keys change places. Every other tag is an error of its field. -/
theorem readTag_grammar (field tag : String) :
    (∀ ds, Renders ds tag → ∃ t, Member.readTag field tag = .ok t ∧ t.Says ds) ∧
      (∀ t, Member.readTag field tag = .ok t → ∃ ds, Renders ds tag ∧ t.Says ds) ∧
      (∀ ds es other, Renders ds tag → Renders es other → Directive.Rearranged ds es →
        Member.readTag field other = Member.readTag field tag) ∧
      ((¬ ∃ ds, Renders ds tag) → ∃ cause, Member.readTag field tag = .error (.invalidTag field cause)) := by
  refine ⟨fun ds h => ?_, fun t h => readTag_eq_ok_iff.1 h, fun ds es other h hother hes => ?_, fun h => ?_⟩
  · exact ⟨ofDirectives ds, readTag_eq_ok_iff.2 ⟨ds, h, says_ofDirectives ds⟩, says_ofDirectives ds⟩
  · have hmeans := says_ofDirectives ds
    rw [readTag_eq_ok_iff.2 ⟨ds, h, hmeans⟩, readTag_eq_ok_iff.2 ⟨es, hother, hmeans.rearranged hes⟩]
  · cases hparse : parse tag with
    | ok t =>
      obtain ⟨ds, hds, -⟩ := parse_eq_ok_iff.1 hparse
      exact absurd ⟨ds, hds⟩ h
    | error cause => exact ⟨cause, by rw [Member.readTag, hparse]; rfl⟩

/-- A tag with two columns, blanks of several kinds, and a colon in a literal; the same directives in another order; and
a flag that is given a value. -/
theorem readTag_grammar_account :
    let tag := "\u00a0pk;; column : account_id ;default: 'a:b' ;\tfk:owners.id;column:id2; "
    let other := "default:'a:b';column:account_id;fk :\u3000owners.id;column:id2;pk"
    let ds : List Directive :=
      [.primaryKey, .column "account_id", .default "'a:b'", .foreignKey ⟨"owners", "id"⟩, .column "id2"]
    let es : List Directive :=
      [.default "'a:b'", .column "account_id", .foreignKey ⟨"owners", "id"⟩, .column "id2", .primaryKey]
    Renders ds tag ∧ Renders es other ∧ Directive.Rearranged ds es ∧
      Member.readTag "ID" other = Member.readTag "ID" tag ∧
      (∃ t, Member.readTag "ID" tag = .ok t ∧ t.Says ds ∧ t.column = some "id2") ∧
      (¬ ∃ ds, Renders ds "pk:") ∧ ∃ cause, Member.readTag "ID" "pk:" = .error (.invalidTag "ID" cause) := by
  intro tag other ds es
  have hds : Renders ds tag := renders_iff.2 (by decide)
  have hes : Renders es other := renders_iff.2 (by decide)
  have hrearranged : Directive.Rearranged ds es := by
    intro key
    by_cases hkey : "pk" = key ∨ "default" = key
    · rcases hkey with rfl | rfl <;> decide
    · obtain ⟨hpk, hdefault⟩ := not_or.1 hkey
      simp only [ds, es, Directive.key, List.filter_cons, hpk, hdefault, decide_false, Bool.false_eq_true, if_false]
  obtain ⟨hsaid, -, hsame, -⟩ := readTag_grammar "ID" tag
  obtain ⟨t, ht, hmeans⟩ := hsaid ds hds
  obtain ⟨-, -, -, hrefused⟩ := readTag_grammar "ID" "pk:"
  have hflag : ¬ ∃ ds, Renders ds "pk:" := by
    have hfault : (directiveTexts "pk:".toList).mapM Directive.parse = .error (.unrecognized "pk:") := by decide
    rintro ⟨fs, hfs⟩
    cases hfault.symm.trans (renders_iff.1 hfs)
  exact ⟨hds, hes, hrearranged, hsame ds es other hds hes hrearranged, ⟨t, ht, hmeans, hmeans.column⟩, hflag,
    hrefused hflag⟩

end Tag

end SchemaSql
