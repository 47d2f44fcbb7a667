import SchemaSql.Fallible
import SchemaSql.Proofs.Text.Trimming
import SchemaSql.Tag

/-!
# Directives and their texts

A directive has a key and, if it is more than one word, a value. `Directive.Givable` says which directives a tag can
give at all, and `Directive.Stated` how it states one of them: the key, or key and value with a colon between them, and
blanks anywhere around them. A piece of a tag without the blanks at its ends is read as a directive exactly if it states
one that can be given (`parse_trim_eq_ok_iff`). The colon that counts is the first one, and so is the point of a foreign
key, since neither a key nor an identifier holds such a character.
-/

namespace SchemaSql

/-- Table and column of a foreign key are identifiers. -/
def ForeignKey.Valid (k : ForeignKey) : Prop :=
  Identifier.Valid k.table ∧ Identifier.Valid k.column

/-- Table and column with a point between them. -/
def ForeignKey.text (k : ForeignKey) : String :=
  k.table ++ "." ++ k.column

/-- **What a directive can say.** -/
def Directive.Proper : Directive → Prop
  | .column name => Identifier.Valid name
  | .sqlType text => text ≠ ""
  | .default literal => literal ≠ ""
  | .foreignKey target => target.Valid
  | _ => True

namespace Identifier

/-- Letters, digits and the underscore are no blanks. -/
theorem isBlank_of_isPart {c : Char} (h : isPart c = true) : Text.isBlank c = false := by
  rcases Bool.or_eq_true_iff.1 h with h | h
  · exact Text.isBlank_of_isAlphanum h
  · obtain rfl := of_decide_eq_true h
    rfl

theorem Valid.ne_nil {name : String} (h : Valid name) : name.toList ≠ [] := by
  intro hnil
  have hword := h.1
  rw [hnil] at hword
  exact Bool.false_ne_true hword

/-- There is no blank in an identifier. -/
theorem Valid.isBlank_of_mem {name : String} (h : Valid name) : ∀ c ∈ name.toList, Text.isBlank c = false :=
  fun c hc => isBlank_of_isPart (List.all_eq_true.1 h.all_isPart c hc)

end Identifier

namespace Directive

open Text

/-- **The word that says which directive it is.** -/
def key : Directive → String
  | ignore => "-"
  | primaryKey => "pk"
  | notNull => "not_null"
  | unique => "unique"
  | index => "index"
  | column _ => "column"
  | sqlType _ => "type"
  | default _ => "default"
  | foreignKey _ => "fk"

/-- **What a directive says behind its key**, if it is not one word. -/
def value? : Directive → Option String
  | column name => some name
  | sqlType text => some text
  | default literal => some literal
  | foreignKey target => some target.text
  | _ => none

/-- **The directives that a tag can give.** Names are identifiers; an override and a literal have text, with no blank at
either end and without a semicolon. -/
def Givable : Directive → Prop
  | column name => Identifier.Valid name
  | sqlType text => text ≠ "" ∧ Bare text.toList ∧ Lacks ';' text
  | default literal => literal ≠ "" ∧ Bare literal.toList ∧ Lacks ';' literal
  | foreignKey target => target.Valid
  | _ => True

/-- **A text that states a directive**: its key, or key and value with a colon between them, and blanks around them. -/
inductive Stated (d : Directive) : List Char → Prop
  | word {b b' : List Char} (hv : d.value? = none) (hb : Blank b) (hb' : Blank b') : Stated d (b ++ d.key.toList ++ b')
  | pair {value : String} {b₁ b₂ b₃ b₄ : List Char} (hv : d.value? = some value) (hb₁ : Blank b₁) (hb₂ : Blank b₂)
    (hb₃ : Blank b₃) (hb₄ : Blank b₄) : Stated d (b₁ ++ d.key.toList ++ b₂ ++ ':' :: (b₃ ++ value.toList ++ b₄))

variable {d : Directive} {cs p : List Char}

/-! ## Keys and values -/

/-- A key has text, no blank at either end, and no mark that cuts tags or directives. -/
theorem key_spec (d : Directive) : d.key.toList ≠ [] ∧ Bare d.key.toList ∧ ':' ∉ d.key.toList ∧ ';' ∉ d.key.toList := by
  cases d <;> simp only [key] <;> decide

theorem value_spec_of_valid {name : String} (h : Identifier.Valid name) : Bare name.toList ∧ Lacks ';' name :=
  ⟨bare_of_all h.isBlank_of_mem, h.lacks rfl⟩

theorem value_spec_of_target {k : ForeignKey} (h : k.Valid) : Bare k.text.toList ∧ Lacks ';' k.text := by
  obtain ⟨htable, hcolumn⟩ := h
  constructor
  · apply bare_of_all
    intro c hc
    simp only [ForeignKey.text, String.toList_append, List.mem_append] at hc
    rcases hc with (hc | hc) | hc
    · exact htable.isBlank_of_mem c hc
    · obtain rfl : c = '.' := by simpa using hc
      rfl
    · exact hcolumn.isBlank_of_mem c hc
  · exact lacks_append.2 ⟨lacks_append.2 ⟨htable.lacks rfl, by decide⟩, hcolumn.lacks rfl⟩

/-- **A directive can be given** if it is proper and its value stands bare between semicolons. -/
theorem givable_iff : d.Givable ↔ d.Proper ∧ ∀ value, d.value? = some value → Bare value.toList ∧ Lacks ';' value := by
  cases d with
  | column name =>
    refine ⟨fun h => ⟨h, fun value hv => ?_⟩, And.left⟩
    cases hv
    exact value_spec_of_valid h
  | foreignKey target =>
    refine ⟨fun h => ⟨h, fun value hv => ?_⟩, And.left⟩
    cases hv
    exact value_spec_of_target h
  | sqlType text => exact and_congr_right fun _ => ⟨fun h _ hv => Option.some.inj hv ▸ h, fun h => h text rfl⟩
  | default literal => exact and_congr_right fun _ => ⟨fun h _ hv => Option.some.inj hv ▸ h, fun h => h literal rfl⟩
  | _ => exact ⟨fun _ => ⟨trivial, nofun⟩, fun _ => trivial⟩

/-- The value of a proper directive has text. -/
theorem Proper.value_ne_nil (h : d.Proper) {value : String} (hv : d.value? = some value) : value.toList ≠ [] := by
  cases d with
  | column name => cases hv; exact Identifier.Valid.ne_nil h
  | sqlType text => cases hv; exact mt String.toList_eq_nil_iff.1 h
  | default literal => cases hv; exact mt String.toList_eq_nil_iff.1 h
  | foreignKey target =>
    cases hv
    simp only [ForeignKey.text, String.toList_append]
    exact List.append_ne_nil_of_left_ne_nil (List.append_ne_nil_of_left_ne_nil (Identifier.Valid.ne_nil h.1) _) _
  | _ => cases hv

/-! ## Readers of the parts -/

theorem identifier_eq_ok_iff {name c : String} : identifier name = .ok c ↔ name = c ∧ Identifier.Valid c := by
  rw [identifier]
  cases hcheck : Identifier.check name with
  | ok u =>
    have hvalid := Identifier.check_eq_ok_iff.1 hcheck
    exact ⟨fun h => ⟨Except.ok.inj h, Except.ok.inj h ▸ hvalid⟩, fun h => congrArg _ h.1⟩
  | error f =>
    refine ⟨nofun, fun h => ?_⟩
    cases hcheck.symm.trans (Identifier.check_eq_ok_iff.2 (h.1 ▸ h.2))

/-- **A foreign key is read** from table and column with a point between them. -/
theorem parseTarget_eq_ok_iff {target : List Char} {k : ForeignKey} :
    parseTarget target = .ok k ↔ k.Valid ∧ k.text = String.ofList target := by
  rw [parseTarget]
  constructor
  · intro h
    split at h
    · cases h
    · rename_i left right hsplit
      obtain ⟨table, htable, h⟩ := bind_eq_ok_iff.1 h
      obtain ⟨column, hcolumn, h⟩ := bind_eq_ok_iff.1 h
      cases h
      obtain ⟨rfl, htable⟩ := identifier_eq_ok_iff.1 htable
      obtain ⟨rfl, hcolumn⟩ := identifier_eq_ok_iff.1 hcolumn
      obtain ⟨rfl, -⟩ := splitOnce_eq_some_iff.1 hsplit
      refine ⟨⟨htable, hcolumn⟩, ?_⟩
      rw [List.append_cons, String.ofList_append, String.ofList_append]
      rfl
  · rintro ⟨⟨htable, hcolumn⟩, htext⟩
    have htarget : target = k.table.toList ++ '.' :: k.column.toList := by
      rw [← String.toList_ofList (l := target), ← htext, ForeignKey.text, String.toList_append, String.toList_append,
        List.append_assoc]
      rfl
    -- no identifier holds a point, so the first one stands between the two
    rw [splitOnce_eq_some_iff.2 ⟨htarget, htable.lacks rfl⟩]
    simp only [String.ofList_toList, identifier_eq_ok_iff.2 ⟨rfl, htable⟩, identifier_eq_ok_iff.2 ⟨rfl, hcolumn⟩]
    rfl

/-- The words that are directives are the keys of those without a value. -/
theorem ofWord?_eq_some_iff {word : String} : ofWord? word = some d ↔ d.value? = none ∧ d.key = word := by
  constructor
  · intro h
    unfold ofWord? at h
    repeat' split at h
    all_goals cases h
    all_goals exact ⟨rfl, Eq.symm ‹_›⟩
  · rintro ⟨hv, rfl⟩
    cases d <;> first | rfl | cases hv

/-- **A key and a value are read** as the proper directive that has them. -/
theorem ofPair_eq_ok_iff {key : String} {value : List Char} :
    ofPair key value = .ok (some d) ↔ d.Proper ∧ d.key = key ∧ d.value? = some (String.ofList value) := by
  have htext : String.ofList value ≠ "" ↔ value.isEmpty = false := by
    rw [ne_eq, String.ofList_eq_empty_iff, ← List.isEmpty_iff, Bool.not_eq_true]
  constructor
  · intro h
    unfold ofPair at h
    split at h
    · obtain ⟨name, hname, h⟩ := bind_eq_ok_iff.1 h
      cases h
      obtain ⟨rfl, hvalid⟩ := identifier_eq_ok_iff.1 hname
      exact ⟨hvalid, Eq.symm ‹_›, rfl⟩
    · split at h
      · split at h <;> cases h
        exact ⟨htext.2 (Bool.eq_false_iff.2 ‹_›), Eq.symm ‹_›, rfl⟩
      · split at h
        · split at h <;> cases h
          exact ⟨htext.2 (Bool.eq_false_iff.2 ‹_›), Eq.symm ‹_›, rfl⟩
        · split at h
          · obtain ⟨target, htarget, h⟩ := bind_eq_ok_iff.1 h
            cases h
            obtain ⟨hvalid, hvalue⟩ := parseTarget_eq_ok_iff.1 htarget
            exact ⟨hvalid, Eq.symm ‹_›, congrArg some hvalue⟩
          · cases h
  · rintro ⟨hproper, rfl, hv⟩
    cases d with
    | column name =>
      cases hv
      simp only [ofPair, key, if_true, identifier_eq_ok_iff.2 ⟨rfl, hproper⟩]
      rfl
    | sqlType text =>
      cases hv
      simp [ofPair, key, htext.1 hproper]
    | default literal =>
      cases hv
      simp [ofPair, key, htext.1 hproper]
    | foreignKey target =>
      have htarget := parseTarget_eq_ok_iff.2 ⟨hproper, Option.some.inj hv⟩
      simp [ofPair, key, htarget]
      rfl
    | _ => cases hv

/-! ## Pieces of a tag -/

theorem proper_of_value?_eq_none (h : d.value? = none) : d.Proper := by
  cases d <;> trivial

/-- **A directive is read** from its key, or from key and value with the first colon between them. -/
theorem parse_eq_ok_iff : parse cs = .ok d ↔
    d.Proper ∧ ((d.value? = none ∧ cs = d.key.toList) ∨
      ∃ left right, cs = left ++ ':' :: right ∧ trim left = d.key.toList ∧
        d.value? = some (String.ofList (trim right))) := by
  rw [parse]
  constructor
  · intro h
    split at h
    · obtain ⟨found, hfound, h⟩ := bind_eq_ok_iff.1 h
      cases found <;> cases h
      obtain ⟨hv, hkey⟩ := ofWord?_eq_some_iff.1 (Except.ok.inj hfound)
      exact ⟨proper_of_value?_eq_none hv, .inl ⟨hv, by rw [hkey, String.toList_ofList]⟩⟩
    · rename_i left right hsplit
      obtain ⟨found, hfound, h⟩ := bind_eq_ok_iff.1 h
      cases found <;> cases h
      obtain ⟨hproper, hkey, hv⟩ := ofPair_eq_ok_iff.1 hfound
      obtain ⟨rfl, -⟩ := splitOnce_eq_some_iff.1 hsplit
      exact ⟨hproper, .inr ⟨left, right, rfl, by rw [hkey, String.toList_ofList], hv⟩⟩
  · obtain ⟨-, -, hcolon, -⟩ := d.key_spec
    rintro ⟨hproper, ⟨hv, rfl⟩ | ⟨left, right, rfl, hkey, hv⟩⟩
    · simp only [splitOnce_eq_none_iff.2 hcolon, String.ofList_toList, ofWord?_eq_some_iff.2 ⟨hv, rfl⟩]
      rfl
    · have hleft : ':' ∉ left := fun h => hcolon (hkey ▸ (mem_trim_iff rfl).2 h)
      have hpair := ofPair_eq_ok_iff.2 ⟨hproper, rfl, hv⟩
      simp only [splitOnce_eq_some_iff.2 ⟨rfl, hleft⟩, hkey, String.ofList_toList, hpair]
      rfl

/-- **A piece of a tag is read as a directive** exactly if it states one that can be given. -/
theorem parse_trim_eq_ok_iff (hp : ';' ∉ p) : parse (trim p) = .ok d ↔ d.Givable ∧ d.Stated p := by
  rw [parse_eq_ok_iff, givable_iff]
  constructor
  · obtain ⟨-, b, b', hb, hb', hpiece⟩ := trim_eq_iff.1 (rfl : trim p = trim p)
    rintro ⟨hproper, ⟨hv, hkey⟩ | ⟨left, right, hcut, hleft, hv⟩⟩
    · refine ⟨⟨hproper, fun value hvalue => nomatch hv.symm.trans hvalue⟩, ?_⟩
      rw [hpiece, hkey]
      exact .word hv hb hb'
    · obtain ⟨-, b₁, b₂, hb₁, hb₂, rfl⟩ := trim_eq_iff.1 hleft
      obtain ⟨hbare, b₃, b₄, hb₃, hb₄, hright⟩ := trim_eq_iff.1 (rfl : trim right = trim right)
      refine ⟨⟨hproper, fun value hvalue => ?_⟩, ?_⟩
      · cases hv.symm.trans hvalue
        rw [Lacks, String.toList_ofList]
        refine ⟨hbare, fun hmem => hp (mem_of_mem_trim ?_)⟩
        rw [hcut]
        exact List.mem_append_right _ (List.mem_cons_of_mem _ (mem_of_mem_trim hmem))
      · -- blanks outside the piece and inside the key or the value are one run
        have hstated := Stated.pair hv (hb.append hb₁) hb₂ hb₃ (hb₄.append hb')
        rw [String.toList_ofList] at hstated
        rw [hpiece, hcut, hright]
        simpa only [List.append_assoc, List.cons_append] using hstated
  · rintro ⟨⟨hproper, hvalue⟩, hstated⟩
    refine ⟨hproper, ?_⟩
    obtain ⟨hkey, hbare, -⟩ := d.key_spec
    cases hstated with
    | word hv hb hb' => exact .inl ⟨hv, trim_padded hb hbare hb'⟩
    | @pair value b₁ b₂ b₃ b₄ hv hb₁ hb₂ hb₃ hb₄ =>
      obtain ⟨hvbare, -⟩ := hvalue value hv
      have hcore := hbare.append_of_ne_nil hkey hvbare (hproper.value_ne_nil hv) (b₂ ++ ':' :: b₃)
      refine .inr ⟨d.key.toList ++ b₂, b₃ ++ value.toList, ?_, ?_, ?_⟩
      · have htrim := trim_padded hb₁ hcore hb₄
        simpa only [List.append_assoc, List.cons_append] using htrim
      · exact trim_padded blank_nil hbare hb₂
      · have htrim := trim_padded hb₃ hvbare blank_nil
        rw [List.append_nil] at htrim
        rw [htrim, String.ofList_toList]
        exact hv

/-- A piece that states a directive is not blank. -/
theorem Stated.not_blank (h : d.Stated p) : ¬ Blank p := by
  obtain ⟨hkey, hbare, -⟩ := d.key_spec
  obtain ⟨c, rest, hcons⟩ := List.exists_cons_of_ne_nil hkey
  have hc : isBlank c = false := hbare.head c (hcons ▸ rfl)
  have hmem : c ∈ d.key.toList := hcons ▸ List.mem_cons_self
  intro hblank
  refine hblank.not_mem hc ?_
  cases h with
  | word => exact List.mem_append_left _ (List.mem_append_right _ hmem)
  | pair => exact List.mem_append_left _ (List.mem_append_left _ (List.mem_append_right _ hmem))

/-- There is no semicolon in a piece that states a directive. -/
theorem Stated.not_mem (h : d.Stated p) (hd : d.Givable) : ';' ∉ p := by
  obtain ⟨-, -, -, hkey⟩ := d.key_spec
  have hblank : isBlank ';' = false := rfl
  cases h with
  | word hv hb hb' =>
    simp only [List.mem_append, hb.not_mem hblank, hb'.not_mem hblank, hkey, or_self, not_false_eq_true]
  | pair hv hb₁ hb₂ hb₃ hb₄ =>
    have hvalue : ';' ∉ _ := ((givable_iff.1 hd).2 _ hv).2
    simp only [List.mem_append, List.mem_cons, hb₁.not_mem hblank, hb₂.not_mem hblank, hb₃.not_mem hblank,
      hb₄.not_mem hblank, hkey, hvalue, or_self, or_false]
    decide

end Directive

end SchemaSql
