import SchemaSql.Predicate.Join
import SchemaSql.Proofs.Schema.Made

/-!
# Predicates and joins that can be made

`Predicate.Proper` and `Join.Proper` say which predicates and joins the library makes of proper
references: comparisons of a column, groups and negations to any depth, and joins with any filters, which
are predicates again. `Sound` is the invariant of the trees that come about in this way: all names in them
are identifiers, and every match that is asked for in another table has at least one condition with a
text. `Predicate.Proper.sound` and `Join.Proper.sound` prove it by induction on how the value was made.
-/

namespace SchemaSql

mutual
/-- **A predicate made of proper references.** The members of a group may be missing or without text. -/
inductive Predicate.Proper : Predicate → Prop
  | compare {f : FieldRef} (hf : f.Proper) (op : Comparison) (v : Json) : Predicate.Proper (f.compare op v)
  | oneOf {f : FieldRef} (hf : f.Proper) (vs : List Json) : Predicate.Proper (f.oneOf vs)
  | isNull {f : FieldRef} (hf : f.Proper) : Predicate.Proper f.isNull
  | isNotNull {f : FieldRef} (hf : f.Proper) : Predicate.Proper f.isNotNull
  | all {members : List (Option Predicate)} (h : ∀ p, some p ∈ members → Predicate.Proper p) :
    Predicate.Proper (Predicate.all members)
  | any {members : List (Option Predicate)} (h : ∀ p, some p ∈ members → Predicate.Proper p) :
    Predicate.Proper (Predicate.any members)
  | not {p : Predicate} (h : Predicate.Proper p) : Predicate.Proper p.not
  | hasMatch {j : Join} (h : Join.Proper j) : Predicate.Proper j.hasMatch
/-- **A join made of proper references**, with the predicates of other joins and with filters. -/
inductive Join.Proper : Join → Prop
  | of (kind : JoinKind) {left right : FieldRef} (hl : left.Proper) (hr : right.Proper) {asked : Option String}
    (ha : ∀ a ∈ asked, Identifier.Valid a) : Join.Proper (Join.of kind left right asked)
  | and {j k m : Join} (hj : Join.Proper j) (hk : Join.Proper k) (h : j.and k = .ok m) : Join.Proper m
  | filter {j : Join} {p : Predicate} (hj : Join.Proper j) (hp : Predicate.Proper p) : Join.Proper (j.filter p)
end

/-- An occurrence of a table whose names are identifiers. -/
def TableRef.Valid (t : TableRef) : Prop :=
  Identifier.Valid t.table ∧ ∀ a ∈ t.aliasName, Identifier.Valid a

namespace Predicate

mutual
/-- **The names in a predicate are identifiers**, and a match in another table has a condition with a
text. -/
def Sound : Predicate → Prop
  | compare c _ _ => c.Valid
  | oneOf c _ => c.Valid
  | nullCheck c _ => c.Valid
  | sameColumns l r => l.Valid ∧ r.Valid
  | group _ members => AllSound members
  | not inner => inner.Sound
  | existsIn source on => source.Valid ∧ AllSound on ∧ allEmpty on = false
/-- Every predicate of a list is sound. -/
def AllSound : List Predicate → Prop
  | [] => True
  | p :: ps => p.Sound ∧ AllSound ps
end

theorem allSound_iff {ps : List Predicate} : AllSound ps ↔ ∀ p ∈ ps, p.Sound := by
  induction ps with
  | nil => exact ⟨fun _ _ h => absurd h List.not_mem_nil, fun _ => trivial⟩
  | cons p ps ih => rw [AllSound, ih, List.forall_mem_cons]

theorem allEmpty_append (ps qs : List Predicate) : allEmpty (ps ++ qs) = (allEmpty ps && allEmpty qs) := by
  induction ps with
  | nil => rfl
  | cons p ps ih => rw [List.cons_append, allEmpty, allEmpty, ih, Bool.and_assoc]

/-- The members of a group are among those that it was made of. -/
theorem sound_ofMembers {c : Connective} {members : List (Option Predicate)} (h : ∀ p, some p ∈ members → p.Sound) :
    (ofMembers c members).Sound := by
  apply allSound_iff.2
  intro p hp
  apply h
  have hkept := (List.mem_filter.1 hp).1
  obtain ⟨q, hq, hsome⟩ := List.mem_filterMap.1 hkept
  exact hsome ▸ hq

end Predicate

/-- **The invariant of a join**: its names are identifiers, and it has a condition with a text. -/
structure Join.Sound (j : Join) : Prop where
  source : j.source.Valid
  on : Predicate.AllSound j.on
  some_on : Predicate.allEmpty j.on = false

/-! ## The alias of a table joined to itself -/

namespace Identifier

/-- No reserved word ends in a two. -/
theorem getLast?_ne_of_mem_reservedWords : ∀ w ∈ reservedWords, w.toList.getLast? ≠ some '2' := by
  decide

/-- **A table has an alias of its own**: an identifier stays one when the suffix is added. -/
theorem Valid.append_selfSuffix {name : String} (h : Valid name) : Valid (name ++ Join.selfSuffix) := by
  have hsuffix : Join.selfSuffix.toList = ['_', '2'] := rfl
  constructor
  · have hword := h.1
    rw [String.toList_append, hsuffix]
    cases hcs : name.toList with
    | nil => rw [hcs] at hword; cases hword
    | cons c cs =>
      rw [hcs, isWord, Bool.and_eq_true] at hword
      rw [List.cons_append, isWord, List.all_append, hword.1, hword.2]
      rfl
  · -- in upper case the name still ends in the two, so it is no reserved word
    have hupper : (Text.uppercase (name ++ Join.selfSuffix)).toList = Text.upper name.toList ++ ['_', '2'] := by
      rw [Text.uppercase, String.toList_ofList, String.toList_append, hsuffix, Text.upper, List.flatMap_append]
      rfl
    apply Bool.eq_false_iff.2
    intro hreserved
    refine getLast?_ne_of_mem_reservedWords _ (List.contains_iff_mem.1 hreserved) ?_
    rw [hupper, List.getLast?_append]
    rfl

end Identifier

namespace Join

/-- The alias that a joined table gets is an identifier. -/
theorem valid_aliasFor {left right : FieldRef} (hr : right.Proper) {asked : Option String}
    (ha : ∀ a ∈ asked, Identifier.Valid a) : ∀ a ∈ aliasFor left right asked, Identifier.Valid a := by
  intro a hmem
  unfold aliasFor at hmem
  split at hmem
  · exact ha a hmem
  · split at hmem
    · exact Option.mem_some.1 hmem ▸ hr.qualifier
    · split at hmem
      · exact Option.mem_some.1 hmem ▸ hr.made.names.1.append_selfSuffix
      · cases hmem

theorem sound_of (kind : JoinKind) {left right : FieldRef} (hl : left.Proper) (hr : right.Proper)
    {asked : Option String} (ha : ∀ a ∈ asked, Identifier.Valid a) : (of kind left right asked).Sound := by
  have halias : ∀ a ∈ aliasFor left right asked, Identifier.Valid a := valid_aliasFor hr ha
  have hqualifier : Identifier.Valid ((aliasFor left right asked).getD right.qualifier) := by
    cases h : aliasFor left right asked with
    | none => exact hr.qualifier
    | some a => exact halias a h
  exact ⟨⟨hr.made.names.1, halias⟩, ⟨⟨hl.ref_valid, hqualifier, hr.made.names.2⟩, trivial⟩, rfl⟩

theorem Sound.and {j k m : Join} (hj : j.Sound) (hk : k.Sound) (h : j.and k = .ok m) : m.Sound := by
  unfold Join.and at h
  split at h
  · cases h
  · cases h
    refine ⟨hj.source, ?_, ?_⟩
    · apply Predicate.allSound_iff.2
      intro p hp
      rcases List.mem_append.1 hp with hp | hp
      · exact Predicate.allSound_iff.1 hj.on p hp
      · exact Predicate.allSound_iff.1 hk.on p hp
    · rw [Predicate.allEmpty_append, hj.some_on, Bool.false_and]

theorem Sound.filter {j : Join} (hj : j.Sound) {p : Predicate} (hp : p.Sound) : (j.filter p).Sound := by
  unfold Join.filter
  split
  · exact hj
  · refine ⟨hj.source, ?_, ?_⟩
    · apply Predicate.allSound_iff.2
      intro q hq
      rcases List.mem_append.1 hq with hq | hq
      · exact Predicate.allSound_iff.1 hj.on q hq
      · exact List.mem_singleton.1 hq ▸ hp
    · rw [Predicate.allEmpty_append, hj.some_on, Bool.false_and]

end Join

mutual
/-- **Every predicate that can be made of proper references is sound.** -/
theorem Predicate.Proper.sound : ∀ {p : Predicate}, p.Proper → p.Sound
  | _, .compare hf _ _ => hf.ref_valid
  | _, .oneOf hf _ => hf.ref_valid
  | _, .isNull hf => hf.ref_valid
  | _, .isNotNull hf => hf.ref_valid
  | _, .all h => Predicate.sound_ofMembers fun p hp => (h p hp).sound
  | _, .any h => Predicate.sound_ofMembers fun p hp => (h p hp).sound
  | _, .not h => h.sound
  | _, .hasMatch h => ⟨h.sound.source, h.sound.on, h.sound.some_on⟩
/-- **Every join that can be made of proper references is sound.** -/
theorem Join.Proper.sound : ∀ {j : Join}, j.Proper → j.Sound
  | _, .of kind hl hr ha => Join.sound_of kind hl hr ha
  | _, .and hj hk h => hj.sound.and hk.sound h
  | _, .filter hj hp => hj.sound.filter hp.sound
end

end SchemaSql
