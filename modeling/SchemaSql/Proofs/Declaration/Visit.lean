import SchemaSql.Declaration.Fields
import SchemaSql.Fallible

/-!
# Walking through a declaration

The walk through a declaration visits its members in the order in which they are written, a record before the
members that are embedded with it, and does not enter what a tag leaves out. It knows nothing of errors.
`Visit.Sound` and `Visit.Faulty` say of a single visited member that nothing, or what, is wrong with it, and
`Visit.field?` is the field that it becomes. The fields of members are what is read on the walk through them
(`fieldsOfAll_eq_readVisits`): the fields that the visited members become, if all are sound, and otherwise the error
of the first that is faulty.
-/

namespace SchemaSql

/-- **A member met on the walk**, and whether it is inside an embedded record. Embedded records have no type. -/
structure Visit where
  inEmbedded : Bool
  name : String
  tag : String
  type : Option HostType

/-- The tag of a member says that it is left out. -/
def Tag.leavesOut (tag : String) : Bool :=
  match Tag.parse tag with
  | .ok t => t.ignore
  | .error _ => false

mutual
/-- The members met on the walk through a member. -/
def Member.visits (inEmbedded : Bool) : Member → List Visit
  | .field name tag type => [⟨inEmbedded, name, tag, some type⟩]
  | .embedded name tag _ members _ =>
    ⟨inEmbedded, name, tag, none⟩ :: if Tag.leavesOut tag then [] else visitsOfAll true members
/-- **The members met on the walk** through members. -/
def visitsOfAll (inEmbedded : Bool) : List Member → List Visit
  | [] => []
  | m :: ms => m.visits inEmbedded ++ visitsOfAll inEmbedded ms
end

theorem visitsOfAll_append (inEmbedded : Bool) (ms ns : List Member) :
    visitsOfAll inEmbedded (ms ++ ns) = visitsOfAll inEmbedded ms ++ visitsOfAll inEmbedded ns := by
  induction ms with
  | nil => rfl
  | cons m ms ih => rw [List.cons_append, visitsOfAll, visitsOfAll, ih, List.append_assoc]

namespace Visit

/-- A visited field with a tag that can be read and does not leave it out. -/
structure Kept (v : Visit) (t : Tag) (type : HostType) : Prop where
  tag : Tag.parse v.tag = .ok t
  ignore : t.ignore = false
  type : v.type = some type

/-- **Nothing is wrong with a visited member**: its tag can be read, and if it is a field that is not left out, its
type can be stored, and a column that gets its name from the member gets an identifier. -/
structure Sound (v : Visit) : Prop where
  tag : ∃ t, Tag.parse v.tag = .ok t
  type : ∀ t type, v.Kept t type → type.classify ≠ .unsupported
  column : ∀ t type scalar, v.Kept t type → type.classify = .column scalar → t.column = none →
    Identifier.Valid (SnakeCase.ofName v.name)

/-- **What is wrong with a visited member.** -/
inductive Faulty (v : Visit) : Error → Prop
  | tag {cause : TagFault} (h : Tag.parse v.tag = .error cause) : Faulty v (.invalidTag v.name cause)
  | type {t : Tag} {type : HostType} (hk : v.Kept t type) (h : type.classify = .unsupported) :
    Faulty v (.unsupportedType v.name type)
  | column {t : Tag} {type : HostType} {scalar : ScalarType} {cause : Identifier.Fault} (hk : v.Kept t type)
    (hc : type.classify = .column scalar) (hn : t.column = none)
    (h : Identifier.check (SnakeCase.ofName v.name) = .error cause) :
    Faulty v (.invalidTag v.name (.defaultColumn cause))

/-- The field of a visited member with everything that its tag says. -/
def fieldOf (v : Visit) (t : Tag) (scalar : ScalarType) : Field where
  name := v.name
  column := t.column.getD (SnakeCase.ofName v.name)
  type := scalar
  sqlType := t.sqlType
  primaryKey := t.primaryKey
  notNull := t.notNull
  unique := t.unique
  indexed := t.index
  embedded := v.inEmbedded
  default := t.default
  foreignKey := t.foreignKey

/-- **The field that a visited member becomes.** Members that are left out, nested records and embedded records
become none. -/
def field? (v : Visit) : Option Field :=
  match Tag.parse v.tag with
  | .error _ => none
  | .ok t =>
    if t.ignore then none
    else
      match v.type.map HostType.classify with
      | some (.column scalar) => some (v.fieldOf t scalar)
      | _ => none

/-- Reads a visited member. -/
def read (v : Visit) : Except Error (Option Field) := do
  let t ← Member.readTag v.name v.tag
  if t.ignore then .ok none
  else
    match v.type with
    | none => .ok none
    | some type => Member.fieldOf v.inEmbedded v.name t type

variable {v : Visit} {t t' : Tag} {type type' : HostType} {e : Error}

theorem Kept.unique (h : v.Kept t type) (h' : v.Kept t' type') : t' = t ∧ type' = type :=
  ⟨Except.ok.inj (h'.tag.symm.trans h.tag), Option.some.inj (h'.type.symm.trans h.type)⟩

/-- A visited member with a tag that leaves it out, or without a type, becomes no field. -/
theorem read_of_not_kept (ht : Tag.parse v.tag = .ok t) (h : ∀ type, ¬ v.Kept t type) :
    v.read = .ok none ∧ v.field? = none := by
  simp only [read, field?, Member.readTag, ht]
  cases hignore : t.ignore with
  | true => exact ⟨if_pos hignore, rfl⟩
  | false =>
    cases htype : v.type with
    | none => exact ⟨if_neg (Bool.eq_false_iff.1 hignore), rfl⟩
    | some type => exact absurd ⟨ht, hignore, htype⟩ (h type)

/-- A kept field is read by its type and its tag. -/
theorem Kept.read_field? (h : v.Kept t type) :
    v.read = Member.fieldOf v.inEmbedded v.name t type ∧
      v.field? = match type.classify with
        | .column scalar => some (v.fieldOf t scalar)
        | _ => none := by
  have hignore : ¬ t.ignore = true := Bool.eq_false_iff.1 h.ignore
  simp only [read, field?, Member.readTag, h.tag, h.type, if_neg hignore, Option.map_some]
  refine ⟨if_neg hignore, ?_⟩
  cases type.classify <;> rfl

/-- A kept field is sound if its own type and column are. -/
theorem Kept.sound (h : v.Kept t type) (htype : type.classify ≠ .unsupported)
    (hcolumn : ∀ scalar, type.classify = .column scalar → t.column = none →
      Identifier.Valid (SnakeCase.ofName v.name)) : v.Sound := by
  refine ⟨⟨t, h.tag⟩, ?_, ?_⟩
  · intro t' type' h'
    obtain ⟨rfl, rfl⟩ := h.unique h'
    exact htype
  · intro t' type' scalar h'
    obtain ⟨rfl, rfl⟩ := h.unique h'
    exact hcolumn scalar

/-- **A faulty member is refused** with what is wrong with it. -/
theorem Faulty.read (h : v.Faulty e) : v.read = .error e := by
  rcases h with h | ⟨hk, h⟩ | ⟨hk, hc, hn, h⟩
  · simp only [Visit.read, Member.readTag, h]
    rfl
  · rw [hk.read_field?.1]
    simp only [Member.fieldOf, h]
  · rw [hk.read_field?.1]
    simp only [Member.fieldOf, hc, Member.columnName, hn, h]
    rfl

/-- **Every visited member is faulty, or sound and read as its field.** The cases are those of the tag, of the type
and of the column's name. -/
theorem read_cases (v : Visit) : (v.Sound ∧ v.read = .ok v.field?) ∨ ∃ e, v.Faulty e := by
  cases ht : Tag.parse v.tag with
  | error cause => exact .inr ⟨_, .tag ht⟩
  | ok t =>
    by_cases hkept : ∃ type, v.Kept t type
    · obtain ⟨type, hk⟩ := hkept
      obtain ⟨hread, hfield⟩ := hk.read_field?
      rw [hread, hfield]
      cases hclass : type.classify with
      | skip =>
        refine .inl ⟨hk.sound (by simp [hclass]) (by simp [hclass]), ?_⟩
        simp only [Member.fieldOf, hclass]
      | unsupported => exact .inr ⟨_, .type hk hclass⟩
      | column scalar =>
        have hstored : type.classify ≠ .unsupported := by simp [hclass]
        simp only [Member.fieldOf, hclass, Member.columnName]
        cases hc : t.column with
        | some c =>
          refine .inl ⟨hk.sound hstored (by simp [hc]), ?_⟩
          rw [fieldOf, hc]
          rfl
        | none =>
          cases hcheck : Identifier.check (SnakeCase.ofName v.name) with
          | ok _ =>
            refine .inl ⟨hk.sound hstored fun _ _ _ => Identifier.check_eq_ok_iff.1 hcheck, ?_⟩
            rw [fieldOf, hc]
            rfl
          | error cause => exact .inr ⟨_, .column hk hclass hc hcheck⟩
    · have hnone : ∀ t' type, ¬ v.Kept t' type := by
        intro t' type hk
        exact hkept ⟨type, Except.ok.inj (ht.symm.trans hk.tag) ▸ hk⟩
      obtain ⟨hread, hfield⟩ := read_of_not_kept ht (hnone t)
      refine .inl ⟨⟨⟨t, ht⟩, ?_, ?_⟩, hfield ▸ hread⟩
      · exact fun t' type hk => absurd hk (hnone t' type)
      · exact fun t' type _ hk => absurd hk (hnone t' type)

theorem Sound.not_faulty (hs : v.Sound) : ¬ v.Faulty e := by
  rintro (h | ⟨hk, h⟩ | ⟨hk, hc, hn, h⟩)
  · obtain ⟨t, ht⟩ := hs.tag
    cases h.symm.trans ht
  · exact hs.type _ _ hk h
  · have hvalid := hs.column _ _ _ hk hc hn
    cases h.symm.trans (Identifier.check_eq_ok_iff.2 hvalid)

theorem read_eq_ok_iff {o : Option Field} : v.read = .ok o ↔ v.Sound ∧ o = v.field? := by
  rcases v.read_cases with ⟨hs, hread⟩ | ⟨e, he⟩
  · simp only [hread, hs, true_and, Except.ok.injEq, eq_comm]
  · simp only [he.read, reduceCtorEq, false_iff, not_and]
    exact fun hs => absurd he hs.not_faulty

theorem read_eq_error_iff : v.read = .error e ↔ v.Faulty e := by
  rcases v.read_cases with ⟨hs, hread⟩ | ⟨e', he⟩
  · simp only [hread, reduceCtorEq, false_iff]
    exact hs.not_faulty
  · refine ⟨fun h => ?_, Faulty.read⟩
    cases he.read.symm.trans h
    exact he

end Visit

/-! ## Reading the walk -/

/-- Reads visited members one after the other. -/
def readVisits : List Visit → Except Error (List Field)
  | [] => .ok []
  | v :: vs => do
    let found ← v.read
    let rest ← readVisits vs
    .ok (found.toList ++ rest)

theorem readVisits_append (vs ws : List Visit) :
    readVisits (vs ++ ws) = (do
      let fs ← readVisits vs
      let gs ← readVisits ws
      .ok (fs ++ gs)) := by
  induction vs with
  | nil =>
    show readVisits ws = (readVisits ws >>= fun gs => .ok gs)
    cases readVisits ws <;> rfl
  | cons v vs ih =>
    rw [List.cons_append, readVisits, readVisits, ih]
    cases v.read with
    | error e => rfl
    | ok found =>
      cases readVisits vs with
      | error e => rfl
      | ok fs =>
        cases readVisits ws with
        | error e => rfl
        | ok gs => exact congrArg Except.ok (List.append_assoc ..).symm

/-- **Visited members are read** exactly if all of them are sound, and the fields are those that they become. -/
theorem readVisits_eq_ok_iff {vs : List Visit} {fs : List Field} :
    readVisits vs = .ok fs ↔ (∀ v ∈ vs, v.Sound) ∧ fs = vs.filterMap Visit.field? := by
  induction vs generalizing fs with
  | nil => simp only [readVisits, Except.ok.injEq, List.not_mem_nil, false_implies, implies_true, true_and,
      List.filterMap_nil, eq_comm]
  | cons v vs ih =>
    have hfields : (v :: vs).filterMap Visit.field? = v.field?.toList ++ vs.filterMap Visit.field? := by
      rw [List.filterMap_cons]
      cases v.field? <;> rfl
    rw [readVisits, List.forall_mem_cons, hfields]
    constructor
    · intro h
      obtain ⟨found, hfound, h⟩ := bind_eq_ok_iff.1 h
      obtain ⟨rest, hrest, h⟩ := bind_eq_ok_iff.1 h
      obtain ⟨hv, rfl⟩ := Visit.read_eq_ok_iff.1 hfound
      obtain ⟨hvs, rfl⟩ := ih.1 hrest
      exact ⟨⟨hv, hvs⟩, (Except.ok.inj h).symm⟩
    · rintro ⟨⟨hv, hvs⟩, rfl⟩
      exact bind_eq_ok_iff.2 ⟨_, Visit.read_eq_ok_iff.2 ⟨hv, rfl⟩, bind_eq_ok_iff.2 ⟨_, ih.2 ⟨hvs, rfl⟩, rfl⟩⟩

/-- **The first faulty member decides the error.** -/
theorem readVisits_eq_error_iff {vs : List Visit} {e : Error} :
    readVisits vs = .error e ↔
      ∃ before v after, vs = before ++ v :: after ∧ (∀ u ∈ before, u.Sound) ∧ v.Faulty e := by
  constructor
  · intro h
    induction vs with
    | nil => cases h
    | cons v vs ih =>
      rcases bind_eq_error_iff.1 h with hv | ⟨found, hfound, h⟩
      · exact ⟨[], v, vs, rfl, nofun, Visit.read_eq_error_iff.1 hv⟩
      · rcases bind_eq_error_iff.1 h with hvs | ⟨rest, _, h⟩
        · obtain ⟨before, u, after, rfl, hbefore, hu⟩ := ih hvs
          exact ⟨v :: before, u, after, rfl,
            List.forall_mem_cons.2 ⟨(Visit.read_eq_ok_iff.1 hfound).1, hbefore⟩, hu⟩
        · cases h
  · rintro ⟨before, v, after, rfl, hbefore, hv⟩
    rw [readVisits_append, readVisits_eq_ok_iff.2 ⟨hbefore, rfl⟩, readVisits, hv.read]
    rfl

mutual
/-- The fields of a member are those of the walk through it. -/
theorem Member.fields_eq_readVisits (inEmbedded : Bool) :
    ∀ m : Member, m.fields inEmbedded = readVisits (m.visits inEmbedded)
  | .field name tag type => by
    rw [Member.fields, Member.visits, readVisits, Visit.read]
    cases Member.readTag name tag with
    | error e => rfl
    | ok t =>
      show (if t.ignore then Except.ok [] else _) = ((if t.ignore then Except.ok none else _) >>= _)
      cases t.ignore with
      | true => rfl
      | false =>
        show (Member.fieldOf inEmbedded name t type >>= _) = (Member.fieldOf inEmbedded name t type >>= _)
        cases Member.fieldOf inEmbedded name t type with
        | error e => rfl
        | ok found => exact congrArg Except.ok (List.append_nil _).symm
  | .embedded name tag typeName members naming => by
    rw [Member.fields, Member.visits, readVisits, Visit.read]
    cases ht : Tag.parse tag with
    | error cause =>
      have hread : Member.readTag name tag = .error (.invalidTag name cause) := by rw [Member.readTag, ht]; rfl
      rw [hread]
      rfl
    | ok t =>
      have hread : Member.readTag name tag = .ok t := by rw [Member.readTag, ht]
      have hleaves : Tag.leavesOut tag = t.ignore := by rw [Tag.leavesOut, ht]
      rw [hread, hleaves]
      show (if t.ignore then Except.ok [] else _) =
        ((if t.ignore then Except.ok none else Except.ok none) >>= fun found : Option Field => _)
      cases t.ignore with
      | true => rfl
      | false =>
        show fieldsOfAll true members = (readVisits (visitsOfAll true members) >>= fun gs => .ok gs)
        rw [fieldsOfAll_eq_readVisits true members]
        cases readVisits (visitsOfAll true members) <;> rfl
/-- **The fields of members are those of the walk** through them. -/
theorem fieldsOfAll_eq_readVisits (inEmbedded : Bool) :
    ∀ ms : List Member, fieldsOfAll inEmbedded ms = readVisits (visitsOfAll inEmbedded ms)
  | [] => rfl
  | m :: ms => by
    rw [fieldsOfAll, visitsOfAll, readVisits_append, Member.fields_eq_readVisits inEmbedded m,
      fieldsOfAll_eq_readVisits inEmbedded ms]
end

end SchemaSql
