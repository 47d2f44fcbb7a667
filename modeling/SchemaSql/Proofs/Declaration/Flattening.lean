import SchemaSql.Proofs.Declaration.Visit

/-!
# The flattening of a declaration

The fields of a declaration are those that the members on the walk through it become, in their order. The members
of an embedded record, at whatever depth, stand in one run on the walk, and that run is the walk through the
embedded record alone with all its members marked as embedded.
-/

namespace SchemaSql

/-- A field as it is in a record that embeds its own. -/
def Field.inside (f : Field) : Field :=
  { f with embedded := true }

namespace Visit

/-- A visited member as it is met in a record that embeds its own. -/
def inside (v : Visit) : Visit :=
  { v with inEmbedded := true }

variable {v : Visit} {f : Field}

/-- Nothing gets wrong with a member by embedding its record. -/
theorem sound_inside : v.inside.Sound ↔ v.Sound := by
  have hkept : ∀ t type, v.inside.Kept t type ↔ v.Kept t type := fun t type =>
    ⟨fun h => ⟨h.tag, h.ignore, h.type⟩, fun h => ⟨h.tag, h.ignore, h.type⟩⟩
  constructor
  · rintro ⟨htag, htype, hcolumn⟩
    exact ⟨htag, fun t type h => htype t type ((hkept t type).2 h),
      fun t type scalar h => hcolumn t type scalar ((hkept t type).2 h)⟩
  · rintro ⟨htag, htype, hcolumn⟩
    exact ⟨htag, fun t type h => htype t type ((hkept t type).1 h),
      fun t type scalar h => hcolumn t type scalar ((hkept t type).1 h)⟩

theorem field?_inside (v : Visit) : v.inside.field? = v.field?.map Field.inside := by
  unfold field? inside
  cases Tag.parse v.tag with
  | error _ => rfl
  | ok t =>
    show (if t.ignore then none else _) = Option.map _ (if t.ignore then none else _)
    cases t.ignore with
    | true => rfl
    | false =>
      cases v.type.map HostType.classify with
      | none => rfl
      | some found => cases found <;> rfl

/-- A field is marked as embedded if its member was met inside an embedded record. -/
theorem embedded_of_field? (h : v.field? = some f) : f.embedded = v.inEmbedded := by
  unfold field? at h
  split at h
  · cases h
  · split at h
    · cases h
    · split at h <;> cases h
      rfl

end Visit

mutual
theorem Member.visits_true (inEmbedded : Bool) :
    ∀ m : Member, m.visits true = (m.visits inEmbedded).map Visit.inside
  | .field _ _ _ => rfl
  | .embedded name tag _ members _ => by
    rw [Member.visits, Member.visits, List.map_cons]
    cases Tag.leavesOut tag with
    | true => rfl
    | false => exact congrArg _ (visitsOfAll_true true members)
/-- **The walk inside an embedded record** meets the same members. -/
theorem visitsOfAll_true (inEmbedded : Bool) :
    ∀ ms : List Member, visitsOfAll true ms = (visitsOfAll inEmbedded ms).map Visit.inside
  | [] => rfl
  | m :: ms => by
    rw [visitsOfAll, visitsOfAll, List.map_append, Member.visits_true inEmbedded m, visitsOfAll_true inEmbedded ms]
end

namespace Declaration

variable {d inner : Declaration} {fs : List Field} {e : Error}

/-- The members met on the walk through a declaration. -/
def visits (d : Declaration) : List Visit :=
  visitsOfAll false d.members

/-- The fields that the members on the walk become. -/
def columns (d : Declaration) : List Field :=
  d.visits.filterMap Visit.field?

/-- **An embedded record that the walk through members enters**, at any depth, with what the walk meets before the
members of that record and after them. -/
inductive Entered : Bool → List Member → List Visit → Declaration → List Visit → Prop
  | here {inEmbedded : Bool} (ms ns : List Member) {members : List Member} {name tag typeName : String}
    {naming : Option TableNaming} (h : Tag.leavesOut tag = false) :
    Entered inEmbedded (ms ++ .embedded name tag typeName members naming :: ns)
      (visitsOfAll inEmbedded ms ++ [⟨inEmbedded, name, tag, none⟩]) ⟨typeName, members, naming⟩
      (visitsOfAll inEmbedded ns)
  | within {inEmbedded : Bool} (ms ns : List Member) {members : List Member} {name tag typeName : String}
    {naming : Option TableNaming} {before after : List Visit} {inner : Declaration}
    (h : Tag.leavesOut tag = false) (hinner : Entered true members before inner after) :
    Entered inEmbedded (ms ++ .embedded name tag typeName members naming :: ns)
      (visitsOfAll inEmbedded ms ++ ⟨inEmbedded, name, tag, none⟩ :: before) inner
      (after ++ visitsOfAll inEmbedded ns)

theorem visitsOfAll_embedded {inEmbedded : Bool} {ms ns members : List Member} {name tag typeName : String}
    {naming : Option TableNaming} (h : Tag.leavesOut tag = false) :
    visitsOfAll inEmbedded (ms ++ .embedded name tag typeName members naming :: ns) =
      visitsOfAll inEmbedded ms ++ ⟨inEmbedded, name, tag, none⟩ :: visitsOfAll true members ++
        visitsOfAll inEmbedded ns := by
  rw [visitsOfAll_append, visitsOfAll, Member.visits, h, if_neg Bool.false_ne_true, List.append_assoc]

/-- **The members of an entered record stand in one run**, which is the walk through it alone. -/
theorem Entered.visits_eq {inEmbedded : Bool} {ms : List Member} {before after : List Visit}
    (h : Entered inEmbedded ms before inner after) :
    visitsOfAll inEmbedded ms = before ++ inner.visits.map Visit.inside ++ after := by
  induction h with
  | here _ _ h =>
    rw [visitsOfAll_embedded h, visits, ← visitsOfAll_true, List.append_assoc, List.append_assoc,
      List.append_assoc]
    rfl
  | within _ _ h _ ih =>
    rw [visitsOfAll_embedded h, ih]
    simp only [List.append_assoc, List.cons_append]

theorem mem_visitsOfAll {inEmbedded : Bool} {ms : List Member} {v : Visit} (hv : v ∈ visitsOfAll inEmbedded ms) :
    ∃ m ∈ ms, v ∈ m.visits inEmbedded := by
  induction ms with
  | nil => cases hv
  | cons m ms ih =>
    rcases List.mem_append.1 hv with hv | hv
    · exact ⟨m, List.mem_cons_self, hv⟩
    · obtain ⟨n, hn, hv⟩ := ih hv
      exact ⟨n, List.mem_cons_of_mem m hn, hv⟩

/-- **What is met inside an embedded record** belongs to a record that the walk enters. -/
theorem exists_entered {ms : List Member} {v : Visit} (hv : v ∈ visitsOfAll false ms) (h : v.inEmbedded = true) :
    ∃ before inner after, Entered false ms before inner after ∧ v ∈ inner.visits.map Visit.inside := by
  obtain ⟨m, hm, hmet⟩ := mem_visitsOfAll hv
  obtain ⟨pre, post, rfl⟩ := List.append_of_mem hm
  cases m with
  | field name tag type =>
    cases List.mem_singleton.1 hmet
    cases h
  | embedded name tag typeName members naming =>
    rcases List.mem_cons.1 hmet with rfl | hmet
    · cases h
    · cases hleaves : Tag.leavesOut tag with
      | true =>
        rw [hleaves, if_pos rfl] at hmet
        cases hmet
      | false =>
        rw [hleaves, if_neg Bool.false_ne_true, visitsOfAll_true false members] at hmet
        exact ⟨_, _, _, Entered.here pre post hleaves, hmet⟩

/-! ## The fields of a declaration -/

theorem fields_eq_readVisits (d : Declaration) :
    d.fields = (do
      let fs ← readVisits d.visits
      match Field.firstRepeated (fs.map (·.name)) with
      | some n => .error (.duplicateField n)
      | none => .ok fs) := by
  rw [fields, fieldsOfAll_eq_readVisits]
  rfl

/-- **A declaration has fields** exactly if nothing is wrong with its members and the names are distinct. -/
theorem fields_eq_ok_iff :
    d.fields = .ok fs ↔ (∀ v ∈ d.visits, v.Sound) ∧ (d.columns.map (·.name)).Nodup ∧ fs = d.columns := by
  rw [fields_eq_readVisits, bind_eq_ok_iff]
  constructor
  · rintro ⟨gs, hread, h⟩
    obtain ⟨hsound, rfl⟩ := readVisits_eq_ok_iff.1 hread
    split at h
    · cases h
    · rename_i hnone
      exact ⟨hsound, Field.firstRepeated_eq_none_iff.1 hnone, (Except.ok.inj h).symm⟩
  · rintro ⟨hsound, hnodup, rfl⟩
    refine ⟨_, readVisits_eq_ok_iff.2 ⟨hsound, rfl⟩, ?_⟩
    have hnone := Field.firstRepeated_eq_none_iff.2 hnodup
    rw [columns] at hnone
    rw [hnone]
    rfl

/-- A member of a declaration is faulty, and all members that are met before it are sound. -/
def FirstFault (d : Declaration) (e : Error) : Prop :=
  ∃ before v after, d.visits = before ++ v :: after ∧ (∀ u ∈ before, u.Sound) ∧ v.Faulty e

/-- **A declaration is refused** for its first faulty member, or, if there is none, for the first name that two
fields have. -/
theorem fields_eq_error_iff :
    d.fields = .error e ↔ d.FirstFault e ∨
      ((∀ v ∈ d.visits, v.Sound) ∧ ∃ before name after, d.columns.map (·.name) = before ++ name :: after ∧
        before.Nodup ∧ name ∈ before ∧ e = .duplicateField name) := by
  rw [fields_eq_readVisits, bind_eq_error_iff, readVisits_eq_error_iff]
  refine or_congr_right ?_
  constructor
  · rintro ⟨gs, hread, h⟩
    obtain ⟨hsound, rfl⟩ := readVisits_eq_ok_iff.1 hread
    split at h
    · rename_i name hsome
      obtain ⟨before, after, hnames, hnodup, hname⟩ := Field.firstRepeated_eq_some_iff.1 hsome
      exact ⟨hsound, before, name, after, hnames, hnodup, hname, (Except.error.inj h).symm⟩
    · cases h
  · rintro ⟨hsound, before, name, after, hnames, hnodup, hname, rfl⟩
    refine ⟨_, readVisits_eq_ok_iff.2 ⟨hsound, rfl⟩, ?_⟩
    have hsome := Field.firstRepeated_eq_some_iff.2 ⟨before, after, hnames, hnodup, hname⟩
    rw [columns] at hsome
    rw [hsome]

/-- **Each refusal of a declaration is an error of the declaration.** -/
theorem isMetadata_of_fields (h : d.fields = .error e) : e.isMetadata = true := by
  rcases fields_eq_error_iff.1 h with ⟨_, v, _, _, _, hv⟩ | ⟨_, _, _, _, _, _, _, rfl⟩
  · cases hv <;> rfl
  · rfl

theorem columns_inside (vs : List Visit) :
    (vs.map Visit.inside).filterMap Visit.field? = (vs.filterMap Visit.field?).map Field.inside := by
  rw [List.filterMap_map, List.map_filterMap]
  exact congrArg (List.filterMap · vs) (funext Visit.field?_inside)

/-- **An embedded record contributes its own fields in one run**, marked as embedded. -/
theorem Entered.fields {before after : List Visit} (h : Entered false d.members before inner after)
    (hd : d.fields = .ok fs) :
    ∃ gs, inner.fields = .ok gs ∧
      fs = before.filterMap Visit.field? ++ gs.map Field.inside ++ after.filterMap Visit.field? := by
  obtain ⟨hsound, hnodup, rfl⟩ := fields_eq_ok_iff.1 hd
  have hvisits : d.visits = before ++ inner.visits.map Visit.inside ++ after := h.visits_eq
  have hcolumns : d.columns =
      before.filterMap Visit.field? ++ inner.columns.map Field.inside ++ after.filterMap Visit.field? := by
    rw [columns, hvisits, List.filterMap_append, List.filterMap_append, columns_inside, columns]
  refine ⟨inner.columns, fields_eq_ok_iff.2 ⟨?_, ?_, rfl⟩, hcolumns⟩
  · intro v hv
    refine Visit.sound_inside.1 (hsound _ ?_)
    rw [hvisits]
    exact List.mem_append_left _ (List.mem_append_right _ (List.mem_map_of_mem hv))
  · rw [hcolumns, List.map_append, List.map_append, List.map_map] at hnodup
    exact (List.nodup_append.1 (List.nodup_append.1 hnodup).1).2.1

/-- **A field is marked as embedded** exactly if it comes from an embedded record. -/
theorem embedded_iff {f : Field} (hd : d.fields = .ok fs) (hf : f ∈ fs) :
    f.embedded = true ↔ ∃ before inner after gs, Entered false d.members before inner after ∧
      inner.fields = .ok gs ∧ f ∈ gs.map Field.inside := by
  constructor
  · intro hembedded
    obtain ⟨hsound, hnodup, rfl⟩ := fields_eq_ok_iff.1 hd
    obtain ⟨v, hv, hfield⟩ := List.mem_filterMap.1 hf
    obtain ⟨before, inner, after, hentered, hmem⟩ :=
      exists_entered hv ((Visit.embedded_of_field? hfield).symm.trans hembedded)
    obtain ⟨gs, hgs, _⟩ := hentered.fields hd
    obtain ⟨_, _, rfl⟩ := fields_eq_ok_iff.1 hgs
    refine ⟨before, inner, after, _, hentered, hgs, ?_⟩
    rw [columns, ← columns_inside]
    exact List.mem_filterMap.2 ⟨v, hmem, hfield⟩
  · rintro ⟨_, _, _, gs, _, _, hf⟩
    obtain ⟨g, _, rfl⟩ := List.mem_map.1 hf
    rfl

/-- **The fields of a declaration are its flattening.** They exist exactly if nothing is wrong with any member on
the walk and their names are distinct; then they are what the members become, in the order of the walk, and each
embedded record contributes its own fields in one run. Otherwise the first faulty member decides the error, or else
the first repeated name, and the error is one of the declaration. -/
theorem fields_flatten (d : Declaration) :
    (∀ fs, d.fields = .ok fs ↔
      (∀ v ∈ d.visits, v.Sound) ∧ (d.columns.map (·.name)).Nodup ∧ fs = d.columns) ∧
    (∀ fs before inner after, d.fields = .ok fs ∧ Entered false d.members before inner after →
      ∃ gs, inner.fields = .ok gs ∧
        fs = before.filterMap Visit.field? ++ gs.map Field.inside ++ after.filterMap Visit.field?) ∧
    (∀ fs f, d.fields = .ok fs ∧ f ∈ fs →
      (f.embedded = true ↔ ∃ before inner after gs, Entered false d.members before inner after ∧
        inner.fields = .ok gs ∧ f ∈ gs.map Field.inside)) ∧
    (∀ e, d.fields = .error e ↔ d.FirstFault e ∨
      ((∀ v ∈ d.visits, v.Sound) ∧ ∃ before name after, d.columns.map (·.name) = before ++ name :: after ∧
        before.Nodup ∧ name ∈ before ∧ e = .duplicateField name)) ∧
    (∀ e, d.fields = .error e → e.isMetadata = true) :=
  ⟨fun _ => fields_eq_ok_iff, fun _ _ _ _ h => h.2.fields h.1, fun _ _ h => embedded_iff h.1 h.2,
    fun _ => fields_eq_error_iff, fun _ => isMetadata_of_fields⟩

/-- Who worked on a revision. -/
def revision : Declaration :=
  ⟨"Revision", [.field "Actor" "" .string, .field "Draft" "-" .bool], none⟩

/-- A document with the number of its revision and the revision, and with an old title under a tag. -/
def document (tag : String) : Declaration :=
  ⟨"Document",
    [.field "Title" "unique" .string,
      .embedded "Meta" "" "Meta"
        [.field "Number" "pk" (.int 32), .embedded "Revision" "" revision.typeName revision.members none] none,
      .embedded "Old" tag "Old" [.field "Title" "" .string] none],
    none⟩

def titleField : Field := { name := "Title", column := "title", type := .text, unique := true }

def numberField : Field :=
  { name := "Number", column := "number", type := .signed .w32, primaryKey := true, embedded := true }

def actorField : Field := { name := "Actor", column := "actor", type := .text, embedded := true }

/-- The old title is left out, and the fields of the revision stand last; without the tag the title is repeated. -/
theorem fields_flatten_document :
    (document "-").fields = .ok [titleField, numberField, actorField] ∧
    (∃ gs, revision.fields = .ok gs ∧
      [titleField, numberField, actorField] = [titleField, numberField] ++ gs.map Field.inside ++ []) ∧
    (actorField.embedded = true ↔ ∃ before inner after gs, Entered false (document "-").members before inner after ∧
        inner.fields = .ok gs ∧ actorField ∈ gs.map Field.inside) ∧
    (document "").fields = .error (.duplicateField "Title") ∧ (Error.duplicateField "Title").isMetadata = true := by
  have hfields : (document "-").fields = .ok [titleField, numberField, actorField] := rfl
  have hentered : Entered false (document "-").members
      [⟨false, "Title", "unique", some .string⟩, ⟨false, "Meta", "", none⟩, ⟨true, "Number", "pk", some (.int 32)⟩,
        ⟨true, "Revision", "", none⟩] revision [⟨false, "Old", "-", none⟩] :=
    .within [_] [_] rfl (.here [_] [] rfl)
  have hrepeated : (document "").fields = .error (.duplicateField "Title") := rfl
  exact ⟨hfields, (fields_flatten (document "-")).2.1 _ _ _ _ ⟨hfields, hentered⟩,
    (fields_flatten (document "-")).2.2.1 _ _ ⟨hfields, by decide⟩, hrepeated,
    (fields_flatten (document "")).2.2.2.2 _ hrepeated⟩

end Declaration

end SchemaSql
