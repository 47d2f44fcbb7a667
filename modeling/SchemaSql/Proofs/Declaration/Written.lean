import SchemaSql.Declaration.Basic
import SchemaSql.Proofs.Json.Reading

/-!
# Declarations survive as text

Every part of a declaration is read back from its written form. A limit on the depth of texts leaves a written form as
it is or makes a part unreadable that its reader asks for; so a declaration is read back whole, or not at all.
-/

namespace SchemaSql

open Json

/-- **How many arrays and objects stand around each other** in a value. -/
def Json.depth (j : Json) : Nat :=
  (Written.ofJson j).depth

namespace Json.Written

variable {kindKey detailKey : String}

/-- A choice without a detail is found. -/
theorem choice?_kind (h : kindKey ≠ detailKey) (names : List String) (aside : Bool) (kind : String) :
    choice? kindKey detailKey names aside (object [(kindKey, string kind)]) = some ⟨kind, none, aside⟩ := by
  simp [choice?, memberOnce?, h, secondComesFirst, plainChoice?]

/-- A choice with a detail behind its kind is found. -/
theorem choice?_detail (h : kindKey ≠ detailKey) (names : List String) (aside : Bool) (kind : String) (w : Written) :
    choice? kindKey detailKey names aside (object [(kindKey, string kind), (detailKey, w)]) =
      some ⟨kind, some w, aside⟩ := by
  simp [choice?, memberOnce?, h, h.symm, secondComesFirst, plainChoice?]

/-- Nothing is left of an array or an object where none may be opened. -/
theorem limit_zero {w : Written} (h : 0 < w.depth) : limit 0 w = unreadable := by
  cases w <;> first | rfl | exact absurd h (Nat.lt_irrefl 0)

end Json.Written

namespace HostType

/-- The keys of a choice differ. -/
theorem kind_ne_detail : "kind" ≠ "detail" := by decide

theorem depth_choiceJson (kind : String) (detail : Json) : (choiceJson kind detail).depth = detail.depth + 1 := by
  simp [choiceJson, Json.depth, Written.ofJson, Written.ofMembers, Written.depth, Written.depthMembers]

theorem depth_pos (t : HostType) : 0 < t.toJson.depth := by
  cases t <;> exact Nat.succ_pos _

theorem width?_nat (w : UInt8) : width? (some (.int (Integer.ofNat w.toNat))) = some w := by
  have hlt := w.toNat_lt
  have hval : (Integer.ofNat w.toNat).val = w.toNat := by rw [Integer.ofNat, dif_pos (by omega)]
  have hrange : 0 ≤ (w.toNat : Int) ∧ (w.toNat : Int) < 256 := by omega
  rw [width?, hval, if_pos hrange, Int.toNat_natCast, UInt8.ofNat_toNat]

variable {t : HostType} {fuel n : Nat}

/-- A type with no type inside it is read back. -/
theorem ofWrittenWithin?_plain (h : ∀ inner, t ≠ optional inner) (fuel : Nat) (aside : Bool) :
    ofWrittenWithin? (fuel + 1) aside (.ofJson t.toJson) = some t := by
  cases t with
  | optional inner => exact absurd rfl (h inner)
  | unstorable kind description =>
    cases kind <;>
      simp only [toJson, choiceJson, unstorableName, Written.ofJson, Written.ofMembers, ofWrittenWithin?,
        Written.choice?_detail kind_ne_detail, Written.stringPart?, Written.string?, Option.bind_eq_bind,
        Option.bind_some, Option.map_some]
  | _ =>
    simp only [toJson, choiceJson, Json.nat, Written.ofJson, Written.ofMembers, ofWrittenWithin?,
      Written.choice?_kind kind_ne_detail, Written.choice?_detail kind_ne_detail, width?_nat, Written.noDetail?,
      Written.stringPart?, Written.string?, Option.bind_eq_bind, Option.bind_some, Option.map_some]

theorem depth_plain (h : ∀ inner, t ≠ optional inner) : t.toJson.depth = 1 := by
  cases t <;> first | rfl | exact absurd rfl (h _)

/-- An optional type is read through the type inside it. -/
theorem ofWrittenWithin?_optional (fuel : Nat) (aside : Bool) (w : Written) :
    ofWrittenWithin? (fuel + 1) aside (.object [("kind", .string "optional"), ("detail", w)]) =
      (ofWrittenWithin? fuel aside w).map optional := by
  simp only [ofWrittenWithin?, Written.choice?_detail kind_ne_detail, Option.bind_eq_bind, Option.bind_some]

/-- **A declared type is read back** from its written form. -/
theorem ofWrittenWithin?_toJson (aside : Bool) (hfuel : t.toJson.depth ≤ fuel) :
    ofWrittenWithin? fuel aside (.ofJson t.toJson) = some t := by
  obtain ⟨fuel, rfl⟩ := Nat.exists_eq_succ_of_ne_zero (Nat.ne_of_gt (Nat.lt_of_lt_of_le t.depth_pos hfuel))
  induction t generalizing fuel with
  | optional inner ih =>
    rw [toJson, depth_choiceJson] at hfuel
    obtain ⟨fuel, rfl⟩ := Nat.exists_eq_succ_of_ne_zero
      (Nat.ne_of_gt (Nat.lt_of_lt_of_le inner.depth_pos (Nat.le_of_succ_le_succ hfuel)))
    rw [toJson]
    exact (ofWrittenWithin?_optional _ aside _).trans (by rw [ih fuel (Nat.le_of_succ_le_succ hfuel)]; rfl)
  | _ => exact ofWrittenWithin?_plain (fun _ h => by cases h) fuel aside

theorem ofWrittenWithin?_unreadable (fuel : Nat) (aside : Bool) : ofWrittenWithin? fuel aside .unreadable = none := by
  cases fuel <;> rfl

/-- **A declared type is not read** where part of it is nested too deep. -/
theorem ofWrittenWithin?_limit (aside : Bool) (hn : n < t.toJson.depth) :
    ofWrittenWithin? fuel aside ((Written.ofJson t.toJson).limit n) = none := by
  induction t generalizing fuel n with
  | optional inner ih =>
    cases n with
    | zero => rw [Written.limit_zero (depth_pos (optional inner)), ofWrittenWithin?_unreadable]
    | succ n =>
      rw [toJson, depth_choiceJson] at hn
      cases fuel with
      | zero => rfl
      | succ fuel =>
        have hlimit : (Written.ofJson (optional inner).toJson).limit (n + 1) =
            .object [("kind", (Written.string "optional").limit n),
              ("detail", (Written.ofJson inner.toJson).limit n)] := rfl
        rw [hlimit, Written.limit_of_depth_le (Nat.zero_le n), ofWrittenWithin?_optional, ih (Nat.lt_of_succ_lt_succ hn),
          Option.map_none]
  | _ =>
    rw [depth_plain (fun _ h => by cases h), Nat.lt_one_iff] at hn
    rw [hn, Written.limit_zero (depth_pos _), ofWrittenWithin?_unreadable]

/-- **A declared type survives a limit whole or not at all.** -/
theorem ofWritten?_limit (t : HostType) (n : Nat) :
    ofWritten? ((Written.ofJson t.toJson).limit n) = if t.toJson.depth ≤ n then some t else none := by
  split
  · rename_i h
    rw [Written.limit_of_depth_le h]
    exact ofWrittenWithin?_toJson false (Nat.le_refl _)
  · rename_i h
    exact ofWrittenWithin?_limit false (Nat.lt_of_not_le h)

/-- The written form of a type holds no binary64 number. -/
theorem exact_toJson (t : HostType) : t.toJson.Exact := by
  induction t with
  | optional inner ih => exact ⟨trivial, ih, trivial⟩
  | bool | string | dateTime => exact ⟨trivial, trivial⟩
  | _ => exact ⟨trivial, trivial, trivial⟩

end HostType

theorem TableNaming.ofWritten?_toJson (t : TableNaming) : ofWritten? (.ofJson t.toJson) = some t := by
  have hkeys : "shape" ≠ "value" := by decide
  cases t <;>
    simp only [toJson, Written.ofJson, Written.ofMembers, ofWritten?, Written.choice?_kind hkeys,
      Written.choice?_detail hkeys, Written.noDetail?, Written.stringPart?, Written.string?, Option.bind_eq_bind,
      Option.bind_some, Option.map_some]

theorem TableNaming.depth_toJson (t : TableNaming) : t.toJson.depth = 1 := by
  cases t <;> rfl

theorem TableNaming.exact_toJson (t : TableNaming) : t.toJson.Exact := by
  cases t with
  | literal name => exact ⟨trivial, trivial, trivial⟩
  | _ => exact ⟨trivial, trivial⟩

namespace Declaration

/-! ## Members -/

section Members

variable {record : Written → Option Declaration} {name tag key : String} {content : Json} {w : Written} {n : Nat}

theorem depth_memberJson : (memberJson name tag key content).depth = content.depth + 2 := by
  simp [memberJson, Json.depth, Written.ofJson, Written.ofMembers, Written.depth, Written.depthMembers]

/-- A limit on a member that leaves its content a place is one on the content. -/
theorem limit_memberJson : (Written.ofJson (memberJson name tag key content)).limit (n + 2) =
    .object [("name", .string name), ("kind", .object [(key, (Written.ofJson content).limit n)]),
      ("tag", .string tag)] := rfl

theorem parts?_member (kind : Written) :
    (Written.object [("name", .string name), ("kind", kind), ("tag", .string tag)]).parts? ["name", "kind", "tag"] =
      some [some (.string name), some kind, some (.string tag)] := rfl

theorem memberOfWritten?_value :
    memberOfWritten? record (.object [("name", .string name), ("kind", .object [("value", w)]), ("tag", .string tag)]) =
      (HostType.ofWritten? w).map (.field name tag) := by
  simp only [memberOfWritten?, parts?_member, Written.stringPart?, Written.string?, tag?, Option.bind_eq_bind,
    Option.bind_some]

theorem memberOfWritten?_embedded :
    memberOfWritten? record
        (.object [("name", .string name), ("kind", .object [("embedded", w)]), ("tag", .string tag)]) =
      (record w).map fun d => .embedded name tag d.typeName d.members d.naming := by
  simp only [memberOfWritten?, parts?_member, Written.stringPart?, Written.string?, tag?, Option.bind_eq_bind,
    Option.bind_some]

/-- Two arrays or objects more count on both sides of a limit. -/
theorem map_ite_add_two {α β : Type} (f : α → β) (a : α) (depth n : Nat) :
    (if depth ≤ n then some a else none).map f = if depth + 2 ≤ n + 2 then some (f a) else none := by
  by_cases h : depth ≤ n
  · rw [if_pos h, if_pos (Nat.add_le_add_right h 2), Option.map_some]
  · rw [if_neg h, if_neg (by omega), Option.map_none]

/-- A member is not read where its content has no place. -/
theorem memberOfWritten?_shallow (hn : n < 2) :
    memberOfWritten? record ((Written.ofJson (memberJson name tag key content)).limit n) = none := by
  match n, hn with
  | 0, _ => rfl
  | 1, _ =>
    have hlimit : (Written.ofJson (memberJson name tag key content)).limit 1 =
        .object [("name", .string name), ("kind", .unreadable), ("tag", .string tag)] := rfl
    simp only [hlimit, memberOfWritten?, parts?_member, Written.stringPart?, Written.string?, tag?,
      Option.bind_eq_bind, Option.bind_some]

/-- **A member survives a limit whole or not at all** if its content does. -/
theorem memberOfWritten?_memberJson {α : Type} {a : α} {f : α → Member} {read : Written → Option α}
    (hmember : ∀ w, memberOfWritten? record
      (.object [("name", .string name), ("kind", .object [(key, w)]), ("tag", .string tag)]) = (read w).map f)
    (hread : ∀ m, n = m + 2 → read ((Written.ofJson content).limit m) = if content.depth ≤ m then some a else none) :
    memberOfWritten? record ((Written.ofJson (memberJson name tag key content)).limit n) =
      if content.depth + 2 ≤ n then some (f a) else none := by
  match n with
  | 0 => rw [memberOfWritten?_shallow (by decide), if_neg (by omega)]
  | 1 => rw [memberOfWritten?_shallow (by decide), if_neg (by omega)]
  | n + 2 => rw [limit_memberJson, hmember, hread n rfl, map_ite_add_two]

end Members

/-! ## Records -/

/-- A record as it is written, from its members and from what says how it names its table. -/
def writtenRecord (typeName : String) (members : Written) (naming : Option Written) : Written :=
  .object ([("type_name", .string typeName), ("fields", members)] ++
    naming.toList.map fun w => ("table_name_fn", w))

section Records

variable {typeName : String} {members : Written} {items : List Written} {written : Option Written}
  {contents : List Json} {naming : Option TableNaming} {n fuel : Nat}

theorem ofJson_recordJson : Written.ofJson (recordJson typeName contents naming) =
    writtenRecord typeName (.array (Written.ofItems contents)) (naming.map fun t => .ofJson t.toJson) := by
  cases naming <;> rfl

theorem depth_recordJson :
    (recordJson typeName contents naming).depth = Written.depthItems (Written.ofItems contents) + 2 := by
  rw [Json.depth, ofJson_recordJson]
  cases naming with
  | none => simp [writtenRecord, Written.depth, Written.depthMembers]
  | some t =>
    have ht : (Written.ofJson t.toJson).depth = 1 := t.depth_toJson
    simp [writtenRecord, Written.depth, Written.depthMembers, ht]

theorem limit_writtenRecord : (writtenRecord typeName members written).limit (n + 1) =
    writtenRecord typeName (members.limit n) (written.map (Written.limit n)) := by
  have hname : (Written.string typeName).limit n = .string typeName := Written.limit_of_depth_le (Nat.zero_le n)
  have hlimit : (writtenRecord typeName members written).limit (n + 1) =
      .object ([("type_name", (Written.string typeName).limit n), ("fields", members.limit n)] ++
        (written.map (Written.limit n)).toList.map fun w => ("table_name_fn", w)) := by
    cases written <;> rfl
  rw [hlimit, hname, writtenRecord]

theorem parts?_writtenRecord :
    (writtenRecord typeName members written).parts? ["type_name", "fields", "table_name_fn"] =
      some [some (.string typeName), some members, written] := by
  cases written <;> rfl

theorem naming?_toJson (naming : Option TableNaming) :
    naming? (naming.map fun t => .ofJson t.toJson) = some naming := by
  cases naming with
  | none => rfl
  | some t =>
    have ht := t.ofWritten?_toJson
    cases t <;> exact congrArg (Option.map some) ht

/-- A record is read through its members. -/
theorem ofWrittenWithin?_writtenRecord (h : naming? written = some naming) :
    ofWrittenWithin? (fuel + 1) (writtenRecord typeName (.array items) written) =
      (items.mapM (memberOfWritten? (ofWrittenWithin? fuel))).map fun ms => ⟨typeName, ms, naming⟩ := by
  simp only [ofWrittenWithin?, parts?_writtenRecord, Written.stringPart?, Written.string?, Written.items?, h,
    Option.bind_eq_bind, Option.bind_some]
  cases items.mapM (memberOfWritten? (ofWrittenWithin? fuel)) <;> rfl

/-- A record is not read where its members have no place. -/
theorem ofWrittenWithin?_shallow (hn : n < 2) :
    ofWrittenWithin? fuel ((Written.ofJson (recordJson typeName contents naming)).limit n) = none := by
  cases fuel with
  | zero => rfl
  | succ fuel =>
    match n, hn with
    | 0, _ => rfl
    | 1, _ =>
      rw [ofJson_recordJson, limit_writtenRecord, Written.limit, ofWrittenWithin?]
      simp only [parts?_writtenRecord, Written.stringPart?, Written.string?, Written.items?, Option.bind_eq_bind,
        Option.bind_some, Option.bind_none]

/-- **The written forms of members survive a limit** all or not at all, for every limit and with enough fuel for what
it leaves. -/
def MembersSurvive (contents : List Json) (ms : List Member) : Prop :=
  ∀ {fuel n : Nat}, (Written.depthItems (Written.ofItems contents) ≤ n →
      Written.depthItems (Written.ofItems contents) ≤ fuel) →
    (Written.limitItems n (Written.ofItems contents)).mapM (memberOfWritten? (ofWrittenWithin? fuel)) =
      if Written.depthItems (Written.ofItems contents) ≤ n then some ms else none

/-- A limit that leaves the members a place leaves how the record names its table as it is. -/
theorem naming?_limit (naming : Option TableNaming) (n : Nat) :
    naming? ((naming.map fun t => Written.ofJson t.toJson).map (Written.limit (n + 1))) = some naming := by
  rw [← naming?_toJson naming]
  cases naming with
  | none => rfl
  | some t =>
    have ht : (Written.ofJson t.toJson).depth ≤ n + 1 := Nat.le_trans (Nat.le_of_eq t.depth_toJson) (Nat.le_add_left 1 n)
    rw [Option.map_some, Option.map_some, Written.limit_of_depth_le ht]

/-- **A record survives a limit whole or not at all** if its members do. -/
theorem ofWrittenWithin?_recordJson {ms : List Member} (h : MembersSurvive contents ms)
    (hfuel : (recordJson typeName contents naming).depth ≤ n → (recordJson typeName contents naming).depth ≤ fuel) :
    ofWrittenWithin? fuel ((Written.ofJson (recordJson typeName contents naming)).limit n) =
      if (recordJson typeName contents naming).depth ≤ n then some ⟨typeName, ms, naming⟩ else none := by
  rw [depth_recordJson] at hfuel ⊢
  match n, fuel with
  | 0, fuel => rw [ofWrittenWithin?_shallow (by decide), if_neg (by omega)]
  | 1, fuel => rw [ofWrittenWithin?_shallow (by decide), if_neg (by omega)]
  | n + 2, 0 =>
    rw [if_neg (by omega)]
    rfl
  | n + 2, fuel + 1 =>
    rw [ofJson_recordJson, limit_writtenRecord, Written.limit, ofWrittenWithin?_writtenRecord (naming?_limit naming n),
      h (by omega), map_ite_add_two]

end Records

theorem exact_recordJson {typeName : String} {contents : List Json} {naming : Option TableNaming}
    (h : ExactItems contents) : (recordJson typeName contents naming).Exact := by
  cases naming with
  | none => exact ⟨trivial, h, trivial⟩
  | some t => exact ⟨trivial, h, t.exact_toJson, trivial⟩

/-! ## Declarations -/

mutual
/-- **A member survives a limit whole or not at all.** -/
theorem memberOfWritten?_ofMember : ∀ (m : Member) {fuel n : Nat},
    ((ofMember m).depth ≤ n → (ofMember m).depth ≤ fuel) →
    memberOfWritten? (ofWrittenWithin? fuel) ((Written.ofJson (ofMember m)).limit n) =
      if (ofMember m).depth ≤ n then some m else none
  | .field name tag type, fuel, n, _ => by
    rw [ofMember, depth_memberJson]
    exact memberOfWritten?_memberJson (fun _ => memberOfWritten?_value) fun m _ => type.ofWritten?_limit m
  | .embedded name tag typeName members naming, fuel, n, hfuel => by
    rw [ofMember, depth_memberJson] at hfuel ⊢
    refine memberOfWritten?_memberJson (a := ⟨typeName, members, naming⟩)
      (f := fun d : Declaration => .embedded name tag d.typeName d.members d.naming)
      (fun _ => memberOfWritten?_embedded) fun m hm => ?_
    exact ofWrittenWithin?_recordJson (membersSurvive members) (by omega)
/-- The members of a record survive limits. -/
theorem membersSurvive : ∀ ms : List Member, MembersSurvive (ofMembers ms) ms
  | [], _, n, _ => (if_pos (Nat.zero_le n)).symm
  | m :: ms, fuel, n, hfuel => by
    have hdepth : Written.depthItems (Written.ofItems (ofMembers (m :: ms))) =
        max (ofMember m).depth (Written.depthItems (Written.ofItems (ofMembers ms))) := rfl
    rw [hdepth] at hfuel ⊢
    rw [ofMembers, Written.ofItems, Written.limitItems, List.mapM_cons]
    by_cases hfirst : (ofMember m).depth ≤ n
    · by_cases hrest : Written.depthItems (Written.ofItems (ofMembers ms)) ≤ n
      · rw [memberOfWritten?_ofMember m (by omega), membersSurvive ms (by omega), if_pos hfirst, if_pos hrest,
          if_pos (by omega)]
        rfl
      · rw [membersSurvive ms (by omega), if_neg hrest, if_neg (by omega)]
        cases memberOfWritten? (ofWrittenWithin? fuel) ((Written.ofJson (ofMember m)).limit n) <;> rfl
    · rw [memberOfWritten?_ofMember m (by omega), if_neg hfirst, if_neg (by omega)]
      rfl
end

mutual
/-- The written form of a member holds no binary64 number. -/
theorem exact_ofMember : ∀ m : Member, (ofMember m).Exact
  | .field _ _ type => ⟨trivial, ⟨type.exact_toJson, trivial⟩, trivial, trivial⟩
  | .embedded _ _ _ members _ => ⟨trivial, ⟨exact_recordJson (exact_ofMembers members), trivial⟩, trivial, trivial⟩
theorem exact_ofMembers : ∀ ms : List Member, ExactItems (ofMembers ms)
  | [] => trivial
  | m :: ms => ⟨exact_ofMember m, exact_ofMembers ms⟩
end

/-- **A declaration survives as text whole or not at all**: it is read back from its text if its written form has at
most 127 arrays and objects around each other, and otherwise its text is refused. -/
theorem ofText_text (d : Declaration) :
    ofText d.toJson.text = if d.toJson.depth ≤ 127 then .ok d else .error .json := by
  have hexact : d.toJson.Exact := exact_recordJson (exact_ofMembers d.members)
  have hfuel : d.toJson.depth ≤ 127 → d.toJson.depth ≤ ((Written.ofJson d.toJson).limit 127).depth := by
    intro hdepth
    rw [Written.limit_of_depth_le hdepth]
    exact Nat.le_refl _
  have hread : parse? d.toJson.text = if d.toJson.depth ≤ 127 then some d else none := by
    rw [parse?, Json.read?_text hexact, Option.bind_some]
    exact ofWrittenWithin?_recordJson (membersSurvive d.members) hfuel
  by_cases hdepth : d.toJson.depth ≤ 127
  · rw [ofText, hread, if_pos hdepth, if_pos hdepth]
  · rw [ofText, hread, if_neg hdepth, if_neg hdepth]

end Declaration

end SchemaSql
