import SchemaSql.Json.Basic

/-!
# Written values

What a JSON text says before it is taken for a value: the members of objects in the order in which they
are written, keys that stand twice among them, and `unreadable` in the place of a part that follows the
grammar and yet has no value. A part that nobody asks for may be unreadable.

`value?` takes what is written for a value, which is normal (`normal_of_value?`); `ofJson` writes a value
as it is, and taking that for a value changes no normal one (`value?_ofJson`).
-/

namespace SchemaSql.Json

/-- **What is written in JSON.** -/
inductive Written where
  | null
  | bool (b : Bool)
  | int (n : Integer)
  | float (x : Binary64.Finite)
  | string (s : String)
  | array (items : List Written)
  | object (members : List (String × Written))
  /-- A number beyond the range, a string with half a pair of surrogates, or something nested too deep. -/
  | unreadable

namespace Written

/-- The text of a string. -/
def string? : Written → Option String
  | string s => some s
  | _ => none

/-- The items of an array. -/
def items? : Written → Option (List Written)
  | array xs => some xs
  | _ => none

/-- The members of an object. -/
def members? : Written → Option (List (String × Written))
  | object ms => some ms
  | _ => none

/-! ## Values -/

mutual
/-- **The normal value of what is written**, if all of it can be read: of several members with one key the
last counts. -/
def value? : Written → Option Json
  | null => some .null
  | bool b => some (.bool b)
  | int n => some (.int n)
  | float x => some (.float x)
  | string s => some (.string s)
  | array xs => (itemValues? xs).map .array
  | object ms => (memberValues? ms).map fun vs => .object (Keyed.ofList vs)
  | unreadable => none
/-- The values of items. -/
def itemValues? : List Written → Option (List Json)
  | [] => some []
  | x :: xs =>
    match x.value?, itemValues? xs with
    | some v, some vs => some (v :: vs)
    | _, _ => none
/-- The values of members under their keys. -/
def memberValues? : List (String × Written) → Option (List (String × Json))
  | [] => some []
  | (k, x) :: ms =>
    match x.value?, memberValues? ms with
    | some v, some vs => some ((k, v) :: vs)
    | _, _ => none
end

mutual
/-- A value as it is written with its members in the order in which they stand. -/
def ofJson : Json → Written
  | .null => null
  | .bool b => bool b
  | .int n => int n
  | .float x => float x
  | .string s => string s
  | .array xs => array (ofItems xs)
  | .object ms => object (ofMembers ms)
/-- Items as they are written. -/
def ofItems : List Json → List Written
  | [] => []
  | x :: xs => ofJson x :: ofItems xs
/-- Members as they are written. -/
def ofMembers : List (String × Json) → List (String × Written)
  | [] => []
  | (k, v) :: ms => (k, ofJson v) :: ofMembers ms
end

mutual
/-- **The value of what is written is normal.** -/
theorem normal_of_value? : ∀ {w : Written} {j : Json}, w.value? = some j → j.Normal
  | null, _, h => by cases h; trivial
  | bool _, _, h => by cases h; trivial
  | int _, _, h => by cases h; trivial
  | float _, _, h => by cases h; trivial
  | string _, _, h => by cases h; trivial
  | array _, _, h => by
    obtain ⟨vs, hvs, rfl⟩ := Option.map_eq_some_iff.1 h
    exact normalItems_of_itemValues? hvs
  | object _, _, h => by
    obtain ⟨vs, hvs, rfl⟩ := Option.map_eq_some_iff.1 h
    exact ⟨Keyed.sorted_ofList _, normalMembers_iff.2 fun m hm =>
      normalMembers_iff.1 (normalMembers_of_memberValues? hvs) m (Keyed.mem_of_mem_ofList hm)⟩
  | unreadable, _, h => by cases h
theorem normalItems_of_itemValues? : ∀ {xs : List Written} {vs : List Json}, itemValues? xs = some vs → NormalItems vs
  | [], _, h => by cases h; trivial
  | x :: xs, _, h => by
    cases hx : x.value? with
    | none => simp only [itemValues?, hx, reduceCtorEq] at h
    | some v =>
      cases hxs : itemValues? xs with
      | none => simp only [itemValues?, hx, hxs, reduceCtorEq] at h
      | some vs =>
        simp only [itemValues?, hx, hxs, Option.some.injEq] at h
        exact h ▸ ⟨normal_of_value? hx, normalItems_of_itemValues? hxs⟩
theorem normalMembers_of_memberValues? :
    ∀ {ms : List (String × Written)} {vs : List (String × Json)}, memberValues? ms = some vs → NormalMembers vs
  | [], _, h => by cases h; trivial
  | (k, x) :: ms, _, h => by
    cases hx : x.value? with
    | none => simp only [memberValues?, hx, reduceCtorEq] at h
    | some v =>
      cases hms : memberValues? ms with
      | none => simp only [memberValues?, hx, hms, reduceCtorEq] at h
      | some vs =>
        simp only [memberValues?, hx, hms, Option.some.injEq] at h
        exact h ▸ ⟨normal_of_value? hx, normalMembers_of_memberValues? hms⟩
end

mutual
/-- **A normal value is the value of what it is written as.** -/
theorem value?_ofJson : ∀ {j : Json}, j.Normal → (ofJson j).value? = some j
  | .null, _ => rfl
  | .bool _, _ => rfl
  | .int _, _ => rfl
  | .float _, _ => rfl
  | .string _, _ => rfl
  | .array xs, h => by simp only [ofJson, value?, itemValues?_ofItems h, Option.map_some]
  | .object ms, h => by
    simp only [ofJson, value?, memberValues?_ofMembers h.2, Option.map_some, Keyed.ofList_of_sorted h.1]
theorem itemValues?_ofItems : ∀ {xs : List Json}, NormalItems xs → itemValues? (ofItems xs) = some xs
  | [], _ => rfl
  | _ :: _, h => by simp only [ofItems, itemValues?, value?_ofJson h.1, itemValues?_ofItems h.2]
theorem memberValues?_ofMembers :
    ∀ {ms : List (String × Json)}, NormalMembers ms → memberValues? (ofMembers ms) = some ms
  | [], _ => rfl
  | (_, _) :: _, h => by simp only [ofMembers, memberValues?, value?_ofJson h.1, memberValues?_ofMembers h.2]
end

/-! ## Depth -/

mutual
/-- **The number of arrays and objects around the innermost part.** -/
def depth : Written → Nat
  | array xs => depthItems xs + 1
  | object ms => depthMembers ms + 1
  | _ => 0
/-- The greatest depth of an item. -/
def depthItems : List Written → Nat
  | [] => 0
  | x :: xs => max x.depth (depthItems xs)
/-- The greatest depth of the value of a member. -/
def depthMembers : List (String × Written) → Nat
  | [] => 0
  | (_, x) :: ms => max x.depth (depthMembers ms)
end

mutual
/-- **Makes unreadable what is nested too deep**: arrays and objects inside more than the given number of
others. -/
def limit : Nat → Written → Written
  | 0, array _ => unreadable
  | 0, object _ => unreadable
  | n + 1, array xs => array (limitItems n xs)
  | n + 1, object ms => object (limitMembers n ms)
  | _, w => w
/-- Items with what is nested too deep made unreadable. -/
def limitItems : Nat → List Written → List Written
  | _, [] => []
  | n, x :: xs => limit n x :: limitItems n xs
/-- Members with what is nested too deep made unreadable. -/
def limitMembers : Nat → List (String × Written) → List (String × Written)
  | _, [] => []
  | n, (k, x) :: ms => (k, limit n x) :: limitMembers n ms
end

mutual
/-- What is left after a limit is no deeper than the limit. -/
theorem depth_limit_le : ∀ (n : Nat) (w : Written), (limit n w).depth ≤ n
  | 0, array _ => Nat.le_refl 0
  | 0, object _ => Nat.le_refl 0
  | n + 1, array xs => Nat.succ_le_succ (depthItems_limitItems_le n xs)
  | n + 1, object ms => Nat.succ_le_succ (depthMembers_limitMembers_le n ms)
  | n, null => by cases n <;> exact Nat.zero_le _
  | n, bool _ => by cases n <;> exact Nat.zero_le _
  | n, int _ => by cases n <;> exact Nat.zero_le _
  | n, float _ => by cases n <;> exact Nat.zero_le _
  | n, string _ => by cases n <;> exact Nat.zero_le _
  | n, unreadable => by cases n <;> exact Nat.zero_le _
theorem depthItems_limitItems_le : ∀ (n : Nat) (xs : List Written), depthItems (limitItems n xs) ≤ n
  | _, [] => Nat.zero_le _
  | n, x :: xs => Nat.max_le.2 ⟨depth_limit_le n x, depthItems_limitItems_le n xs⟩
theorem depthMembers_limitMembers_le : ∀ (n : Nat) (ms : List (String × Written)), depthMembers (limitMembers n ms) ≤ n
  | _, [] => Nat.zero_le _
  | n, (_, x) :: ms => Nat.max_le.2 ⟨depth_limit_le n x, depthMembers_limitMembers_le n ms⟩
end

mutual
/-- A limit leaves what is no deeper as it is. -/
theorem limit_of_depth_le : ∀ {n : Nat} {w : Written}, w.depth ≤ n → limit n w = w
  | 0, array _, h => absurd h (Nat.not_succ_le_zero _)
  | 0, object _, h => absurd h (Nat.not_succ_le_zero _)
  | _ + 1, array _, h => congrArg array (limitItems_of_depthItems_le (Nat.le_of_succ_le_succ h))
  | _ + 1, object _, h => congrArg object (limitMembers_of_depthMembers_le (Nat.le_of_succ_le_succ h))
  | n, null, _ => by cases n <;> rfl
  | n, bool _, _ => by cases n <;> rfl
  | n, int _, _ => by cases n <;> rfl
  | n, float _, _ => by cases n <;> rfl
  | n, string _, _ => by cases n <;> rfl
  | n, unreadable, _ => by cases n <;> rfl
theorem limitItems_of_depthItems_le : ∀ {n : Nat} {xs : List Written}, depthItems xs ≤ n → limitItems n xs = xs
  | _, [], _ => rfl
  | _, _ :: _, h => by
    obtain ⟨hx, hxs⟩ := Nat.max_le.1 h
    rw [limitItems, limit_of_depth_le hx, limitItems_of_depthItems_le hxs]
theorem limitMembers_of_depthMembers_le :
    ∀ {n : Nat} {ms : List (String × Written)}, depthMembers ms ≤ n → limitMembers n ms = ms
  | _, [], _ => rfl
  | _, (_, _) :: _, h => by
    obtain ⟨hx, hms⟩ := Nat.max_le.1 h
    rw [limitMembers, limit_of_depth_le hx, limitMembers_of_depthMembers_le hms]
end

end Written

end SchemaSql.Json
