import SchemaSql.Proofs.Json.Literal

/-!
# The text of a value reads back

A value without binary64 numbers is read back from its compact text (`read?_text`), up to the limit on how deep a text
may nest. What the reader counts while it reads is bounded by the length of the text, and in it each item and each
member takes a place of its own.
-/

namespace SchemaSql.Json

/-! ## Values -/

mutual
/-- **No number in a value is a binary64 number**, so that its text says all of it exactly. -/
def Exact : Json → Prop
  | float _ => False
  | array xs => ExactItems xs
  | object ms => ExactMembers ms
  | _ => True
/-- Every item is exact. -/
def ExactItems : List Json → Prop
  | [] => True
  | x :: xs => x.Exact ∧ ExactItems xs
/-- The value of every member is exact. -/
def ExactMembers : List (String × Json) → Prop
  | [] => True
  | (_, v) :: ms => v.Exact ∧ ExactMembers ms
end

theorem exactItems_iff {xs : List Json} : ExactItems xs ↔ ∀ x ∈ xs, x.Exact := by
  induction xs with
  | nil => exact ⟨fun _ _ h => absurd h List.not_mem_nil, fun _ => trivial⟩
  | cons x xs ih => rw [ExactItems, ih, List.forall_mem_cons]

theorem exactMembers_iff {ms : List (String × Json)} : ExactMembers ms ↔ ∀ m ∈ ms, m.2.Exact := by
  induction ms with
  | nil => exact ⟨fun _ _ h => absurd h List.not_mem_nil, fun _ => trivial⟩
  | cons m ms ih =>
    obtain ⟨k, v⟩ := m
    rw [ExactMembers, ih, List.forall_mem_cons]

/-- **A value is read back** from its text by a reader, whatever follows. -/
def ReadBack (read : List Char → Option (Written × List Char)) (j : Json) : Prop :=
  ∀ rest, Ends rest → read (j.render ++ rest) = some (Written.ofJson j, rest)

/-- Text that starts with a token. -/
theorem skipSpace_cons {c : Char} (h : isSpace c = false) (cs : List Char) : skipSpace (c :: cs) = c :: cs := by
  rw [skipSpace, List.dropWhile_cons, if_neg (by rw [h]; exact Bool.false_ne_true)]

/-- An integer starts with a minus sign or a digit, which start nothing else. -/
theorem integerText_head (n : Integer) : ∃ c cs, integerText n = c :: cs ∧ isSpace c = false ∧
    c ∉ ['n', 't', 'f', '"', '[', ']', '\x7b'] := by
  obtain ⟨c, cs, hcs, hc⟩ : ∃ c cs, integerText n = c :: cs ∧ (c == '-' || c.isDigit) = true := by
    unfold integerText
    split
    · exact ⟨_, _, rfl, rfl⟩
    · obtain ⟨c, cs, hcs⟩ := List.exists_cons_of_ne_nil (Decimal.digits_ne_nil n.val.natAbs)
      have hdigit : c.isDigit = true := Decimal.isDigit_of_mem_digits (hcs ▸ List.mem_cons_self)
      exact ⟨c, cs, hcs, by rw [hdigit, Bool.or_true]⟩
  have hnone : ([' ', '\n', '\r', '\t'] ++ ['n', 't', 'f', '"', '[', ']', '\x7b']).all
      (fun c => !(c == '-' || c.isDigit)) = true := by decide
  have hnot : c ∉ [' ', '\n', '\r', '\t'] ++ ['n', 't', 'f', '"', '[', ']', '\x7b'] := by
    intro hmem
    have hother := List.all_eq_true.1 hnone c hmem
    rw [hc] at hother
    cases hother
  rw [List.mem_append, not_or] at hnot
  obtain ⟨hblank, htoken⟩ := hnot
  simp only [List.mem_cons, List.not_mem_nil, or_false, not_or] at hblank
  exact ⟨c, cs, hcs, by simp only [isSpace, hblank, decide_false, Bool.or_self], htoken⟩

/-- The text of a value starts with a token that ends no array. -/
theorem render_head {j : Json} (h : j.Exact) :
    ∃ c cs, j.render = c :: cs ∧ isSpace c = false ∧ c ≠ ']' := by
  cases j with
  | null => exact ⟨_, _, rfl, by decide, by decide⟩
  | bool b => cases b <;> exact ⟨_, _, rfl, by decide, by decide⟩
  | float x => exact h.elim
  | string s => exact ⟨_, _, rfl, by decide, by decide⟩
  | array xs => cases xs <;> exact ⟨_, _, rfl, by decide, by decide⟩
  | object ms => cases ms <;> exact ⟨_, _, rfl, by decide, by decide⟩
  | int n =>
    obtain ⟨c, cs, hcs, hspace, hnot⟩ := integerText_head n
    exact ⟨c, cs, hcs, hspace, fun hend => absurd (by rw [hend]; decide) hnot⟩

/-! ### Items and members -/

variable {read : List Char → Option (Written × List Char)}

/-- **Items are read back** if each of them is. -/
theorem items_render {xs : List Json} {x : Json} (h : ∀ y ∈ x :: xs, ReadBack read y) {steps : Nat}
    (hsteps : xs.length < steps) (rest : List Char) :
    items read steps (x.render ++ (renderItems xs ++ rest)) = some (Written.ofItems (x :: xs), rest) := by
  induction xs generalizing x steps with
  | nil =>
    obtain ⟨steps, rfl⟩ := Nat.exists_eq_succ_of_ne_zero (Nat.ne_of_gt hsteps)
    have hx := h x List.mem_cons_self (']' :: rest) (ends_cons (by decide))
    rw [renderItems, List.cons_append, List.nil_append, items, hx]
    rfl
  | cons y ys ih =>
    obtain ⟨steps, rfl⟩ := Nat.exists_eq_succ_of_ne_zero (Nat.ne_of_gt (Nat.zero_lt_of_lt hsteps))
    obtain ⟨hx, hys⟩ := List.forall_mem_cons.1 h
    have hrest := ih hys (Nat.lt_of_succ_lt_succ hsteps)
    have hcomma : skipSpace (',' :: (y.render ++ (renderItems ys ++ rest))) = _ := skipSpace_cons (by decide) _
    rw [renderItems, List.cons_append, List.append_assoc, items, hx _ (ends_cons (by decide))]
    simp only [hcomma, hrest, Option.map_some, Written.ofItems]

/-- Members as a reader finds them. -/
def foundMembers (ms : List (String × Json)) : List (Option String × Written) :=
  ms.map fun m => (some m.1, Written.ofJson m.2)

theorem objectOf_foundMembers (ms : List (String × Json)) : objectOf (foundMembers ms) = Written.ofJson (.object ms) := by
  have hkeyed : keyed? (foundMembers ms) = some (Written.ofMembers ms) := by
    induction ms with
    | nil => rfl
    | cons m ms ih =>
      rw [keyed?] at ih
      rw [keyed?, foundMembers, List.map_cons, List.mapM_cons, ← foundMembers, ih]
      rfl
  rw [objectOf, hkeyed, Written.ofJson]

theorem member_render {k : String} {v : Json} (h : ReadBack read v) {rest : List Char} (hrest : Ends rest) :
    member read (quote k.toList ++ ':' :: (v.render ++ rest)) = some ((some k, Written.ofJson v), rest) := by
  have hcolon : skipSpace (':' :: (v.render ++ rest)) = _ := skipSpace_cons (by decide) _
  rw [member, quote, List.cons_append, List.cons_append, skipSpace_cons (by decide), List.append_assoc,
    List.singleton_append]
  simp only [stringBody_quote, hcolon, h rest hrest, Option.map_some]

/-- **Members are read back** if the value of each of them is. -/
theorem members_render {ms : List (String × Json)} {m : String × Json} (h : ∀ y ∈ m :: ms, ReadBack read y.2)
    {steps : Nat} (hsteps : ms.length < steps) (rest : List Char) :
    members read steps (quote m.1.toList ++ ':' :: (m.2.render ++ (renderMembers ms ++ rest))) =
      some (foundMembers (m :: ms), rest) := by
  induction ms generalizing m steps with
  | nil =>
    obtain ⟨steps, rfl⟩ := Nat.exists_eq_succ_of_ne_zero (Nat.ne_of_gt hsteps)
    have hm := h m List.mem_cons_self
    rw [renderMembers, List.cons_append, List.nil_append, members, member_render hm (ends_cons (by decide))]
    rfl
  | cons y ys ih =>
    obtain ⟨steps, rfl⟩ := Nat.exists_eq_succ_of_ne_zero (Nat.ne_of_gt (Nat.zero_lt_of_lt hsteps))
    obtain ⟨hm, hys⟩ := List.forall_mem_cons.1 h
    have hrest := ih hys (Nat.lt_of_succ_lt_succ hsteps)
    obtain ⟨k, v⟩ := y
    have hcomma : skipSpace (',' :: (quote k.toList ++ ':' :: (v.render ++ (renderMembers ys ++ rest)))) = _ :=
      skipSpace_cons (by decide) _
    rw [renderMembers, List.cons_append, List.append_assoc, List.cons_append, List.append_assoc, members,
      member_render hm (ends_cons (by decide))]
    simp only [hcomma, hrest, Option.map_some, foundMembers, List.map_cons]

/-! ### Whole values -/

/-- Each item takes its place in the text of all, and a comma. -/
theorem renderItems_bounds (xs : List Json) :
    xs.length < (renderItems xs).length ∧ ∀ x ∈ xs, x.render.length < (renderItems xs).length := by
  induction xs with
  | nil => exact ⟨Nat.zero_lt_one, fun _ hx => absurd hx List.not_mem_nil⟩
  | cons y ys ih =>
    obtain ⟨hlength, hall⟩ := ih
    rw [renderItems, List.length_cons, List.length_cons, List.length_append]
    refine ⟨by omega, fun x hx => ?_⟩
    rcases List.mem_cons.1 hx with rfl | hx
    · omega
    · have := hall x hx
      omega

/-- Each member takes its place in the text of all, and a comma. -/
theorem renderMembers_bounds (ms : List (String × Json)) :
    ms.length < (renderMembers ms).length ∧ ∀ m ∈ ms, m.2.render.length < (renderMembers ms).length := by
  induction ms with
  | nil => exact ⟨Nat.zero_lt_one, fun _ hm => absurd hm List.not_mem_nil⟩
  | cons y ys ih =>
    obtain ⟨hlength, hall⟩ := ih
    obtain ⟨k, v⟩ := y
    simp only [renderMembers, List.length_cons, List.length_append]
    refine ⟨by omega, fun m hm => ?_⟩
    rcases List.mem_cons.1 hm with rfl | hm
    · dsimp only
      omega
    · have := hall m hm
      omega

theorem array_bounds (xs : List Json) :
    xs.length ≤ (array xs).render.length ∧ ∀ x ∈ xs, x.render.length < (array xs).render.length := by
  cases xs with
  | nil => exact ⟨Nat.zero_le _, fun _ hx => absurd hx List.not_mem_nil⟩
  | cons x xs =>
    obtain ⟨hlength, hall⟩ := renderItems_bounds xs
    rw [render, List.length_cons, List.length_cons, List.length_append]
    refine ⟨by omega, List.forall_mem_cons.2 ⟨by omega, fun y hy => ?_⟩⟩
    have := hall y hy
    omega

theorem object_bounds (ms : List (String × Json)) :
    ms.length ≤ (object ms).render.length ∧ ∀ m ∈ ms, m.2.render.length < (object ms).render.length := by
  cases ms with
  | nil => exact ⟨Nat.zero_le _, fun _ hm => absurd hm List.not_mem_nil⟩
  | cons m ms =>
    obtain ⟨k, v⟩ := m
    obtain ⟨hlength, hall⟩ := renderMembers_bounds ms
    simp only [render, List.length_cons, List.length_append]
    refine ⟨by omega, List.forall_mem_cons.2 ⟨by dsimp only; omega, fun y hy => ?_⟩⟩
    have := hall y hy
    omega

variable {steps openings : Nat}

/-- An array is what its items are. -/
theorem arrayBody_of_items {c : Char} {cs rest : List Char} {ws : List Written} (hspace : isSpace c = false)
    (hend : c ≠ ']') (h : items read steps (c :: cs) = some (ws, rest)) :
    arrayBody read steps (c :: cs) = some (.array ws, rest) := by
  rw [arrayBody, skipSpace_cons hspace]
  split
  · rename_i heq
    exact absurd (List.cons.inj heq).1 hend
  · rw [h]
    rfl

/-- An object is what its members are. -/
theorem objectBody_of_members {cs rest : List Char} {ms : List (Option String × Written)}
    (h : members read steps ('"' :: cs) = some (ms, rest)) :
    objectBody read steps ('"' :: cs) = some (objectOf ms, rest) := by
  rw [objectBody, skipSpace_cons (by decide), h]
  rfl

/-- **An array is read back** if its items are. -/
theorem readBack_array {xs : List Json} (hexact : ExactItems xs) (h : ∀ x ∈ xs, ReadBack (value steps openings) x)
    (hsteps : xs.length ≤ steps) : ReadBack (value steps (openings + 1)) (.array xs) := by
  intro rest _
  cases xs with
  | nil => rfl
  | cons x xs =>
    obtain ⟨c, cs, hcs, hspace, hend⟩ := render_head hexact.1
    have hread := items_render h hsteps rest
    have hopen (body : List Char) : value steps (openings + 1) ('[' :: body) =
        arrayBody (value steps openings) steps body := rfl
    rw [hcs, List.cons_append] at hread
    rw [render, List.cons_append, List.append_assoc, hopen, hcs, List.cons_append,
      arrayBody_of_items hspace hend hread, Written.ofJson]

/-- **An object is read back** if the values of its members are. -/
theorem readBack_object {ms : List (String × Json)} (h : ∀ m ∈ ms, ReadBack (value steps openings) m.2)
    (hsteps : ms.length ≤ steps) : ReadBack (value steps (openings + 1)) (.object ms) := by
  intro rest _
  cases ms with
  | nil => rfl
  | cons m ms =>
    obtain ⟨k, v⟩ := m
    have hread := members_render h hsteps rest
    have hopen (body : List Char) : value steps (openings + 1) ('\x7b' :: body) =
        objectBody (value steps openings) steps body := rfl
    rw [quote, List.cons_append, List.cons_append] at hread
    rw [render, List.cons_append, List.append_assoc, List.cons_append, List.append_assoc, hopen, quote,
      List.cons_append, List.cons_append, objectBody_of_members hread, objectOf_foundMembers]

/-- **A string is read back** where a value may stand. -/
theorem readBack_string (s : String) : ReadBack (value steps (openings + 1)) (.string s) := by
  intro rest _
  have hopen (cs : List Char) : value steps (openings + 1) ('"' :: cs) = scalar ('"' :: cs) := rfl
  rw [render, quote, List.cons_append, List.cons_append, List.append_assoc, List.singleton_append, hopen, scalar,
    stringBody_quote]
  rfl

/-- **An integer is read back** where a value may stand. -/
theorem readBack_int (n : Integer) : ReadBack (value steps (openings + 1)) (.int n) := by
  intro rest hrest
  obtain ⟨c, cs, hcs, hspace, hnot⟩ := integerText_head n
  have hnumber := number_integerText n hrest
  rw [render, Written.ofJson]
  rw [hcs, List.cons_append] at hnumber ⊢
  have hvalue : value steps (openings + 1) (c :: (cs ++ rest)) = scalar (c :: (cs ++ rest)) := by
    unfold value
    rw [skipSpace_cons hspace]
    split
    · rename_i heq
      exact absurd (by rw [(List.cons.inj heq).1]; decide) hnot
    · rename_i heq
      exact absurd (by rw [(List.cons.inj heq).1]; decide) hnot
    · rfl
  rw [hvalue, scalar, hnumber]
  all_goals
    intro _ heq
    exact absurd (by rw [(List.cons.inj heq).1]; decide) hnot

/-- **A value is read back** from its text, whose length bounds what is opened and counted while reading. The induction
is on the arrays and objects that may still be opened. -/
theorem readBack_value {j : Json} (h : j.Exact) (hopenings : j.render.length ≤ openings)
    (hsteps : j.render.length ≤ steps) : ReadBack (value steps openings) j := by
  induction openings generalizing j with
  | zero =>
    obtain ⟨c, cs, hcs, -, -⟩ := render_head h
    rw [hcs] at hopenings
    cases hopenings
  | succ openings ih =>
    cases j with
    | null => exact fun _ _ => rfl
    | bool b => cases b <;> exact fun _ _ => rfl
    | float x => exact h.elim
    | int n => exact readBack_int n
    | string s => exact readBack_string s
    | array xs =>
      obtain ⟨hcount, hshorter⟩ := array_bounds xs
      refine readBack_array h (fun x hx => ?_) (Nat.le_trans hcount hsteps)
      have hlength := hshorter x hx
      exact ih (exactItems_iff.1 h x hx) (by omega) (by omega)
    | object ms =>
      obtain ⟨hcount, hshorter⟩ := object_bounds ms
      refine readBack_object (fun m hm => ?_) (Nat.le_trans hcount hsteps)
      have hlength := hshorter m hm
      exact ih (exactMembers_iff.1 h m hm) (by omega) (by omega)

/-- **The text of an exact value says what the value is written as**, up to what is nested too deep. -/
theorem read?_text {j : Json} (h : j.Exact) :
    Written.read? j.text = some ((Written.ofJson j).limit maxDepth) := by
  have hback : ReadBack (value j.render.length j.render.length) j := readBack_value h (Nat.le_refl _) (Nat.le_refl _)
  have hread := hback [] ends_nil
  rw [List.append_nil] at hread
  rw [Written.read?, text, String.toList_ofList, hread]
  rfl

end SchemaSql.Json
