/-!
# Cutting text at a character

A text is cut into pieces at the occurrences of a character, and stays in one piece where it lacks the character.
-/

namespace SchemaSql.Text

/-- **The pieces of a text between the occurrences of a character**, at least one. -/
def pieces (sep : Char) : List Char → List (List Char)
  | [] => [[]]
  | c :: rest =>
    if c = sep then [] :: pieces sep rest
    else match pieces sep rest with
      | p :: ps => (c :: p) :: ps
      | [] => [[c]]

/-- **The text before and after the first occurrence of a character.** -/
def splitOnce (sep : Char) : List Char → Option (List Char × List Char)
  | [] => none
  | c :: rest =>
    if c = sep then some ([], rest) else (splitOnce sep rest).map fun (before, after) => (c :: before, after)

/-- There is at least one piece. -/
theorem pieces_ne_nil (sep : Char) (cs : List Char) : pieces sep cs ≠ [] := by
  cases cs with
  | nil => exact List.cons_ne_nil _ _
  | cons c rest =>
    rw [pieces]
    split
    · exact List.cons_ne_nil _ _
    · split <;> exact List.cons_ne_nil _ _

/-- **The pieces make up the text** with the character between them. -/
theorem intercalate_pieces (sep : Char) (cs : List Char) : [sep].intercalate (pieces sep cs) = cs := by
  induction cs with
  | nil => rfl
  | cons c rest ih =>
    simp only [pieces]
    cases hp : pieces sep rest with
    | nil => exact absurd hp (pieces_ne_nil sep rest)
    | cons p ps =>
      rw [hp] at ih
      split
      · rename_i hc
        rw [hc, ← ih]
        rfl
      · rw [← ih]
        cases ps <;> rfl

/-- The character does not occur in a piece. -/
theorem not_mem_of_mem_pieces {sep : Char} {cs p : List Char} (h : p ∈ pieces sep cs) : sep ∉ p := by
  induction cs generalizing p with
  | nil => simp only [pieces, List.mem_singleton] at h; simp [h]
  | cons c rest ih =>
    simp only [pieces] at h
    split at h
    · rcases List.mem_cons.1 h with rfl | h
      · exact List.not_mem_nil
      · exact ih h
    · rename_i hc
      cases hp : pieces sep rest with
      | nil => exact absurd hp (pieces_ne_nil sep rest)
      | cons q qs =>
        rw [hp] at h ih
        rcases List.mem_cons.1 h with rfl | h
        · intro hm
          rcases List.mem_cons.1 hm with hs | hm
          · exact hc hs.symm
          · exact ih List.mem_cons_self hm
        · exact ih (List.mem_cons_of_mem _ h)

/-- A text without the character is one piece. -/
theorem pieces_of_not_mem {sep : Char} {cs : List Char} (h : sep ∉ cs) : pieces sep cs = [cs] := by
  induction cs with
  | nil => rfl
  | cons c rest ih =>
    rw [List.mem_cons, not_or] at h
    rw [pieces, if_neg (Ne.symm h.1), ih h.2]

/-- **A text is cut at an occurrence** into the pieces before it and those after it. -/
theorem pieces_append (sep : Char) (before after : List Char) :
    pieces sep (before ++ sep :: after) = pieces sep before ++ pieces sep after := by
  induction before with
  | nil => simp only [List.nil_append, pieces, ↓reduceIte, List.cons_append]
  | cons c before ih =>
    rw [List.cons_append, pieces, pieces, ih]
    split
    · rfl
    · cases hp : pieces sep before with
      | nil => exact absurd hp (pieces_ne_nil sep before)
      | cons p ps => rfl

/-- **A text is cut at the first occurrence** of a character. -/
theorem splitOnce_eq_some_iff {sep : Char} {cs before after : List Char} :
    splitOnce sep cs = some (before, after) ↔ cs = before ++ sep :: after ∧ sep ∉ before := by
  induction cs generalizing before with
  | nil => simp [splitOnce]
  | cons c rest ih =>
    by_cases hc : c = sep
    · subst hc
      cases before with
      | nil => simp [splitOnce]
      | cons b before =>
        rw [splitOnce, if_pos rfl]
        constructor
        · intro h
          cases h
        · rintro ⟨h, hm⟩
          exact absurd (List.mem_cons.2 (Or.inl (List.cons.inj h).1)) hm
    · cases before with
      | nil => simp [splitOnce, hc]
      | cons b before =>
        simp only [splitOnce, if_neg hc, Option.map_eq_some_iff, Prod.exists, Prod.mk.injEq, List.cons.injEq,
          List.cons_append, List.mem_cons, not_or]
        constructor
        · rintro ⟨x, y, hxy, ⟨rfl, rfl⟩, rfl⟩
          obtain ⟨rfl, hm⟩ := ih.1 hxy
          exact ⟨⟨rfl, rfl⟩, Ne.symm hc, hm⟩
        · rintro ⟨⟨rfl, rfl⟩, -, hm⟩
          exact ⟨before, after, ih.2 ⟨rfl, hm⟩, ⟨rfl, rfl⟩, rfl⟩

/-- A text without the character is not cut. -/
theorem splitOnce_eq_none_iff {sep : Char} {cs : List Char} : splitOnce sep cs = none ↔ sep ∉ cs := by
  induction cs with
  | nil => simp only [splitOnce, List.not_mem_nil, not_false_eq_true]
  | cons c rest ih =>
    rw [splitOnce, List.mem_cons, not_or, eq_comm (a := sep)]
    split
    · rename_i hc
      simp only [hc, reduceCtorEq, not_true_eq_false, false_and]
    · rename_i hc
      rw [Option.map_eq_none_iff, ih, and_iff_right hc]

/-- **Pieces without the character are found again** in the text that they make up. -/
theorem pieces_intercalate {sep : Char} {ps : List (List Char)} (hne : ps ≠ []) (h : ∀ p ∈ ps, sep ∉ p) :
    pieces sep ([sep].intercalate ps) = ps := by
  induction ps with
  | nil => exact absurd rfl hne
  | cons p ps ih =>
    obtain ⟨hp, hps⟩ := List.forall_mem_cons.1 h
    cases ps with
    | nil => rw [List.intercalate_singleton, pieces_of_not_mem hp]
    | cons q ps =>
      rw [List.intercalate_cons_cons, List.append_assoc, List.singleton_append, pieces_append, pieces_of_not_mem hp,
        ih (List.cons_ne_nil q ps) hps, List.singleton_append]

/-! ## Texts without a character -/

/-- **A text in which a character does not occur.** -/
def Lacks (c : Char) (s : String) : Prop :=
  c ∉ s.toList

instance (c : Char) (s : String) : Decidable (Lacks c s) :=
  inferInstanceAs (Decidable (¬ _))

theorem lacks_append {c : Char} {s t : String} : Lacks c (s ++ t) ↔ Lacks c s ∧ Lacks c t := by
  simp only [Lacks, String.toList_append, List.mem_append, not_or]

/-- A character that is in no text of a list is not in the texts with another one between them. -/
theorem lacks_intercalate {c : Char} {sep : String} (hs : Lacks c sep) {ts : List String} (h : ∀ t ∈ ts, Lacks c t) :
    Lacks c (sep.intercalate ts) := by
  induction ts with
  | nil => exact List.not_mem_nil
  | cons t ts ih =>
    cases ts with
    | nil => exact String.intercalate_singleton ▸ h t List.mem_cons_self
    | cons u ts =>
      have hrest := ih fun v hv => h v (List.mem_cons_of_mem _ hv)
      simp only [String.intercalate_cons_cons, lacks_append, h t List.mem_cons_self, hs, hrest, and_self]

end SchemaSql.Text
