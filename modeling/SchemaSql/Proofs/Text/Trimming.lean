import Mathlib.Data.List.Basic
import Mathlib.Data.List.TakeWhile
import SchemaSql.Text.Blank

/-!
# Texts between blanks

Trimming undoes the addition of blanks at either end of a text that has none there itself (`Text.trim_eq_iff`): what is
left is bare, and every text is its bare part between blanks.
-/

namespace SchemaSql.Text

/-- **A text of blanks.** -/
def Blank (cs : List Char) : Prop :=
  ∀ c ∈ cs, isBlank c = true

/-- **A text with no blank at either end.** -/
structure Bare (cs : List Char) : Prop where
  head : ∀ c ∈ cs.head?, isBlank c = false
  last : ∀ c ∈ cs.getLast?, isBlank c = false

instance (cs : List Char) : Decidable (Blank cs) :=
  decidable_of_iff (cs.all isBlank = true) List.all_eq_true

theorem bare_iff {cs : List Char} : cs.head?.any isBlank = false ∧ cs.getLast?.any isBlank = false ↔ Bare cs := by
  rw [Option.any_eq_false, Option.any_eq_false]
  exact ⟨fun h => ⟨h.1, h.2⟩, fun h => ⟨h.head, h.last⟩⟩

instance (cs : List Char) : Decidable (Bare cs) :=
  decidable_of_iff _ bare_iff

variable {b b' cs ds : List Char}

/-! ## Characters that are no blanks -/

/-- No visible character of ASCII is a blank. -/
theorem isBlank_eq_false {c : Char} (hlow : 0x21 ≤ c.toNat) (hhigh : c.toNat ≤ 0x7E) : isBlank c = false := by
  simp only [isBlank, Bool.or_eq_false_iff, Bool.and_eq_false_iff, decide_eq_false_iff_not, beq_eq_false_iff_ne]
  omega

/-- What lies between two visible characters of ASCII is none either. -/
theorem isBlank_of_between {first last c : Char} (h : first.val ≤ c.val ∧ c.val ≤ last.val)
    (hfirst : 0x21 ≤ first.toNat) (hlast : last.toNat ≤ 0x7E) : isBlank c = false :=
  isBlank_eq_false (Nat.le_trans hfirst (UInt32.le_iff_toNat_le.1 h.1))
    (Nat.le_trans (UInt32.le_iff_toNat_le.1 h.2) hlast)

theorem isBlank_of_isDigit {c : Char} (h : c.isDigit = true) : isBlank c = false := by
  obtain ⟨hlow, hhigh⟩ := Bool.and_eq_true_iff.1 h
  exact isBlank_of_between ⟨of_decide_eq_true hlow, of_decide_eq_true hhigh⟩ (by decide) (by decide)

theorem isBlank_of_isAlphanum {c : Char} (h : c.isAlphanum = true) : isBlank c = false := by
  rcases Bool.or_eq_true_iff.1 h with hletter | hdigit
  · rcases Bool.or_eq_true_iff.1 hletter with hupper | hlower
    · exact isBlank_of_between (of_decide_eq_true hupper) (by decide) (by decide)
    · obtain ⟨hlow, hhigh⟩ := Bool.and_eq_true_iff.1 hlower
      exact isBlank_of_between ⟨of_decide_eq_true hlow, of_decide_eq_true hhigh⟩ (by decide) (by decide)
  · exact isBlank_of_isDigit hdigit

/-! ## Blanks -/

theorem blank_nil : Blank [] := fun _ hc => absurd hc List.not_mem_nil

theorem Blank.reverse (h : Blank b) : Blank b.reverse :=
  fun c hc => h c (List.mem_reverse.1 hc)

theorem Blank.append (hb : Blank b) (hb' : Blank b') : Blank (b ++ b') :=
  List.forall_mem_append.2 ⟨hb, hb'⟩

/-- Blanks hold no other character. -/
theorem Blank.not_mem (h : Blank b) {c : Char} (hc : isBlank c = false) : c ∉ b :=
  fun hmem => Bool.false_ne_true (hc.symm.trans (h c hmem))

theorem blank_takeWhile (cs : List Char) : Blank (cs.takeWhile isBlank) :=
  fun _ hc => List.mem_takeWhile_imp hc

/-! ## Bare texts -/

theorem Bare.reverse (h : Bare cs) : Bare cs.reverse :=
  ⟨List.head?_reverse ▸ h.last, List.getLast?_reverse ▸ h.head⟩

/-- A text that starts and ends with bare texts is bare. -/
theorem Bare.append_of_ne_nil (hc : Bare cs) (hcs : cs ≠ []) (hd : Bare ds) (hds : ds ≠ []) (between : List Char) :
    Bare (cs ++ between ++ ds) := by
  constructor
  · rw [List.append_assoc, List.head?_append_of_ne_nil _ hcs]
    exact hc.head
  · rw [List.getLast?_append_of_ne_nil _ hds]
    exact hd.last

/-- A text without blanks is bare. -/
theorem bare_of_all (h : ∀ c ∈ cs, isBlank c = false) : Bare cs :=
  ⟨fun c hc => h c (List.mem_of_head? hc), fun c hc => h c (List.mem_of_getLast? hc)⟩

/-! ## Trimming -/

theorem dropBlanks_cons {c : Char} (h : isBlank c = false) (rest : List Char) : dropBlanks (c :: rest) = c :: rest := by
  rw [dropBlanks, List.dropWhile_cons, h, if_neg Bool.false_ne_true]

theorem dropBlanks_append (hb : Blank b) (cs : List Char) : dropBlanks (b ++ cs) = dropBlanks cs :=
  List.dropWhile_append_of_pos hb

theorem dropBlanks_eq_self (h : ∀ c ∈ cs.head?, isBlank c = false) : dropBlanks cs = cs := by
  cases cs with
  | nil => rfl
  | cons c cs => exact dropBlanks_cons (h c rfl) cs

theorem head?_dropBlanks (cs : List Char) : ∀ c ∈ (dropBlanks cs).head?, isBlank c = false := by
  intro c hc
  obtain ⟨rest, hrest⟩ := List.head?_eq_some_iff.1 hc
  exact dropBlanks_head hrest

/-- A text is what is left of it behind blanks. -/
theorem exists_blank_dropBlanks (cs : List Char) : ∃ b, Blank b ∧ cs = b ++ dropBlanks cs :=
  ⟨cs.takeWhile isBlank, blank_takeWhile cs, (List.takeWhile_append_dropWhile).symm⟩

/-- **What is left of a text** is its only bare part between blanks. -/
theorem trim_eq_iff : trim cs = ds ↔ Bare ds ∧ ∃ b b', Blank b ∧ Blank b' ∧ cs = b ++ ds ++ b' := by
  constructor
  · rintro rfl
    obtain ⟨b, hb, hcs⟩ := exists_blank_dropBlanks cs
    obtain ⟨b', hb', hrest⟩ := exists_blank_dropBlanks (dropBlanks cs).reverse
    have hrest : dropBlanks cs = trim cs ++ b'.reverse := by
      rw [trim, ← List.reverse_append, ← hrest, List.reverse_reverse]
    refine ⟨⟨fun c hc => head?_dropBlanks cs c ?_, ?_⟩, b, b'.reverse, hb, hb'.reverse, ?_⟩
    · rw [hrest]
      exact List.mem_head?_append_of_mem_head? hc
    · rw [trim, List.getLast?_reverse]
      exact head?_dropBlanks _
    · rw [List.append_assoc, ← hrest]
      exact hcs
  · rintro ⟨hds, b, b', hb, hb', rfl⟩
    have hfront : dropBlanks (b ++ ds ++ b') = dropBlanks (ds ++ b') := by rw [List.append_assoc, dropBlanks_append hb]
    cases ds with
    | nil =>
      have hnil : dropBlanks b' = [] := by
        rw [← List.append_nil b', dropBlanks_append hb']
        rfl
      rw [trim, hfront, List.nil_append, hnil]
      rfl
    | cons c rest =>
      have hkeep : dropBlanks (c :: rest ++ b') = c :: rest ++ b' := dropBlanks_cons (hds.head c rfl) _
      rw [trim, hfront, hkeep, List.reverse_append, dropBlanks_append hb'.reverse, dropBlanks_eq_self hds.reverse.head,
        List.reverse_reverse]

theorem trim_padded (hb : Blank b) (hds : Bare ds) (hb' : Blank b') : trim (b ++ ds ++ b') = ds :=
  trim_eq_iff.2 ⟨hds, b, b', hb, hb', rfl⟩

/-- Nothing is left of blanks, and of nothing else. -/
theorem trim_eq_nil_iff : trim cs = [] ↔ Blank cs := by
  constructor
  · intro h
    obtain ⟨-, b, b', hb, hb', rfl⟩ := trim_eq_iff.1 h
    rw [List.append_nil]
    exact hb.append hb'
  · intro h
    refine trim_eq_iff.2 ⟨bare_of_all nofun, cs, [], h, blank_nil, ?_⟩
    rw [List.append_nil, List.append_nil]

/-- Trimming takes nothing but blanks away. -/
theorem mem_trim_iff {c : Char} (hc : isBlank c = false) : c ∈ trim cs ↔ c ∈ cs := by
  refine ⟨mem_of_mem_trim, fun h => ?_⟩
  obtain ⟨-, b, b', hb, hb', hcs⟩ := trim_eq_iff.1 (rfl : trim cs = trim cs)
  rw [hcs] at h
  simpa only [List.mem_append, hb.not_mem hc, hb'.not_mem hc, false_or, or_false] using h

end SchemaSql.Text
