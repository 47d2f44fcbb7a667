import SchemaSql.Text.CaseMap

/-!
# Cases of text

In ASCII the mappings of case work character by character, and going to the upper form loses nothing where no capital
stands (`upper_inj`). A few characters outside of ASCII have capitals of ASCII for their upper form; `spelled` writes
them with the small letters of these, which makes no difference in upper case (`upper_spelled`). Text in lower case has no capital
of ASCII, whatever it was made of (`not_isUpper_of_mem_lower`): of the characters outside of ASCII none has one in its
lower form.
-/

namespace SchemaSql.Text

/-- **Text in ASCII.** -/
def Ascii (cs : List Char) : Prop :=
  ∀ c ∈ cs, c.toNat < 0x80

/-- What holds of the first 128 characters holds of each in ASCII. -/
theorem forall_of_ascii {p : Char → Prop} (h : ∀ n : Fin 0x80, p (Char.ofNat n)) {c : Char} (hc : c.toNat < 0x80) :
    p c := by
  rw [← Char.ofNat_toNat c]
  exact h ⟨c.toNat, hc⟩

theorem CaseRun.bounds_of_covers {r : CaseRun} {n : Nat} (h : r.covers n = true) : r.first ≤ n ∧ n ≤ r.last := by
  simp only [CaseRun.covers, Bool.and_eq_true, decide_eq_true_eq] at h
  exact h.1

/-! ## Upper case -/

theorem upper_of_ascii {cs : List Char} (h : Ascii cs) : upper cs = cs.map Char.toUpper := by
  induction cs with
  | nil => rfl
  | cons c cs ih =>
    obtain ⟨hc, hcs⟩ := List.forall_mem_cons.1 h
    rw [upper, List.flatMap_cons, upperChar, if_pos hc, List.map_cons, ← ih hcs]
    rfl

/-- A character that is no capital is the lower form of its upper form. -/
theorem toLower_toUpper {c : Char} (hc : c.toNat < 0x80) : c.isUpper = false → c.toUpper.toLower = c :=
  forall_of_ascii (p := fun c => c.isUpper = false → c.toUpper.toLower = c) (by decide) hc

/-- **Nothing is lost in upper case** where no capital stands. -/
theorem upper_inj {as bs : List Char} (has : Ascii as) (hbs : Ascii bs) (ha : ∀ c ∈ as, c.isUpper = false)
    (hb : ∀ c ∈ bs, c.isUpper = false) : upper as = upper bs ↔ as = bs := by
  have hback : ∀ {cs : List Char}, Ascii cs → (∀ c ∈ cs, c.isUpper = false) →
      (cs.map Char.toUpper).map Char.toLower = cs := by
    intro cs hcs hlow
    rw [List.map_map]
    exact (List.map_congr_left fun c hc => toLower_toUpper (hcs c hc) (hlow c hc)).trans (List.map_id cs)
  refine ⟨fun h => ?_, congrArg upper⟩
  rw [upper_of_ascii has, upper_of_ascii hbs] at h
  rw [← hback has ha, h, hback hbs hb]

/-! ## Letters that become letters of ASCII -/

/-- **The characters outside of ASCII with an upper form in ASCII**, each with small letters that have the same one. -/
def asciiSpellings : List (Char × List Char) :=
  [('ß', ['s', 's']), ('ı', ['i']), ('ſ', ['s']), ('ﬀ', ['f', 'f']), ('ﬁ', ['f', 'i']), ('ﬂ', ['f', 'l']),
   ('ﬃ', ['f', 'f', 'i']), ('ﬄ', ['f', 'f', 'l']), ('ﬅ', ['s', 't']), ('ﬆ', ['s', 't'])]

/-- The letters that a character is spelled with. -/
def spelledChar (c : Char) : List Char :=
  (asciiSpellings.lookup c).getD [c]

/-- **A text with the small letters of ASCII** for the characters that have none in upper case. -/
def spelled (cs : List Char) : List Char :=
  cs.flatMap spelledChar

theorem mem_of_lookup_asciiSpellings {c : Char} {ds : List Char} (h : asciiSpellings.lookup c = some ds) :
    (c, ds) ∈ asciiSpellings := by
  obtain ⟨before, after, hspellings, -⟩ := List.lookup_eq_some_iff.1 h
  exact hspellings ▸ List.mem_append_right _ List.mem_cons_self

theorem upper_asciiSpellings : ∀ e ∈ asciiSpellings, upper e.2 = upperChar e.1 := by
  decide +kernel

theorem small_asciiSpellings :
    asciiSpellings.all (fun e => e.2.all fun c => !c.isUpper && c.toNat < 0x80) = true := by
  decide

/-- **Spelling makes no difference in upper case.** -/
theorem upper_spelled (cs : List Char) : upper (spelled cs) = upper cs := by
  have hchar (c : Char) : (spelledChar c).flatMap upperChar = upperChar c := by
    cases h : asciiSpellings.lookup c with
    | none => rw [spelledChar, h, Option.getD_none, List.flatMap_singleton]
    | some ds =>
      rw [spelledChar, h]
      exact upper_asciiSpellings _ (mem_of_lookup_asciiSpellings h)
  rw [upper, spelled, List.flatMap_assoc, upper]
  exact congrArg cs.flatMap (funext hchar)

/-- What a text is spelled with: small letters, and characters of the text that are not spelled otherwise. -/
theorem mem_spelled {cs : List Char} {c : Char} (h : c ∈ spelled cs) :
    c.isUpper = false ∧ c.toNat < 0x80 ∨ c ∈ cs ∧ asciiSpellings.lookup c = none := by
  obtain ⟨d, hd, hc⟩ := List.mem_flatMap.1 h
  cases hspelling : asciiSpellings.lookup d with
  | none =>
    rw [spelledChar, hspelling, Option.getD_none, List.mem_singleton] at hc
    exact .inr ⟨hc ▸ hd, hc ▸ hspelling⟩
  | some ds =>
    rw [spelledChar, hspelling] at hc
    have hsmall := List.all_eq_true.1 small_asciiSpellings _ (mem_of_lookup_asciiSpellings hspelling)
    have hletter := List.all_eq_true.1 hsmall c hc
    rw [Bool.and_eq_true, Bool.not_eq_true', decide_eq_true_iff] at hletter
    exact .inl hletter

theorem spelled_of_ascii {cs : List Char} (h : Ascii cs) : spelled cs = cs := by
  have hnone : ∀ {c : Char}, c.toNat < 0x80 → spelledChar c = [c] :=
    forall_of_ascii (p := fun c => spelledChar c = [c]) (by decide)
  induction cs with
  | nil => rfl
  | cons c cs ih =>
    obtain ⟨hc, hcs⟩ := List.forall_mem_cons.1 h
    rw [spelled, List.flatMap_cons, hnone hc]
    exact congrArg (c :: ·) (ih hcs)

/-- No other run leads to ASCII from without. -/
theorem le_of_mem_upperRuns : ∀ r ∈ upperRuns, r.last < 0x80 ∨ 0x80 ≤ (r.first + r.shift).toNat ∨
    r.first = r.last ∧ (asciiSpellings.lookup (Char.ofNat r.first)).isSome = true := by
  decide +kernel

theorem le_of_mem_upperSequences : ∀ e ∈ upperSequences, (∃ n ∈ e.2, 0x80 ≤ n) ∨
    (asciiSpellings.lookup (Char.ofNat e.1)).isSome = true := by
  decide +kernel

/-! ## Lower case -/

theorem lowerAfter_of_ascii {cs : List Char} (h : Ascii cs) (before : List Char) :
    lowerAfter before cs = cs.map Char.toLower := by
  induction cs generalizing before with
  | nil => rfl
  | cons c cs ih =>
    obtain ⟨hc, hcs⟩ := List.forall_mem_cons.1 h
    have hsigma : c ≠ 'Σ' := fun h => absurd (h ▸ hc) (by decide)
    rw [lowerAfter, if_neg hsigma, lowerChar, if_pos hc, ih hcs, List.map_cons]
    rfl

theorem lower_of_ascii {cs : List Char} (h : Ascii cs) : lower cs = cs.map Char.toLower :=
  lowerAfter_of_ascii h []

/-- The capitals of ASCII end at `Z`. -/
theorem not_isUpper_of_lt {c : Char} (h : 0x5A < c.toNat) : c.isUpper = false := by
  have hbehind : ¬ ('A'.val ≤ c.val ∧ c.val ≤ 'Z'.val) := fun hc =>
    Nat.not_le.2 h (UInt32.le_iff_toNat_le.1 hc.2)
  exact decide_eq_false hbehind

theorem not_isUpper_ofNat {n : Nat} (h : 0x5A < n) : (Char.ofNat n).isUpper = false := by
  by_cases hn : n.isValidChar
  · rw [Char.ofNat, dif_pos hn]
    exact not_isUpper_of_lt h
  · rw [Char.ofNat, dif_neg hn]
    rfl

/-- No run leads to a capital of ASCII. -/
theorem lt_of_mem_lowerRuns : ∀ r ∈ lowerRuns, 0x5A < (r.first + r.shift).toNat := by
  decide +kernel

theorem lt_of_mem_lowerSequences : ∀ e ∈ lowerSequences, ∀ n ∈ e.2, 0x5A < n := by
  decide

theorem not_isUpper_of_mem_lowerChar {c x : Char} (h : x ∈ lowerChar c) : x.isUpper = false := by
  unfold lowerChar at h
  split at h
  · rename_i hc
    rw [List.mem_singleton.1 h]
    exact forall_of_ascii (p := fun c => c.toLower.isUpper = false) (by decide) hc
  · rename_i hc
    unfold mapChar at h
    split at h
    · rename_i ns hns
      obtain ⟨n, hn, rfl⟩ := List.mem_map.1 h
      obtain ⟨before, after, hsequences, -⟩ := List.lookup_eq_some_iff.1 hns
      have hmem : (c.toNat, ns) ∈ lowerSequences := hsequences ▸ List.mem_append_right _ List.mem_cons_self
      exact not_isUpper_ofNat (lt_of_mem_lowerSequences _ hmem n hn)
    · split at h
      · rename_i r hr
        have hcovers := List.find?_some hr
        have hfirst := (CaseRun.bounds_of_covers hcovers).1
        have hbound := lt_of_mem_lowerRuns r (List.mem_of_find?_eq_some hr)
        rw [List.mem_singleton.1 h]
        exact not_isUpper_ofNat (by omega)
      · rw [List.mem_singleton.1 h]
        exact not_isUpper_of_lt (by omega)

/-- **Text in lower case has no capital of ASCII.** -/
theorem not_isUpper_of_mem_lower {cs : List Char} {x : Char} (h : x ∈ lower cs) : x.isUpper = false := by
  have hafter : ∀ (cs before : List Char), x ∈ lowerAfter before cs → x.isUpper = false := by
    intro cs
    induction cs with
    | nil => exact fun _ h => absurd h List.not_mem_nil
    | cons c cs ih =>
      intro before h
      rcases List.mem_append.1 h with h | h
      · -- a capital sigma becomes one of the two small ones
        split at h
        · split at h
          · rw [List.mem_singleton.1 h]; decide
          · rw [List.mem_singleton.1 h]; decide
        · exact not_isUpper_of_mem_lowerChar h
      · exact ih _ h
  exact hafter cs [] h

end SchemaSql.Text
