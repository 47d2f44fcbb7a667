import SchemaSql.Json.Parser
import SchemaSql.Json.Printer

/-!
# The text of strings and integers reads back

A string literal is read part by part: each character is written as one part, and the part stands for the character
(`exists_standsFor`). An integer is read from its digits, whatever ends it behind them.
-/

namespace SchemaSql.Json

/-! ## Strings -/

/-- The hexadecimal digits of a control character. -/
theorem codeUnit?_hexDigit : ∀ n < 0x20, codeUnit? '0' '0' (hexDigit (n / 16)) (hexDigit (n % 16)) = some n := by
  decide

/-- **A part of a string literal stands for a character**: it is what the escaped form of the character is read as, and
the character is what it is joined to. -/
structure StringPart.StandsFor (p : StringPart) (c : Char) : Prop where
  read : ∀ rest, stringParts (escapeChar c ++ rest) = (stringParts rest).map fun (ps, rest) => (p :: ps, rest)
  joined : ∀ ps, joinUnits (p :: ps) = (joinUnits ps).map (c :: ·)

/-- A character that has an escape of its own. -/
theorem standsFor_short {e c : Char} (hread : shortEscape? e = some c) (hwrite : escapeChar c = ['\\', e]) :
    (StringPart.char c).StandsFor c := by
  refine ⟨fun rest => ?_, fun ps => by rw [joinUnits]⟩
  have hu : e ≠ 'u' := by
    rintro rfl
    cases hread
  rw [hwrite, List.cons_append, List.cons_append, List.nil_append, stringParts, hread]
  · cases stringParts rest <;> rfl
  · rintro a b c d rest rfl
    exact fun _ => hu rfl

/-- A control character that has none. -/
theorem standsFor_control {c : Char} (hc : c.toNat < 0x20)
    (hwrite : escapeChar c = ['\\', 'u', '0', '0', hexDigit (c.toNat / 16), hexDigit (c.toNat % 16)]) :
    (StringPart.unit c.toNat).StandsFor c := by
  constructor
  · intro rest
    simp only [hwrite, List.cons_append, List.nil_append, stringParts, codeUnit?_hexDigit c.toNat hc]
    cases stringParts rest <;> rfl
  · intro ps
    have hlead : isLeading c.toNat = false := by
      simp only [isLeading, Bool.and_eq_false_iff, decide_eq_false_iff_not]
      omega
    have htrail : isTrailing c.toNat = false := by
      simp only [isTrailing, Bool.and_eq_false_iff, decide_eq_false_iff_not]
      omega
    cases ps with
    | nil => simp only [joinUnits, hlead, htrail, Bool.or_self, Bool.false_eq_true, ↓reduceIte, Char.ofNat_toNat]
    | cons p ps =>
      cases p <;>
        simp only [joinUnits, hlead, htrail, Bool.false_and, Bool.or_self, Bool.false_eq_true, ↓reduceIte,
          Char.ofNat_toNat]

/-- A character that is written as itself. -/
theorem standsFor_plain {c : Char} (hquote : c ≠ '"') (hslash : c ≠ '\\') (hc : ¬ c.toNat < 0x20)
    (hwrite : escapeChar c = [c]) : (StringPart.char c).StandsFor c := by
  refine ⟨fun rest => ?_, fun ps => by rw [joinUnits]⟩
  rw [hwrite, List.cons_append, List.nil_append, stringParts]
  · rw [if_neg]
    simp only [hslash, hc, decide_false, Bool.or_self, Bool.false_eq_true, not_false_eq_true]
  · exact fun h => hquote h
  · exact fun _ _ _ _ _ h => absurd h hslash
  · exact fun _ _ h => absurd h hslash

/-- The characters with an escape of their own, and what stands behind the backslash for them. -/
def shortEscapes : List (Char × Char) :=
  [('"', '"'), ('\\', '\\'), ('\x08', 'b'), ('\x0c', 'f'), ('\n', 'n'), ('\r', 'r'), ('\t', 't')]

theorem standsFor_of_mem_shortEscapes {x : Char × Char} (h : x ∈ shortEscapes) :
    (StringPart.char x.1).StandsFor x.1 := by
  have hall : shortEscapes.all (fun x => shortEscape? x.2 == some x.1 && escapeChar x.1 == ['\\', x.2]) = true := by
    decide
  have hx := List.all_eq_true.1 hall x h
  rw [Bool.and_eq_true, beq_iff_eq, beq_iff_eq] at hx
  exact standsFor_short hx.1 hx.2

/-- **Every character is read back from its escaped form**, as one part of a literal. -/
theorem exists_standsFor (c : Char) : ∃ p : StringPart, p.StandsFor c := by
  by_cases hshort : c ∈ shortEscapes.map (·.1)
  · obtain ⟨x, hx, rfl⟩ := List.mem_map.1 hshort
    exact ⟨_, standsFor_of_mem_shortEscapes hx⟩
  · simp only [shortEscapes, List.map_cons, List.map_nil, List.mem_cons, List.not_mem_nil, or_false, not_or] at hshort
    obtain ⟨hquote, hslash, hb, hf, hn, hr, ht⟩ := hshort
    have hwrite : escapeChar c =
        if c.toNat < 0x20 then ['\\', 'u', '0', '0', hexDigit (c.toNat / 16), hexDigit (c.toNat % 16)] else [c] := by
      simp only [escapeChar, hquote, hslash, hb, hf, hn, hr, ht, ↓reduceIte]
    by_cases hc : c.toNat < 0x20
    · exact ⟨_, standsFor_control hc (hwrite.trans (if_pos hc))⟩
    · exact ⟨_, standsFor_plain hquote hslash hc (hwrite.trans (if_neg hc))⟩

/-- The escaped form of a text is read as parts that join to it. -/
theorem stringParts_escaped (cs rest : List Char) :
    ∃ ps, stringParts (cs.flatMap escapeChar ++ '"' :: rest) = some (ps, rest) ∧ joinUnits ps = some cs := by
  induction cs with
  | nil => exact ⟨[], by rw [List.flatMap_nil, List.nil_append, stringParts], rfl⟩
  | cons c cs ih =>
    obtain ⟨ps, hread, hjoined⟩ := ih
    obtain ⟨p, hp⟩ := exists_standsFor c
    refine ⟨p :: ps, ?_, ?_⟩
    · rw [List.flatMap_cons, List.append_assoc, hp.read, hread]
      rfl
    · rw [hp.joined, hjoined]
      rfl

/-- **A string literal reads back.** -/
theorem stringBody_quote (s : String) (rest : List Char) :
    stringBody (s.toList.flatMap escapeChar ++ '"' :: rest) = some (some s, rest) := by
  obtain ⟨ps, hread, hjoined⟩ := stringParts_escaped s.toList rest
  simp only [stringBody, hread, Option.map_some, hjoined, String.ofList_toList]

/-! ## Integers -/

/-- **A text that follows a value**: nothing, or what goes on behind it in an array or an object. -/
def Ends (rest : List Char) : Prop :=
  ∀ c ∈ rest.head?, c ∈ [',', ']', '\x7d']

theorem ends_nil : Ends [] :=
  nofun

theorem ends_cons {c : Char} {rest : List Char} (h : c ∈ [',', ']', '\x7d']) : Ends (c :: rest) := by
  rintro _ ⟨⟩
  exact h

/-- Digits of a positive number start with no zero. -/
theorem head?_digits {n : Nat} (h : 0 < n) : (Decimal.digits n).head? ≠ some '0' := by
  induction n using Nat.strongRecOn with
  | ind n ih =>
    rw [Decimal.digits, Nat.toDigits_eq_if (by decide)]
    split
    · rename_i hsmall
      have hfirst : ∀ d < 10, 0 < d → [Nat.digitChar d].head? ≠ some '0' := by decide
      exact hfirst n hsmall h
    · rename_i hlarge
      have hfront := ih (n / 10) (by omega) (by omega)
      obtain ⟨d, ds, hds⟩ := List.exists_cons_of_ne_nil (Decimal.digits_ne_nil (n / 10))
      rw [hds] at hfront
      rwa [← Decimal.digits, hds]

/-- The digits of a number are digits before a point. -/
theorem integerDigits_digits (n : Nat) {rest : List Char} (h : Ends rest) :
    integerDigits (Decimal.digits n ++ rest) = some (Decimal.digits n, rest) := by
  have hrest : ∀ c ∈ rest.head?, c.isDigit = false := by
    have hnone : [',', ']', '\x7d'].all (fun c => !c.isDigit) = true := by decide
    intro c hc
    rw [← Bool.not_eq_true', List.all_eq_true.1 hnone c (h c hc)]
  rw [integerDigits, Decimal.spanDigits_append (fun _ => Decimal.isDigit_of_mem_digits) hrest]
  split
  · rename_i heq
    exact absurd (congrArg Prod.fst heq) (Decimal.digits_ne_nil n)
  · rename_i d ds _ heq
    have hdigits : Decimal.digits n = '0' :: d :: ds := congrArg Prod.fst heq
    rcases Nat.eq_zero_or_pos n with rfl | hpos
    · cases hdigits
    · exact absurd (by rw [hdigits]; rfl) (head?_digits hpos)
  · rename_i heq
    obtain ⟨rfl, rfl⟩ := Prod.mk.inj heq
    rfl

/-- The digits of a number are a literal. -/
theorem literal_digits (negative : Bool) (n : Nat) {rest : List Char} (h : Ends rest) :
    literal negative (Decimal.digits n ++ rest) = some (⟨negative, ⟨Decimal.digits n, [], 0⟩, true⟩, rest) := by
  rw [literal, integerDigits_digits n h]
  cases rest with
  | nil => rfl
  | cons c rest =>
    have hc := h c rfl
    simp only [List.mem_cons, List.not_mem_nil, or_false] at hc
    rcases hc with rfl | rfl | rfl <;> rfl

/-- A number without a minus sign in front of it is none below zero. -/
theorem number_digits (n : Nat) {rest : List Char} (h : Ends rest) :
    number (Decimal.digits n ++ rest) =
      some ((⟨false, ⟨Decimal.digits n, [], 0⟩, true⟩ : Literal).number, rest) := by
  have hliteral := literal_digits false n h
  cases hds : Decimal.digits n with
  | nil => exact absurd hds (Decimal.digits_ne_nil n)
  | cons d ds =>
    rw [hds, List.cons_append] at hliteral
    rw [List.cons_append, number]
    · rw [hliteral, Option.map_some]
    · rintro rest' heq
      have hminus : '-' ∈ Decimal.digits n := by
        rw [hds, (List.cons.inj heq).1]
        exact List.mem_cons_self
      exact absurd (Decimal.isDigit_of_mem_digits hminus) (by decide)

theorem Integer.ofInt?_val (n : Integer) : Integer.ofInt? n.val = some n := by
  unfold Integer.ofInt?
  split
  · rfl
  · rename_i hout
    exact absurd ⟨n.lower, n.upper⟩ hout

/-- Digits denote an integer that fits. -/
theorem Literal.number_digits {negative : Bool} {m : Nat} {n : Integer}
    (h : (if negative then (if (m : Int) = 0 ∨ (m : Int) > 9223372036854775808 then none else Integer.ofInt? (-m))
      else Integer.ofInt? m) = some n) :
    (⟨negative, ⟨Decimal.digits m, [], 0⟩, true⟩ : Literal).number = .int n := by
  simp only [Literal.number, Decimal.ofDigits_digits, h]

/-- **An integer reads back** from its text. -/
theorem number_integerText (n : Integer) {rest : List Char} (h : Ends rest) :
    number (integerText n ++ rest) = some (.int n, rest) := by
  have hlower := n.lower
  unfold integerText
  split
  · rename_i hneg
    have habs : -(n.val.natAbs : Int) = n.val := by omega
    have hfits : ¬ ((n.val.natAbs : Int) = 0 ∨ (n.val.natAbs : Int) > 9223372036854775808) := by omega
    rw [List.cons_append, number, literal_digits true n.val.natAbs h, Option.map_some]
    dsimp only
    rw [Literal.number_digits]
    rw [if_pos rfl, if_neg hfits, habs, n.ofInt?_val]
  · rename_i hpos
    have habs : (n.val.natAbs : Int) = n.val := by omega
    rw [number_digits n.val.natAbs h, Literal.number_digits]
    rw [if_neg Bool.false_ne_true, habs, n.ofInt?_val]

end SchemaSql.Json
