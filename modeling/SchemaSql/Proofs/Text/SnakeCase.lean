import SchemaSql.Identifier
import SchemaSql.Proofs.Text.Case
import SchemaSql.SnakeCase

/-!
# Names in snake case and words

A name in snake case is made of the characters of the name, in lower case and with underscores between them
(`mem_ofName`). So it has no capital of ASCII, it is in ASCII if the name is, and it is a word if the name is one
(`isWord_ofName`).
-/

namespace SchemaSql

namespace Identifier

theorem lt_of_isPart {c : Char} (h : isPart c = true) : c.toNat < 0x80 := by
  have hlt : ∀ {last : Char}, c.val ≤ last.val → last.toNat < 0x80 → c.toNat < 0x80 := fun hle =>
    Nat.lt_of_le_of_lt (UInt32.le_iff_toNat_le.1 hle)
  rcases Bool.or_eq_true_iff.1 h with halphanum | hunderscore
  · rcases Bool.or_eq_true_iff.1 halphanum with hletter | hdigit
    · rcases Bool.or_eq_true_iff.1 hletter with hupper | hlower
      · exact hlt (of_decide_eq_true hupper).2 (by decide)
      · exact hlt (of_decide_eq_true (Bool.and_eq_true_iff.1 hlower).2) (by decide)
    · exact hlt (of_decide_eq_true (Bool.and_eq_true_iff.1 hdigit).2) (by decide)
  · rw [of_decide_eq_true hunderscore]
    decide

theorem lt_of_isPart_ofNat {n : Nat} (h : isPart (Char.ofNat n) = true) : n < 0x80 := by
  by_cases hn : n.isValidChar
  · have hlt := lt_of_isPart h
    rwa [Char.ofNat, dif_pos hn] at hlt
  · rw [Char.ofNat, dif_neg hn] at h
    cases h

/-- **A character whose upper form is made of letters, digits and underscores** is in ASCII or spelled with letters. -/
theorem lt_of_upperChar {c : Char} (hc : Text.asciiSpellings.lookup c = none)
    (h : ∀ x ∈ Text.upperChar c, isPart x = true) : c.toNat < 0x80 := by
  refine Decidable.byContradiction fun hlt => ?_
  rw [Text.upperChar, if_neg hlt, Text.mapChar] at h
  split at h
  · rename_i ns hns
    obtain ⟨before, after, hsequences, -⟩ := List.lookup_eq_some_iff.1 hns
    have hmem : (c.toNat, ns) ∈ Text.upperSequences := hsequences ▸ List.mem_append_right _ List.mem_cons_self
    rcases Text.le_of_mem_upperSequences _ hmem with ⟨n, hn, hle⟩ | hspelled
    · exact absurd (lt_of_isPart_ofNat (h _ (List.mem_map_of_mem hn))) (Nat.not_lt.2 hle)
    · rw [Char.ofNat_toNat, hc] at hspelled
      cases hspelled
  · split at h
    · rename_i r hr
      have hcovers := List.find?_some hr
      obtain ⟨hfirst, hlast⟩ := Text.CaseRun.bounds_of_covers hcovers
      have hpart := lt_of_isPart_ofNat (h _ (List.mem_singleton_self _))
      rcases Text.le_of_mem_upperRuns r (List.mem_of_find?_eq_some hr) with hascii | hle | ⟨hone, hspelled⟩
      · omega
      · omega
      · rw [show r.first = c.toNat by omega, Char.ofNat_toNat, hc] at hspelled
        cases hspelled
    · exact hlt (lt_of_isPart (h c (List.mem_singleton_self c)))

/-- A word begins with a letter or an underscore and goes on with letters, digits and underscores. -/
theorem isWord_iff {cs : List Char} :
    isWord cs = true ↔ (∃ c rest, cs = c :: rest ∧ isStart c = true) ∧ ∀ c ∈ cs, isPart c = true := by
  cases cs with
  | nil => exact iff_of_false Bool.false_ne_true fun h => nomatch h.1
  | cons c rest =>
    rw [isWord, Bool.and_eq_true, List.all_eq_true, List.forall_mem_cons]
    constructor
    · exact fun h => ⟨⟨c, rest, rfl, h.1⟩, isPart_of_isStart h.1, h.2⟩
    · rintro ⟨⟨_, _, heq, hstart⟩, -, hrest⟩
      cases heq
      exact ⟨hstart, hrest⟩

theorem ascii_of_isWord {cs : List Char} (h : isWord cs = true) : Text.Ascii cs :=
  fun c hc => lt_of_isPart ((isWord_iff.1 h).2 c hc)

/-- **A text in ASCII is a word exactly if its upper form is one.** -/
theorem isWord_upper {cs : List Char} (h : Text.Ascii cs) : isWord (Text.upper cs) = isWord cs := by
  have hstart : ∀ {c : Char}, c.toNat < 0x80 → isStart c.toUpper = isStart c :=
    Text.forall_of_ascii (p := fun c => isStart c.toUpper = isStart c) (by decide)
  have hpart : ∀ {c : Char}, c.toNat < 0x80 → isPart c.toUpper = isPart c :=
    Text.forall_of_ascii (p := fun c => isPart c.toUpper = isPart c) (by decide)
  rw [Text.upper_of_ascii h]
  cases cs with
  | nil => rfl
  | cons c rest =>
    obtain ⟨hc, hrest⟩ := List.forall_mem_cons.1 h
    rw [List.map_cons, isWord, isWord, hstart hc, Bool.eq_iff_iff, Bool.and_eq_true, Bool.and_eq_true, List.all_eq_true,
      List.all_eq_true, List.forall_mem_map]
    exact and_congr_right fun _ => forall₂_congr fun d hd => by rw [hpart (hrest d hd)]

/-- **A text is a word in upper case exactly if its spelling is one.** -/
theorem isWord_upper_iff (cs : List Char) : isWord (Text.upper cs) = true ↔ isWord (Text.spelled cs) = true := by
  rw [← Text.upper_spelled]
  constructor
  · intro h
    have hascii : Text.Ascii (Text.spelled cs) := by
      intro c hc
      rcases Text.mem_spelled hc with ⟨-, hlt⟩ | ⟨-, hnone⟩
      · exact hlt
      · exact lt_of_upperChar hnone fun x hx => (isWord_iff.1 h).2 x (List.mem_flatMap.2 ⟨c, hc, hx⟩)
    rwa [isWord_upper hascii] at h
  · intro h
    rwa [isWord_upper (ascii_of_isWord h)]

end Identifier

/-- A cluster goes on from where it was begun. -/
theorem Text.exists_clustersAfter {cluster : List Char} (hne : cluster ≠ []) (cs : List Char) :
    ∃ x rest, clustersAfter cluster cs = (cluster.reverse ++ x) :: rest := by
  induction cs generalizing cluster with
  | nil =>
    rw [clustersAfter, if_neg (mt List.isEmpty_iff.1 hne)]
    exact ⟨[], [], by rw [List.append_nil]⟩
  | cons c cs ih =>
    rw [clustersAfter]
    split
    · obtain ⟨x, rest, h⟩ := ih (List.cons_ne_nil c cluster)
      exact ⟨c :: x, rest, by rw [h, List.reverse_cons, List.append_assoc, List.singleton_append]⟩
    · exact ⟨[], _, by rw [List.append_nil]⟩

namespace SnakeCase

/-! ## The words of a name -/

/-- The first word goes on from where it was begun. -/
theorem exists_wordsAfter (word : List Char) (clusters : List (List Char)) :
    ∃ x rest, wordsAfter word clusters = (word ++ x) :: rest := by
  induction clusters generalizing word with
  | nil => exact ⟨[], [], by rw [wordsAfter, List.append_nil]⟩
  | cons c clusters ih =>
    rw [wordsAfter]
    split
    · exact ⟨[], _, by rw [List.append_nil]⟩
    · split
      · exact ⟨c, _, rfl⟩
      · obtain ⟨x, rest, h⟩ := ih (word ++ c)
        exact ⟨c ++ x, rest, by rw [h, List.append_assoc]⟩

theorem mem_of_mem_wordsAfter {word w : List Char} {clusters : List (List Char)} {c : Char}
    (hw : w ∈ wordsAfter word clusters) (hc : c ∈ w) : c ∈ word ∨ c ∈ clusters.flatten := by
  induction clusters generalizing word with
  | nil =>
    rw [List.mem_singleton.1 hw] at hc
    exact .inl hc
  | cons d clusters ih =>
    rw [List.flatten_cons, List.mem_append]
    -- the words behind the first cluster begin anew, or go on with the one that was begun
    have hbehind : w ∈ wordsAfter [] clusters → c ∈ clusters.flatten := fun h =>
      (ih h).resolve_left List.not_mem_nil
    rw [wordsAfter] at hw
    split at hw
    · rcases List.mem_cons.1 hw with rfl | hw
      · exact .inl hc
      · exact .inr (.inr (hbehind hw))
    · split at hw
      · rcases List.mem_cons.1 hw with rfl | hw
        · exact (List.mem_append.1 hc).imp_right .inl
        · exact .inr (.inr (hbehind hw))
      · rcases ih hw with h | h
        · exact (List.mem_append.1 h).imp_right .inl
        · exact .inr (.inr h)

/-- **Words are made of the characters of the name.** -/
theorem mem_of_mem_words {name : String} {w : List Char} {c : Char} (hw : w ∈ words name) (hc : c ∈ w) :
    c ∈ name.toList := by
  have h := (mem_of_mem_wordsAfter hw hc).resolve_left List.not_mem_nil
  rwa [Text.flatten_clusters] at h

/-- **What the words of a name begin with**: its first character, or nothing before a delimiter. -/
theorem words_start {name : String} {c : Char} {cs : List Char} (h : name.toList = c :: cs) :
    (∃ x rest, words name = (c :: x) :: rest) ∨ ∃ w rest, words name = [] :: w :: rest := by
  obtain ⟨x, clusters, hclusters⟩ := Text.exists_clustersAfter (List.cons_ne_nil c []) cs
  have hfirst : Text.clusters name.toList = (c :: x) :: clusters := by
    rw [h, Text.clusters, Text.clustersAfter, if_pos (show Text.attaches [] c = true from rfl), hclusters]
    rfl
  rw [words, hfirst, wordsAfter]
  split
  · obtain ⟨y, rest, hrest⟩ := exists_wordsAfter [] clusters
    exact .inr ⟨_, _, congrArg _ hrest⟩
  · split
    · exact .inl ⟨_, _, rfl⟩
    · obtain ⟨y, rest, hrest⟩ := exists_wordsAfter ([] ++ c :: x) clusters
      exact .inl ⟨_, _, hrest⟩

/-! ## Words in snake case -/

theorem toList_ofName (name : String) : (ofName name).toList = ['_'].intercalate ((words name).map Text.lower) :=
  String.toList_ofList

theorem mem_intercalate {sep c : Char} {ls : List (List Char)} (h : c ∈ [sep].intercalate ls) :
    c = sep ∨ ∃ l ∈ ls, c ∈ l := by
  induction ls with
  | nil => exact absurd h List.not_mem_nil
  | cons l ls ih =>
    cases ls with
    | nil =>
      rw [List.intercalate_singleton] at h
      exact .inr ⟨l, List.mem_cons_self, h⟩
    | cons l' ls =>
      rw [List.intercalate_cons_cons, List.mem_append, List.mem_append, List.mem_singleton] at h
      rcases h with (h | h) | h
      · exact .inr ⟨l, List.mem_cons_self, h⟩
      · exact .inl h
      · obtain h | ⟨k, hk, hc⟩ := ih h
        · exact .inl h
        · exact .inr ⟨k, List.mem_cons_of_mem _ hk, hc⟩

/-- **A name in snake case** consists of underscores and the lower forms of words. -/
theorem mem_ofName {name : String} {c : Char} (h : c ∈ (ofName name).toList) :
    c = '_' ∨ ∃ w ∈ words name, c ∈ Text.lower w := by
  rw [toList_ofName] at h
  obtain h | ⟨_, hl, hc⟩ := mem_intercalate h
  · exact .inl h
  · obtain ⟨w, hw, rfl⟩ := List.mem_map.1 hl
    exact .inr ⟨w, hw, hc⟩

theorem not_isUpper_of_mem_ofName {name : String} {c : Char} (h : c ∈ (ofName name).toList) : c.isUpper = false := by
  obtain rfl | ⟨w, -, hc⟩ := mem_ofName h
  · rfl
  · exact Text.not_isUpper_of_mem_lower hc

/-- In ASCII the characters of a name go over to their lower forms. -/
theorem mem_ofName_of_ascii {name : String} (hname : Text.Ascii name.toList) {c : Char} (h : c ∈ (ofName name).toList) :
    c = '_' ∨ ∃ d ∈ name.toList, c = d.toLower := by
  obtain h | ⟨w, hw, hc⟩ := mem_ofName h
  · exact .inl h
  · rw [Text.lower_of_ascii fun d hd => hname d (mem_of_mem_words hw hd)] at hc
    obtain ⟨d, hd, rfl⟩ := List.mem_map.1 hc
    exact .inr ⟨d, mem_of_mem_words hw hd, rfl⟩

theorem ascii_ofName {name : String} (h : Text.Ascii name.toList) : Text.Ascii (ofName name).toList := by
  intro c hc
  obtain rfl | ⟨d, hd, rfl⟩ := mem_ofName_of_ascii h hc
  · decide
  · exact Text.forall_of_ascii (p := fun d => d.toLower.toNat < 0x80) (by decide) (h d hd)

/-- **A word is a word in snake case too.** -/
theorem isWord_ofName {name : String} (h : Identifier.isWord name.toList = true) :
    Identifier.isWord (ofName name).toList = true := by
  have hascii := Identifier.ascii_of_isWord h
  obtain ⟨⟨c, cs, hname, hstart⟩, hparts⟩ := Identifier.isWord_iff.1 h
  refine Identifier.isWord_iff.2 ⟨?_, fun d hd => ?_⟩
  · rw [toList_ofName]
    rcases words_start hname with ⟨x, rest, hwords⟩ | ⟨w, rest, hwords⟩
    · have hfirst : Text.Ascii (c :: x) := fun d hd =>
        hascii d (mem_of_mem_words (hwords ▸ List.mem_cons_self) hd)
      have hlower : Identifier.isStart c.toLower = true :=
        Text.forall_of_ascii (p := fun c => Identifier.isStart c = true → Identifier.isStart c.toLower = true)
          (by decide) (hfirst c List.mem_cons_self) hstart
      rw [hwords, List.map_cons, Text.lower_of_ascii hfirst, List.map_cons, List.intercalate_cons_cons_left]
      exact ⟨_, _, rfl, hlower⟩
    · rw [hwords, List.map_cons, List.map_cons, List.intercalate_cons_cons]
      exact ⟨'_', _, rfl, rfl⟩
  · obtain rfl | ⟨e, he, rfl⟩ := mem_ofName_of_ascii hascii hd
    · rfl
    · exact Text.forall_of_ascii (p := fun e => Identifier.isPart e = true → Identifier.isPart e.toLower = true)
        (by decide) (hascii e he) (hparts e he)

end SnakeCase

end SchemaSql
