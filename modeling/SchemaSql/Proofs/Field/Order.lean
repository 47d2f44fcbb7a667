import SchemaSql.Field.Basic

/-!
# The order of columns

Every field belongs to a group: the primary keys, the record's own fields and the embedded ones. The order of columns
puts the groups one behind the other and leaves the fields of each group as they are given (`Field.Arranged`). That
determines it (`Field.arranged_iff`), so fields that are arranged already stay as they are, and how the fields of
different groups are mixed makes no difference.
-/

namespace SchemaSql.Field

/-- **The groups of fields.** -/
inductive Group where
  | key
  | host
  | inner
deriving DecidableEq

/-- The place of a group in the order of columns. -/
def Group.rank : Group → Nat
  | key => 0
  | host => 1
  | inner => 2

/-- **The group of a field.** A primary key belongs to the keys wherever it comes from. -/
def group (f : Field) : Group :=
  if f.primaryKey then .key else if f.embedded then .inner else .host

/-- The fields of a group, in the order given. -/
def ofGroup (g : Group) (fs : List Field) : List Field :=
  fs.filter fun f => f.group = g

/-- **Fields in the order of columns**: the groups stand one behind the other, and each has the same fields in the
same order as before. -/
structure Arranged (fs gs : List Field) : Prop where
  grouped : gs.Pairwise fun f g => f.group.rank ≤ g.group.rank
  kept : ∀ k, ofGroup k gs = ofGroup k fs

variable {fs gs : List Field} {f : Field}

theorem ofGroup_cons_self (f : Field) (fs : List Field) : ofGroup f.group (f :: fs) = f :: ofGroup f.group fs :=
  List.filter_cons_of_pos (decide_eq_true rfl)

theorem ofGroup_cons_of_ne {k : Group} (h : f.group ≠ k) (fs : List Field) : ofGroup k (f :: fs) = ofGroup k fs :=
  List.filter_cons_of_neg (by simpa using h)

/-- No field is of a group if all are of later ones. -/
theorem ofGroup_eq_nil {k : Group} (h : ∀ f ∈ fs, k.rank < f.group.rank) : ofGroup k fs = [] := by
  rw [ofGroup, List.filter_eq_nil_iff]
  intro f hf heq
  exact absurd (h f hf) (of_decide_eq_true heq ▸ Nat.lt_irrefl _)

theorem group_of_mem_ofGroup {k : Group} (h : f ∈ ofGroup k fs) : f.group = k :=
  of_decide_eq_true (List.mem_filter.1 h).2

/-- **The order of columns by groups.** -/
theorem sorted_eq (fs : List Field) : sorted fs = ofGroup .key fs ++ ofGroup .host fs ++ ofGroup .inner fs := by
  have hgroup : ∀ f : Field, f.primaryKey = decide (f.group = .key) ∧ f.isHost = decide (f.group = .host) ∧
      f.isInner = decide (f.group = .inner) := by
    intro f
    unfold group isHost isInner
    cases f.primaryKey <;> cases f.embedded <;> decide
  simp only [sorted, ofGroup, (hgroup _).1, (hgroup _).2.1, (hgroup _).2.2]

/-- The fields of a group in the order of columns. -/
theorem ofGroup_sorted (k : Group) (fs : List Field) : ofGroup k (sorted fs) = ofGroup k fs := by
  have hother : ∀ j : Group, ofGroup k (ofGroup j fs) = if j = k then ofGroup k fs else [] := by
    intro j
    split
    · rename_i h
      exact h ▸ List.filter_eq_self.2 fun f hf => (List.mem_filter.1 hf).2
    · rename_i h
      refine List.filter_eq_nil_iff.2 fun f hf heq => h ?_
      rw [← group_of_mem_ofGroup hf, of_decide_eq_true heq]
  have happend : ∀ gs hs : List Field, ofGroup k (gs ++ hs) = ofGroup k gs ++ ofGroup k hs := fun gs hs =>
    List.filter_append ..
  rw [sorted_eq, happend, happend, hother, hother, hother]
  cases k <;> simp

/-- **The groups stand one behind the other.** -/
theorem grouped_sorted (fs : List Field) : (sorted fs).Pairwise fun f g => f.group.rank ≤ g.group.rank := by
  have hgroup : ∀ k, (ofGroup k fs).Pairwise fun f g => f.group.rank ≤ g.group.rank := by
    intro k
    refine List.pairwise_of_forall_mem_list fun f hf g hg => ?_
    exact Nat.le_of_eq (by rw [group_of_mem_ofGroup hf, group_of_mem_ofGroup hg])
  have hbefore : ∀ {j k : Group}, j.rank ≤ k.rank → ∀ f ∈ ofGroup j fs, ∀ g ∈ ofGroup k fs,
      f.group.rank ≤ g.group.rank := by
    intro j k hjk f hf g hg
    rwa [group_of_mem_ofGroup hf, group_of_mem_ofGroup hg]
  rw [sorted_eq, List.pairwise_append, List.pairwise_append]
  refine ⟨⟨hgroup .key, hgroup .host, hbefore (by decide)⟩, hgroup .inner, fun f hf g hg => ?_⟩
  rcases List.mem_append.1 hf with hf | hf
  · exact hbefore (by decide) f hf g hg
  · exact hbefore (by decide) f hf g hg

theorem arranged_sorted (fs : List Field) : Arranged fs (sorted fs) :=
  ⟨grouped_sorted fs, fun k => ofGroup_sorted k fs⟩

/-- **Fields whose groups stand one behind the other** are in the order of columns. The induction is on the fields: the
first one belongs to the earliest group, so no field of an earlier group is left. -/
theorem sorted_eq_self (h : gs.Pairwise fun f g => f.group.rank ≤ g.group.rank) : sorted gs = gs := by
  induction gs with
  | nil => rfl
  | cons f gs ih =>
    obtain ⟨hfirst, hrest⟩ := List.pairwise_cons.1 h
    have hnil : ∀ k : Group, k.rank < f.group.rank → ofGroup k gs = [] := fun k hk =>
      ofGroup_eq_nil fun g hg => Nat.lt_of_lt_of_le hk (hfirst g hg)
    have hskip : ∀ k : Group, f.group ≠ k → ofGroup k (f :: gs) = ofGroup k gs := fun k hk => ofGroup_cons_of_ne hk gs
    have hself := ofGroup_cons_self f gs
    have htail := ih hrest
    rw [sorted_eq] at htail ⊢
    cases hf : f.group with
    | key =>
      rw [hf] at hself hskip
      rw [hself, hskip .host (by decide), hskip .inner (by decide), List.cons_append, List.cons_append, htail]
    | host =>
      rw [hf] at hself hskip hnil
      rw [hnil .key (by decide), List.nil_append] at htail
      rw [hskip .key (by decide), hnil .key (by decide), hself, hskip .inner (by decide), List.nil_append,
        List.cons_append, htail]
    | inner =>
      rw [hf] at hself hskip hnil
      rw [hnil .key (by decide), hnil .host (by decide), List.nil_append, List.nil_append] at htail
      rw [hskip .key (by decide), hnil .key (by decide), hskip .host (by decide), hnil .host (by decide), hself,
        List.nil_append, List.nil_append, htail]

/-- **Fields of the same groups have the same order of columns**, however the groups are mixed. -/
theorem sorted_congr (h : ∀ k, ofGroup k fs = ofGroup k gs) : sorted fs = sorted gs := by
  rw [sorted_eq, sorted_eq, h .key, h .host, h .inner]

/-- **The order of columns is the only one** that puts the groups one behind the other and keeps each of them. -/
theorem arranged_iff : Arranged fs gs ↔ gs = sorted fs := by
  constructor
  · intro h
    rw [← sorted_eq_self h.grouped, sorted_congr h.kept]
  · rintro rfl
    exact arranged_sorted fs

/-- A part of the fields that stands in one run stands so within its group. -/
theorem infix_sorted_of_inner {before run after : List Field} (h : fs = before ++ run ++ after) :
    ofGroup .inner run <:+: sorted fs := by
  have hinner : ofGroup .inner fs = ofGroup .inner before ++ ofGroup .inner run ++ ofGroup .inner after := by
    rw [h, ofGroup, List.filter_append, List.filter_append]
    rfl
  rw [sorted_eq, hinner]
  exact ⟨ofGroup .key fs ++ ofGroup .host fs ++ ofGroup .inner before, ofGroup .inner after, by
    simp only [List.append_assoc]⟩

end SchemaSql.Field
