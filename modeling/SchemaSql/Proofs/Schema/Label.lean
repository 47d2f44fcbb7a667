import Mathlib.Data.List.Nodup
import SchemaSql.Proofs.Schema.Made
import SchemaSql.Schema.Row

/-!
# Fields behind labels

A label is read back by cutting it at the first two underscores in a row. That finds the qualifier again
exactly if the qualifier is `Separable`: it has no two underscores in a row and does not end in one. The
column that follows may have any shape, but several fields with one column share a label, and the first of
them answers for all (`Schema.Leads`). `Schema.fieldOfLabel?_eq_some_iff` is the law of reading back; what a
row says about a field follows from it, and so does which schemas have labels that can all be read back.
-/

namespace SchemaSql

/-- **A qualifier that a label can be cut behind**: in a label two underscores in a row do not occur before
its end. -/
def Separable (qualifier : String) : Prop :=
  ¬ ['_', '_'] <:+: qualifier.toList ++ ['_']

instance (qualifier : String) : Decidable (Separable qualifier) :=
  inferInstanceAs (Decidable (¬ _))

/-- A row with one column under a label. -/
def Row.Carries (r : Row) (label : String) (v : SqlValue) : Prop :=
  r.filter (fun c => c.1 == label) = [(label, v)]

namespace Schema

variable {s : Schema} {label : String} {f : Field} {r : Row}

/-- The first of the fields with its column. -/
def Leads (s : Schema) (f : Field) : Prop :=
  ∃ before after, s.fields = before ++ f :: after ∧ ∀ g ∈ before, g.column ≠ f.column

theorem Leads.mem (h : s.Leads f) : f ∈ s.fields := by
  obtain ⟨before, after, hfields, -⟩ := h
  rw [hfields]
  exact List.mem_append_right _ List.mem_cons_self

/-! ## Cutting labels -/

/-- **A label is cut at the first two underscores in a row.** -/
theorem splitLabel_eq_some_iff {cs before after : List Char} :
    splitLabel cs = some (before, after) ↔
      cs = before ++ '_' :: '_' :: after ∧ ¬ ['_', '_'] <:+: before ++ ['_'] := by
  fun_induction splitLabel cs generalizing before with
  | case1 => simp
  | case2 rest =>
    constructor
    · intro h
      cases h
      exact ⟨rfl, by decide⟩
    · rintro ⟨h, hbefore⟩
      cases before with
      | nil => simpa using h
      | cons b bs =>
        -- an underscore before the cut would make one of the two underscores part of an earlier pair
        exfalso
        apply hbefore
        obtain ⟨rfl, hrest⟩ := List.cons.inj h
        cases bs with
        | nil => exact List.infix_rfl
        | cons b bs =>
          obtain ⟨rfl, -⟩ := List.cons.inj hrest
          exact ⟨[], bs ++ ['_'], rfl⟩
  | case3 c rest hcut ih =>
    simp only [Option.map_eq_some_iff, Prod.exists, Prod.mk.injEq]
    constructor
    · rintro ⟨bs, _, hrest, rfl, rfl⟩
      obtain ⟨rfl, hbs⟩ := ih.1 hrest
      refine ⟨rfl, ?_⟩
      rw [List.cons_append, List.infix_cons_iff]
      rintro (hstart | hlater)
      · obtain ⟨hc, hstart⟩ := List.cons_prefix_cons.1 hstart
        cases bs with
        | nil => exact hcut _ hc.symm rfl
        | cons b bs =>
          obtain ⟨hb, -⟩ := List.cons_prefix_cons.1 hstart
          exact hcut _ hc.symm (by rw [← hb]; rfl)
      · exact hbs hlater
    · rintro ⟨h, hbefore⟩
      cases before with
      | nil =>
        obtain ⟨rfl, rfl⟩ := List.cons.inj h
        exact absurd rfl (hcut after rfl)
      | cons b bs =>
        obtain ⟨rfl, hrest⟩ := List.cons.inj h
        refine ⟨bs, after, ih.2 ⟨hrest, fun hlater => hbefore ?_⟩, rfl, rfl⟩
        exact hlater.trans (List.suffix_cons _ _).isInfix

theorem toList_label (c : ColumnRef) :
    c.label.toList = c.qualifier.toList ++ '_' :: '_' :: c.column.toList := by
  simp [ColumnRef.label]

/-! ## Fields of labels -/

theorem find?_column_eq_some_iff {column : String} :
    s.fields.find? (fun g => g.column == column) = some f ↔ f.column = column ∧ s.Leads f := by
  rw [List.find?_eq_some_iff_append, beq_iff_eq, Leads]
  constructor
  · rintro ⟨rfl, before, after, h, hbefore⟩
    exact ⟨rfl, before, after, h, by simpa using hbefore⟩
  · rintro ⟨rfl, before, after, h, hbefore⟩
    exact ⟨rfl, before, after, h, by simpa using hbefore⟩

/-- **Which field is found under a label**: none under a qualifier that labels cannot be cut behind, and the
first with its column under any other. -/
theorem fieldOfLabel?_eq_some_iff :
    s.fieldOfLabel? label = some f ↔ Separable s.qualifier ∧ s.Leads f ∧ label = (s.bind f).ref.label := by
  constructor
  · intro h
    unfold fieldOfLabel? at h
    split at h
    · cases h
    · rename_i qualifier column hsplit
      split at h
      · rename_i hqualifier
        obtain ⟨hlabel, hseparable⟩ := splitLabel_eq_some_iff.1 hsplit
        obtain ⟨hcolumn, hleads⟩ := find?_column_eq_some_iff.1 h
        have hq : s.qualifier.toList = qualifier := by rw [← hqualifier, String.toList_ofList]
        have hc : f.column.toList = column := by rw [hcolumn, String.toList_ofList]
        refine ⟨?_, hleads, String.toList_inj.1 ?_⟩
        · rwa [Separable, hq]
        · rw [toList_label, hlabel, ← hq, ← hc]
          rfl
      · cases h
  · rintro ⟨hseparable, hleads, rfl⟩
    have hsplit := splitLabel_eq_some_iff.2 ⟨toList_label (s.bind f).ref, hseparable⟩
    have hfound := find?_column_eq_some_iff.2 ⟨rfl, hleads⟩
    simp only [fieldOfLabel?, hsplit, String.ofList_toList]
    exact (if_pos rfl).trans hfound

/-! ## Values of rows -/

/-- The columns of a row for a field are those whose labels are read back as the field. -/
theorem filter_rowEntries (hs : s.Checked) (hf : f ∈ s.fields) (r : Row) :
    (r.filterMap fun c => (s.fieldOfLabel? c.1).map fun g => (g.name, c.2.toJson)).filter (fun e => e.1 == f.name) =
      (r.filter fun c => s.fieldOfLabel? c.1 = some f).map fun c => (f.name, c.2.toJson) := by
  induction r with
  | nil => rfl
  | cons c r ih =>
    rw [List.filter_cons]
    cases hg : s.fieldOfLabel? c.1 with
    | none =>
      rw [List.filterMap_cons_none (by rw [hg]; rfl), ih]
      rfl
    | some g =>
      rw [List.filterMap_cons_some (by rw [hg]; rfl), List.filter_cons, ih]
      by_cases hname : g.name = f.name
      · -- names are distinct, so the field found is the one asked for
        have hgmem : g ∈ s.fields := (fieldOfLabel?_eq_some_iff.1 hg).2.1.mem
        have hgf : some g = some f := by
          rw [← hs.field?_of_mem hgmem, hname, hs.field?_of_mem hf]
        obtain rfl := Option.some.inj hgf
        simp only [beq_self_eq_true, if_true, decide_true, List.map_cons]
      · have hgf : g ≠ f := fun h => hname (h ▸ rfl)
        simp only [beq_iff_eq, hname, if_false, Option.some.injEq, hgf, decide_false, Bool.false_eq_true]

/-- **A row says about a field what stands under its label**, if the label is read back as the field. -/
theorem get?_rowValues_of_leads (hs : s.Checked) (hf : f ∈ s.fields) (hq : Separable s.qualifier)
    (hl : s.Leads f) {v : SqlValue} (hr : r.Carries (s.bind f).ref.label v) :
    (s.rowValues r).get? f.name = some v.toJson := by
  have hlabel : ∀ c ∈ r, decide (s.fieldOfLabel? c.1 = some f) = (c.1 == (s.bind f).ref.label) := by
    intro c _
    rw [Bool.eq_iff_iff, decide_eq_true_iff, fieldOfLabel?_eq_some_iff, beq_iff_eq]
    exact ⟨fun h => h.2.2, fun h => ⟨hq, hl, h⟩⟩
  rw [rowValues, Keyed.get?_ofList, filter_rowEntries hs hf, List.filter_congr hlabel, hr]
  rfl

/-- A row says nothing about a field whose label is not read back as the field. -/
theorem get?_rowValues_of_not_leads (hs : s.Checked) (hf : f ∈ s.fields)
    (h : ¬ (Separable s.qualifier ∧ s.Leads f)) (r : Row) : (s.rowValues r).get? f.name = none := by
  have hlabel : ∀ c ∈ r, ¬ decide (s.fieldOfLabel? c.1 = some f) = true := by
    intro c _ hc
    obtain ⟨hq, hl, -⟩ := fieldOfLabel?_eq_some_iff.1 (of_decide_eq_true hc)
    exact h ⟨hq, hl⟩
  rw [rowValues, Keyed.get?_ofList, filter_rowEntries hs hf, List.filter_eq_nil_iff.2 hlabel]
  rfl

/-- **Under a qualifier that labels cannot be cut behind every row reads as an empty record value.** -/
theorem readRow_of_not_separable (h : ¬ Separable s.qualifier) (r : Row) : s.readRow r = .ok ⟨s.table, []⟩ := by
  have hnone : ∀ c : String × SqlValue, s.fieldOfLabel? c.1 = none := by
    intro c
    apply Option.eq_none_iff_forall_ne_some.2
    intro g hg
    exact h (fieldOfLabel?_eq_some_iff.1 hg).1
  simp only [readRow, rowValues, hnone, Option.map_none, List.filterMap_none]
  rfl

/-! ## Which labels are read back -/

/-- All fields are the first with their columns exactly if no two share one. -/
theorem forall_leads_iff (hs : s.Checked) :
    (∀ f ∈ s.fields, s.Leads f) ↔ (s.fields.map (·.column)).Nodup := by
  rw [List.nodup_map_iff_inj_on (List.Nodup.of_map _ hs.names)]
  constructor
  · intro h f hf g hg hcolumn
    have hf' := find?_column_eq_some_iff.2 ⟨rfl, h f hf⟩
    have hg' := find?_column_eq_some_iff.2 ⟨rfl, h g hg⟩
    rw [hcolumn, hg'] at hf'
    exact (Option.some.inj hf').symm
  · intro h f hf
    have hsome : (s.fields.find? fun g => g.column == f.column).isSome :=
      List.find?_isSome.2 ⟨f, hf, beq_self_eq_true f.column⟩
    obtain ⟨g, hg⟩ := Option.isSome_iff_exists.1 hsome
    obtain ⟨hcolumn, hl⟩ := find?_column_eq_some_iff.1 hg
    obtain ⟨before, after, hfields, -⟩ := id hl
    have hmem : g ∈ s.fields := hfields ▸ List.mem_append_right _ List.mem_cons_self
    exact h g hmem f hf hcolumn ▸ hl

/-- A field's own label is read back as the field if labels can be cut and no earlier field has its column. -/
theorem fieldOfLabel?_label : s.fieldOfLabel? (s.bind f).ref.label = some f ↔ Separable s.qualifier ∧ s.Leads f := by
  rw [fieldOfLabel?_eq_some_iff]
  exact ⟨fun h => ⟨h.1, h.2.1⟩, fun h => ⟨h.1, h.2, rfl⟩⟩

/-- **All labels are read back** exactly if there are none, or labels can be cut and columns are distinct. -/
theorem forall_fieldOfLabel?_label (hs : s.Checked) :
    (∀ f ∈ s.fields, s.fieldOfLabel? (s.bind f).ref.label = some f) ↔
      s.fields = [] ∨ Separable s.qualifier ∧ (s.fields.map (·.column)).Nodup := by
  simp only [fieldOfLabel?_label]
  rw [← forall_leads_iff hs]
  constructor
  · intro h
    cases hfields : s.fields with
    | nil => exact .inl rfl
    | cons f fs =>
      refine .inr ⟨(h f (hfields ▸ List.mem_cons_self)).1, fun g hg => ?_⟩
      exact (h g (hfields ▸ hg)).2
  · rintro (hnil | ⟨hq, hl⟩) f hf
    · rw [hnil] at hf
      exact absurd hf List.not_mem_nil
    · exact ⟨hq, hl f hf⟩

/-- **The label of a field is read back as the field** exactly if labels can be cut behind the table's name and
no earlier field has the same column. Then a row with one column under the label says about the field what
stands there, and otherwise nothing. All labels of a schema are read back exactly if it has no fields, or labels
can be cut behind its table's name and its columns are distinct. -/
theorem labels_read_back {table : String} {fields : List Field} (h : Schema.new table fields = .ok s) :
    (∀ f ∈ s.fields,
      (s.fieldOfLabel? (s.bind f).ref.label = some f ↔ Separable s.table ∧ s.Leads f) ∧
        ∀ (r : Row) (v : SqlValue), r.Carries (s.bind f).ref.label v →
          (Separable s.table ∧ s.Leads f → (s.rowValues r).get? f.name = some v.toJson) ∧
            (¬ (Separable s.table ∧ s.Leads f) → (s.rowValues r).get? f.name = none)) ∧
      ((∀ f ∈ s.fields, s.fieldOfLabel? (s.bind f).ref.label = some f) ↔
        s.fields = [] ∨ Separable s.table ∧ (s.fields.map (·.column)).Nodup) := by
  obtain ⟨hs, hqualifier⟩ := checked_of_new h
  rw [← hqualifier]
  refine ⟨fun f hf => ⟨fieldOfLabel?_label, fun r v hr => ⟨?_, ?_⟩⟩, forall_fieldOfLabel?_label hs⟩
  · rintro ⟨hq, hl⟩
    exact get?_rowValues_of_leads hs hf hq hl hr
  · intro hnot
    exact get?_rowValues_of_not_leads hs hf hnot r

/-- Columns may start and end in underscores: their labels are read back, whatever stands between them. -/
theorem labels_read_back_underscores :
    let f : Field := { name := "A", column := "__x", type := .text }
    let g : Field := { name := "B", column := "x__", type := .text }
    let s : Schema := ⟨"log", "log", [f, g]⟩
    let r : Row := [("log__x__", .text "b"), ("other____x", .null), ("log____x", .text "a")]
    Schema.new "log" [f, g] = .ok s ∧ r.Carries (s.bind f).ref.label (.text "a") ∧
      (s.rowValues r).get? "A" = some (.string "a") ∧ (s.rowValues r).get? "B" = some (.string "b") ∧
      ∀ f ∈ s.fields, s.fieldOfLabel? (s.bind f).ref.label = some f := by
  intro f g s r
  have hnew : Schema.new "log" [{ name := "A", column := "__x", type := .text },
      { name := "B", column := "x__", type := .text }] = .ok ⟨"log", "log",
        [{ name := "A", column := "__x", type := .text }, { name := "B", column := "x__", type := .text }]⟩ := by rfl
  have hcarries : r.Carries (s.bind f).ref.label (.text "a") := by rfl
  have hcarries' : r.Carries (s.bind g).ref.label (.text "b") := by rfl
  obtain ⟨hfields, hall⟩ := labels_read_back hnew
  have hf : f ∈ s.fields := List.mem_cons_self
  have hg : g ∈ s.fields := List.mem_cons_of_mem _ List.mem_cons_self
  have hback := hall.2 (.inr ⟨by decide, by decide⟩)
  have hlf := (hfields f hf).1.1 (hback f hf)
  have hlg := (hfields g hg).1.1 (hback g hg)
  exact ⟨hnew, hcarries, ((hfields f hf).2 r _ hcarries).1 hlf, ((hfields g hg).2 r _ hcarries').1 hlg, hback⟩

/-- A table's name with two underscores in a row hides all its fields: no label is read back, and a row with a
value under each label reads as an empty record value. -/
theorem labels_not_read_back :
    let f : Field := .plain "ID" (.signed .w64)
    let s : Schema := ⟨"a__b", "a__b", [f]⟩
    Schema.new "a__b" [f] = .ok s ∧ f ∈ s.fields ∧ s.fieldOfLabel? (s.bind f).ref.label = none ∧
      s.readRow [((s.bind f).ref.label, .int 7)] = .ok ⟨"a__b", []⟩ :=
  ⟨rfl, List.mem_cons_self, rfl, rfl⟩

end Schema

end SchemaSql
