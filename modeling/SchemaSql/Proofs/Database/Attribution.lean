import SchemaSql.Database.Operation
import SchemaSql.Database.Reply
import SchemaSql.Proofs.Schema.Label
import SchemaSql.Proofs.Schema.Revalidation
import SchemaSql.Proofs.Statement.Request
import SchemaSql.Proofs.Steps

/-!
# Where the values of joined rows come from

A join selects the columns of all its tables, each under a label, and nothing but the labels tells which table a value
was read for. A result is described by its cells, the selected columns with their values; the database hands over
their labels alone (`Row.ofCells`). Every value of a record value comes from the last cell under the label of its field
(`selectJoin_attributed`). That is the field's own cell unless a column that is selected later has the same label, and
it is a cell of the same table if labels can be cut behind all qualifiers. Otherwise the value of another table may
take the place (`selectJoin_misattributed`).
-/

namespace SchemaSql

/-- **A cell of a result**: a selected column and the value that was read for it. -/
abbrev Cell := FieldRef × SqlValue

/-- The label under which a cell is handed over. -/
def Cell.label (c : Cell) : String :=
  c.1.ref.label

/-- **The row of cells as a database hands it over.** -/
def Row.ofCells (cells : List Cell) : Row :=
  cells.map fun c => (Cell.label c, c.2)

variable {α : Type}

/-- **A member of a list after which none has its label.** -/
def IsLast (label : α → String) (xs : List α) (x : α) : Prop :=
  ∃ before after, xs = before ++ x :: after ∧ ∀ y ∈ after, label y ≠ label x

/-- **The cell from which the value of a field was taken**, in a join of given tables: the last under the label. -/
structure Schema.Source (tables : List Schema) (s : Schema) (cells : List Cell) (f : Field) (v : Json) (c : Cell) :
    Prop where
  last : IsLast Cell.label cells c
  label : Cell.label c = (s.bind f).ref.label
  value : f.type.coerce c.2.toJson = .ok v
  own : c.1 = s.bind f ↔ IsLast (fun g => g.ref.label) (cells.map (·.1)) (s.bind f)
  separable : (∀ t ∈ tables, Separable t.qualifier) → c.1 ∈ s.refs ∧ c.1.column = f.column

/-- Every value of a record value stands under the name of a field and comes from one cell. -/
def Schema.Takes (tables : List Schema) (s : Schema) (cells : List Cell) (o : RecordValue) : Prop :=
  ∀ name v, o.get? name = some v → ∃ f ∈ s.fields, f.name = name ∧ ∃ c, s.Source tables cells f v c

/-- **A row of joined tables and the cells that it was read from.** -/
structure JoinedRow.Attributed (base : Schema) (joined : List Schema) (cells : List Cell) (row : JoinedRow) : Prop where
  first : base.Takes (base :: joined) cells row.base
  others : List.Forall₂ (fun s found => ∀ o ∈ found, s.Takes (base :: joined) cells o) joined row.joined

/-! ## The last of a list under its label -/

/-- Two that are the last under one label are the same. -/
theorem IsLast.unique {label : α → String} {xs : List α} {x y : α} (hx : IsLast label xs x) (hy : IsLast label xs y)
    (h : label x = label y) : x = y := by
  obtain ⟨before, after, rfl, hafter⟩ := hx
  obtain ⟨before', after', heq, hafter'⟩ := hy
  rcases List.append_eq_append_iff.1 heq with ⟨between, rfl, hsplit⟩ | ⟨between, rfl, hsplit⟩
  · cases between with
    | nil => exact (List.cons.inj hsplit).1
    | cons b between =>
      -- the second stands after the first
      obtain ⟨rfl, rfl⟩ := List.cons.inj hsplit
      exact absurd h.symm (hafter y (List.mem_append_right _ List.mem_cons_self))
  · cases between with
    | nil => exact (List.cons.inj hsplit).1.symm
    | cons b between =>
      obtain ⟨rfl, rfl⟩ := List.cons.inj hsplit
      exact absurd h (hafter' x (List.mem_append_right _ List.mem_cons_self))

theorem IsLast.mem {label : α → String} {xs : List α} {x : α} (h : IsLast label xs x) : x ∈ xs := by
  obtain ⟨before, after, rfl, -⟩ := h
  exact List.mem_append_right _ List.mem_cons_self

/-- The last of those that a test picks, if it picks all with one label. -/
theorem isLast_of_getLast?_filter {label : α → String} {p : α → Bool} {xs : List α} {x : α}
    (h : (xs.filter p).getLast? = some x) (hp : ∀ y, label y = label x → p y = true) : IsLast label xs x := by
  obtain ⟨picked, hpicked⟩ := List.getLast?_eq_some_iff.1 h
  obtain ⟨before, rest, rfl, -, hrest⟩ := List.filter_eq_append_iff.1 hpicked
  obtain ⟨between, after, rfl, -, -, hafter⟩ := List.filter_eq_cons_iff.1 hrest
  refine ⟨before ++ between, after, (List.append_assoc ..).symm, fun y hy hlabel => ?_⟩
  exact List.filter_eq_nil_iff.1 hafter y hy (hp y hlabel)

/-- The columns of cells are last where the cells are. -/
theorem IsLast.column {cells : List Cell} {c : Cell} (h : IsLast Cell.label cells c) :
    IsLast (fun g : FieldRef => g.ref.label) (cells.map (·.1)) c.1 := by
  obtain ⟨before, after, rfl, hafter⟩ := h
  refine ⟨before.map (·.1), after.map (·.1), by rw [List.map_append, List.map_cons], fun g hg => ?_⟩
  obtain ⟨d, hd, rfl⟩ := List.mem_map.1 hg
  exact hafter d hd

namespace Schema

variable {s : Schema} {cells : List Cell} {f : Field}

/-! ## Columns under one label -/

/-- **Qualifiers behind which labels can be cut** are the same if the labels are, and the columns too. -/
theorem eq_of_label_eq {c d : ColumnRef} (hc : Separable c.qualifier) (hd : Separable d.qualifier)
    (h : c.label = d.label) : c = d := by
  have hsplit := splitLabel_eq_some_iff.2 ⟨toList_label c, hc⟩
  rw [h, splitLabel_eq_some_iff.2 ⟨toList_label d, hd⟩] at hsplit
  obtain ⟨hq, hcolumn⟩ := Prod.mk.inj (Option.some.inj hsplit)
  obtain ⟨q, column⟩ := c
  obtain ⟨q', column'⟩ := d
  cases String.toList_inj.1 hq
  cases String.toList_inj.1 hcolumn
  rfl

/-- The columns of a join are those of its tables. -/
theorem mem_joinColumns_iff {base : Schema} {joined : List Schema} {g : FieldRef} :
    g ∈ Exchange.joinColumns base joined ↔ ∃ t ∈ base :: joined, g ∈ t.refs := by
  simp only [Exchange.joinColumns, List.mem_append, List.mem_flatMap, List.mem_cons, exists_eq_or_imp]

/-- A selected column with the label of a field is a column of the field's table, if labels can be cut behind all
qualifiers and these are distinct. -/
theorem mem_refs_of_label_eq {base : Schema} {joined : List Schema} (hq : ((base :: joined).map (·.qualifier)).Nodup)
    (hseparable : ∀ t ∈ base :: joined, Separable t.qualifier) (hs : s ∈ base :: joined) {g : FieldRef}
    (hg : g ∈ Exchange.joinColumns base joined) (h : g.ref.label = (s.bind f).ref.label) :
    g ∈ s.refs ∧ g.column = f.column := by
  obtain ⟨t, ht, hgt⟩ := mem_joinColumns_iff.1 hg
  obtain ⟨g', hg', rfl⟩ := List.mem_map.1 hgt
  have href := eq_of_label_eq (c := (t.bind g').ref) (d := (s.bind f).ref) (hseparable t ht) (hseparable s hs) h
  obtain ⟨hqualifier, hcolumn⟩ := ColumnRef.mk.inj href
  cases List.inj_on_of_nodup_map hq ht hs hqualifier
  exact ⟨hgt, hcolumn⟩

/-! ## Values of rows -/

/-- **What a row says about a field** is the value of the last cell under the field's label. -/
theorem exists_isLast_of_get?_rowValues (hs : s.Checked) {name : String} {x : Json}
    (h : (s.rowValues (Row.ofCells cells)).get? name = some x) :
    ∃ f ∈ s.fields, f.name = name ∧ ∃ c, IsLast Cell.label cells c ∧ Cell.label c = (s.bind f).ref.label ∧
      x = c.2.toJson := by
  rw [rowValues, Keyed.get?_ofList, Option.map_eq_some_iff] at h
  obtain ⟨e, he, rfl⟩ := h
  -- the entry belongs to a field
  obtain ⟨hmem, hname⟩ := List.mem_filter.1 (List.mem_of_getLast? he)
  obtain ⟨column, -, hcolumn⟩ := List.mem_filterMap.1 hmem
  obtain ⟨f, hf, rfl⟩ := Option.map_eq_some_iff.1 hcolumn
  obtain ⟨hseparable, hleads, -⟩ := fieldOfLabel?_eq_some_iff.1 hf
  have hmemf : f ∈ s.fields := hleads.mem
  cases beq_iff_eq.1 hname
  -- the entries of the field are those of the cells under its label
  rw [filter_rowEntries hs hmemf, Row.ofCells, List.filter_map, List.map_map, List.getLast?_map,
    Option.map_eq_some_iff] at he
  obtain ⟨c, hc, hentry⟩ := he
  have hlabel : ∀ d : Cell, s.fieldOfLabel? (Cell.label d) = some f ↔ Cell.label d = (s.bind f).ref.label := fun d =>
    fieldOfLabel?_eq_some_iff.trans ⟨fun h => h.2.2, fun h => ⟨hseparable, hleads, h⟩⟩
  have hcf := (hlabel c).1 (of_decide_eq_true (List.mem_filter.1 (List.mem_of_getLast? hc)).2)
  refine ⟨f, hmemf, rfl, c, isLast_of_getLast?_filter hc fun d hd => ?_, hcf, (Prod.mk.inj hentry).2.symm⟩
  exact decide_eq_true ((hlabel d).2 (hd.trans hcf))

/-- **A record value that was read from a row** takes its values from the cells. -/
theorem Checked.takes (hs : s.Checked) {tables : List Schema} {o : RecordValue}
    (hseparable : ∀ f ∈ s.fields, ∀ c ∈ cells, (∀ t ∈ tables, Separable t.qualifier) →
      Cell.label c = (s.bind f).ref.label → c.1 ∈ s.refs ∧ c.1.column = f.column)
    (h : s.readRow (Row.ofCells cells) = .ok o) : s.Takes tables cells o := by
  intro name v hv
  obtain ⟨ms, vs, hms, hvs, rfl⟩ := validate_ok h
  cases hms
  rcases get?_validateMembers hvs name with ⟨-, hnone⟩ | ⟨x, w, hx, hw, hvalid⟩
  · cases hnone.symm.trans hv
  · cases hw.symm.trans hv
    obtain ⟨f, hf, rfl, c, hlast, hlabel, rfl⟩ := exists_isLast_of_get?_rowValues hs hx
    obtain ⟨g, hg, -, hcoerce⟩ := validateValue_eq_ok_iff.1 hvalid
    cases (hs.field?_of_mem hf).symm.trans hg
    refine ⟨f, hf, rfl, c, hlast, hlabel, hcoerce, ⟨fun hown => hown ▸ hlast.column, fun hown => ?_⟩, fun ht => ?_⟩
    · exact hlast.column.unique hown hlabel
    · exact hseparable f hf c hlast.mem ht hlabel

end Schema

/-! ## Joined rows -/

theorem Schema.readRow_of_readMatch {s : Schema} {r : Row} {found : Option RecordValue} (h : s.readMatch r = .ok found) :
    ∀ o ∈ found, s.readRow r = .ok o := by
  rintro o rfl
  unfold readMatch at h
  split at h
  · cases h
  · cases hr : s.readRow r with
    | error e => rw [hr] at h; cases h
    | ok o' => rw [hr] at h; cases h; rfl

/-- **A row of joined tables takes its values from the cells.** -/
theorem JoinedRow.attributed_of_read {base : Schema} {joined : List Schema} {cells : List Cell} {row : JoinedRow}
    (hmade : ∀ s ∈ base :: joined, s.Made) (hq : ((base :: joined).map (·.qualifier)).Nodup)
    (hcells : ∀ c ∈ cells, c.1 ∈ Exchange.joinColumns base joined)
    (h : JoinedRow.read base joined (Row.ofCells cells) = .ok row) : row.Attributed base joined cells := by
  have htakes : ∀ s ∈ base :: joined, ∀ o, s.readRow (Row.ofCells cells) = .ok o → s.Takes (base :: joined) cells o :=
    fun s hs o ho => (hmade s hs).checked.takes
      (fun f _ c hc hseparable => Schema.mem_refs_of_label_eq hq hseparable hs (hcells c hc)) ho
  obtain ⟨first, hfirst, h⟩ := bind_eq_ok_iff.1 h
  obtain ⟨others, hothers, h⟩ := bind_eq_ok_iff.1 h
  cases h
  refine ⟨htakes base List.mem_cons_self first hfirst, forall₂_of_mapM (fun s hs found hfound o ho => ?_) hothers⟩
  exact htakes s (List.mem_cons_of_mem _ hs) o (Schema.readRow_of_readMatch hfound o ho)

/-- **The rows of a join take their values from the cells that were read**: each value of a record value is that of
the last cell under the label of its field. It is the field's own cell exactly if no column that is selected later has
the same label, and a cell of the same table and column if labels can be cut behind the qualifiers of all tables. -/
theorem selectJoin_attributed {σ : Type} {db : Database σ} {state : σ} {base : Schema} {joined : List Schema}
    {joins : List Join} {filter : Option Predicate} {q : Statement} {results : List (List Cell)} {rows : List JoinedRow}
    (hmade : ∀ s ∈ base :: joined, s.Made) (hq : ((base :: joined).map (·.qualifier)).Nodup)
    (hbuild : Assembly.selectJoin base (Exchange.joinColumns base joined) joins filter = .ok q)
    (hanswer : (db.query q state).1 = .ok (results.map Row.ofCells))
    (hcells : ∀ cells ∈ results, ∀ c ∈ cells, c.1 ∈ Exchange.joinColumns base joined)
    (hrows : ((Exchange.selectJoin base joined joins filter).run db state).result = .ok rows) :
    List.Forall₂ (JoinedRow.Attributed base joined) results rows := by
  rw [Exchange.selectJoin, hbuild, Exchange.run_ask_ok, hanswer] at hrows
  replace hrows : (results.map Row.ofCells).mapM (JoinedRow.read base joined) = .ok rows := hrows
  rw [List.mapM_map] at hrows
  exact forall₂_of_mapM (fun cells hc row h => JoinedRow.attributed_of_read hmade hq (hcells cells hc) h) hrows

/-- Orders, each of a customer. -/
def orders : Schema :=
  ⟨"orders", "orders",
    [{ name := "ID", column := "id", type := .signed .w64 },
      { name := "Customer", column := "customer", type := .signed .w64 }]⟩

/-- Customers under an alias, whose keys have the same column as those of the orders. -/
def customers : Schema :=
  ⟨"customers", "c",
    [{ name := "ID", column := "id", type := .signed .w64 }, { name := "Name", column := "name", type := .text }]⟩

/-- An order of a customer. -/
def orderCells : List Cell :=
  List.zip (Exchange.joinColumns orders [customers]) [.int 7, .int 3, .int 3, .text "Ada"]

def orderRow : JoinedRow :=
  ⟨⟨"orders", [("Customer", .int { val := 3 }), ("ID", .int { val := 7 })]⟩,
    [some ⟨"customers", [("ID", .int { val := 3 }), ("Name", .string "Ada")]⟩]⟩

/-- The key of an order and that of its customer stand in a column of one name, and each is read from its own table. -/
theorem selectJoin_attributed_order :
    let join : Join := .of .inner ⟨"orders", "orders", "customer", "Customer", .signed .w64⟩
      ⟨"customers", "c", "id", "ID", .signed .w64⟩ none
    ((Exchange.selectJoin orders [customers] [join] none).run Reply.database
        [.answer [Row.ofCells orderCells] {}]).result = .ok [orderRow] ∧
      List.Forall₂ (JoinedRow.Attributed orders [customers]) [orderCells] [orderRow] := by
  intro join
  have horders : Schema.new orders.table orders.fields = .ok orders := rfl
  have hcustomers : Schema.new customers.table customers.fields = .ok ⟨"customers", "customers", customers.fields⟩ := rfl
  have hmade : ∀ s ∈ [orders, customers], s.Made :=
    List.forall_mem_cons.2 ⟨.new horders, List.forall_mem_singleton.2 (.aliased (.new hcustomers) "c")⟩
  have hrows : ((Exchange.selectJoin orders [customers] [join] none).run Reply.database
      [.answer [Row.ofCells orderCells] {}]).result = .ok [orderRow] := rfl
  refine ⟨hrows, selectJoin_attributed hmade (by decide) rfl rfl ?_ hrows⟩
  exact List.forall_mem_singleton.2 fun c hc => (List.of_mem_zip hc).1

/-- A table whose name with that of its column is the name of another table with its column. -/
def log : Schema :=
  ⟨"log", "log",
    [{ name := "ID", column := "id", type := .signed .w64, primaryKey := true },
      { name := "Summary", column := "entry__text", type := .text }]⟩

def logEntry : Schema :=
  ⟨"log__entry", "log__entry",
    [{ name := "ID", column := "id", type := .signed .w64, primaryKey := true },
      { name := "Text", column := "text", type := .text }]⟩

/-- **A value of one table is taken for that of another**: their labels are the same, and the last one counts. The
table that it was read from does not even seem to have a match. -/
theorem selectJoin_misattributed :
    let join : Join := .of .inner ⟨"log", "log", "id", "ID", .signed .w64⟩
      ⟨"log__entry", "log__entry", "id", "ID", .signed .w64⟩ none
    let cells : List Cell := List.zip (Exchange.joinColumns log [logEntry]) [.int 1, .text "mine", .int 1, .text "other"]
    let row : JoinedRow := ⟨⟨"log", [("ID", .int { val := 1 }), ("Summary", .string "other")]⟩, [none]⟩
    (∀ s ∈ [log, logEntry], s.Made) ∧ ([log, logEntry].map (·.qualifier)).Nodup ∧
      cells.map (·.1) = Exchange.joinColumns log [logEntry] ∧
      ((Exchange.selectJoin log [logEntry] [join] none).run Reply.database [.answer [Row.ofCells cells] {}]).result =
        .ok [row] ∧
      row.base.get? "Summary" = some (.string "other") ∧
      ∀ c ∈ cells, c.1 ∈ log.refs → c.2.toJson ≠ .string "other" := by
  intro join cells row
  have hlog : Schema.new log.table log.fields = .ok log := rfl
  have hlogEntry : Schema.new logEntry.table logEntry.fields = .ok logEntry := rfl
  have hmade : ∀ s ∈ [log, logEntry], s.Made :=
    List.forall_mem_cons.2 ⟨.new hlog, List.forall_mem_singleton.2 (.new hlogEntry)⟩
  refine ⟨hmade, by decide, rfl, rfl, rfl, ?_⟩
  exact List.forall_mem_cons.2 ⟨fun _ => nofun, List.forall_mem_cons.2
    ⟨fun _ h => absurd (Json.string.inj h) (by decide), List.forall_mem_cons.2
      ⟨fun _ => nofun, List.forall_mem_singleton.2 fun h => absurd h (by decide)⟩⟩⟩

end SchemaSql
