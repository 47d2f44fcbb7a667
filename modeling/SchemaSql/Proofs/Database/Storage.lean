import Mathlib.Data.List.Forall2
import SchemaSql.Database.Sqlite
import SchemaSql.Proofs.Scalar.Canonical

/-!
# Values through SQLite

A value that a type keeps is bound as a parameter, stored in one of five classes, scanned from a row and coerced to
its type again. The types come back through fewer classes, so that truth values return as integers and instants as
texts, and coercion makes the same values of them. The one value that does not come back is refused before: an integer
above 63 bits, and with it the whole statement.
-/

namespace SchemaSql

namespace ScalarType

/-- **A value is its own coercion** exactly if the type keeps it. -/
theorem coerce_eq_self_iff {t : ScalarType} {v : Json} : t.coerce v = .ok v ↔ t.Canonical v := by
  refine ⟨fun h => canonical_of_coerce h fun hyear => ?_, Canonical.coerce⟩
  obtain ⟨e, he⟩ := coerce_of_leavesYears h hyear
  cases h.symm.trans he

end ScalarType

namespace Sqlite

/-- **A value that SQLite can store**: any but an integer above the signed ones of 64 bits. -/
def Storable (v : Json) : Prop :=
  ∀ n, v = .int n → n.val ≤ 9223372036854775807

/-- **A statement that gives its parameters back** in one row, in the classes and with the contents that they have. -/
def Engine.Echoes {σ : Type} (engine : Engine σ) (sql : String) (labels : List String) : Prop :=
  ∀ vs state, vs.length = labels.length → engine.query sql vs state = (.ok [labels.zip vs], state)

/-- **The value of a column restores a value** of a type: coercion makes it from the column. -/
def Restores (cell : ScalarType × Json) (column : SqlValue) : Prop :=
  cell.1.coerce column.toJson = .ok cell.2

/-! ## Binding -/

theorem bind_int (n : Json.Integer) :
    bind (.int n) = if n.val < 9223372036854775808 then .ok (.integer (Int64.ofInt n.val))
      else .error (.validation (.beyondSqliteRange n.val)) := rfl

/-- **Integers above 63 bits are refused**, and nothing else is. -/
theorem bind_refuses_iff {v : Json} {e : Error} :
    bind v = .error e ↔
      ∃ n, v = .int n ∧ 9223372036854775807 < n.val ∧ e = .validation (.beyondSqliteRange n.val) := by
  constructor
  · intro h
    cases v with
    | int n =>
      rw [bind_int] at h
      split at h
      · cases h
      · rename_i hn
        cases h
        exact ⟨n, rfl, by omega, rfl⟩
    | _ => cases h
  · rintro ⟨n, rfl, hn, rfl⟩
    rw [bind_int, if_neg (by omega)]

theorem storable_iff_bind {v : Json} : Storable v ↔ ∃ w, bind v = .ok w := by
  constructor
  · intro hv
    cases h : bind v with
    | ok w => exact ⟨w, rfl⟩
    | error e =>
      obtain ⟨n, rfl, hn, -⟩ := bind_refuses_iff.1 h
      exact absurd (hv n rfl) (by omega)
  · rintro ⟨w, hw⟩ n rfl
    refine Int.not_lt.1 fun hn => ?_
    cases hw.symm.trans (bind_refuses_iff.2 ⟨n, rfl, hn, rfl⟩)

/-- An integer comes back from 64 bits. -/
theorem jsonInteger_ofInt {n : Json.Integer} (h : n.val ≤ 9223372036854775807) :
    SqlValue.jsonInteger (Int64.ofInt n.val) = n := by
  have hval : (Int64.ofInt n.val).toInt = n.val := Int64.toInt_ofInt_of_le n.lower (by omega)
  obtain ⟨val, lower, upper⟩ := n
  simp only [SqlValue.jsonInteger, hval]

/-- **A value that a type keeps comes back**, if it can be stored. -/
theorem restores_of_bind {t : ScalarType} {v : Json} {w : Stored} (hv : t.Canonical v) (hw : bind v = .ok w) :
    Restores (t, v) w.scan := by
  rw [Restores]
  cases hv with
  | null => cases hw; rfl
  | @int t r ht n hlow hhigh =>
    have hn := storable_iff_bind.2 ⟨w, hw⟩ n rfl
    rw [bind_int, if_pos (by omega)] at hw
    cases hw
    simp only [Stored.scan, SqlValue.toJson, jsonInteger_ofInt hn]
    exact (ScalarType.Canonical.int ht hlow hhigh).coerce
  | float ht x => cases hw; exact (ScalarType.Canonical.float ht x).coerce
  | bool b => cases hw; cases b <;> rfl
  | text s => cases hw; rfl
  | instant hi => cases hw; exact (ScalarType.Canonical.instant hi).coerce

/-! ## Argument lists -/

/-- **One refused argument refuses the whole list**, with the error of the first. -/
theorem bindAll_refuses {args : List Json} (h : ∃ v ∈ args, ¬ Storable v) :
    ∃ n, .int n ∈ args ∧ 9223372036854775807 < n.val ∧
      bindAll args = .error (.validation (.beyondSqliteRange n.val)) := by
  induction args with
  | nil =>
    obtain ⟨v, hv, -⟩ := h
    exact absurd hv List.not_mem_nil
  | cons v args ih =>
    cases hv : bind v with
    | error e =>
      obtain ⟨n, rfl, hn, rfl⟩ := bind_refuses_iff.1 hv
      exact ⟨n, List.mem_cons_self, hn, by rw [bindAll, List.mapM_cons, hv]; rfl⟩
    | ok w =>
      have hrest : ∃ u ∈ args, ¬ Storable u := by
        obtain ⟨u, hu, hnot⟩ := h
        rcases List.mem_cons.1 hu with rfl | hu
        · exact absurd (storable_iff_bind.2 ⟨w, hv⟩) hnot
        · exact ⟨u, hu, hnot⟩
      obtain ⟨n, hmem, hn, hargs⟩ := ih hrest
      refine ⟨n, List.mem_cons_of_mem _ hmem, hn, ?_⟩
      rw [bindAll] at hargs
      rw [bindAll, List.mapM_cons, hv, hargs]
      rfl

/-- Cells that can all be stored are bound, each to a value from which it comes back. -/
theorem bindAll_canonical {cells : List (ScalarType × Json)} (hcells : ∀ c ∈ cells, c.1.coerce c.2 = .ok c.2)
    (hstorable : ∀ c ∈ cells, Storable c.2) :
    ∃ ws, bindAll (cells.map (·.2)) = .ok ws ∧
      List.Forall₂ (fun c w => Restores c w.scan) cells ws := by
  induction cells with
  | nil => exact ⟨[], rfl, .nil⟩
  | cons c cells ih =>
    obtain ⟨hc, hcells⟩ := List.forall_mem_cons.1 hcells
    obtain ⟨hfirst, hstorable⟩ := List.forall_mem_cons.1 hstorable
    obtain ⟨w, hw⟩ := storable_iff_bind.1 hfirst
    obtain ⟨ws, hws, hback⟩ := ih hcells hstorable
    refine ⟨w :: ws, ?_, .cons (restores_of_bind (ScalarType.coerce_eq_self_iff.1 hc) hw) hback⟩
    rw [bindAll] at hws
    rw [bindAll, List.map_cons, List.mapM_cons, hw, hws]
    rfl

/-- A row under labels has the values that stand under them. -/
theorem restores_scanRow {cells : List (ScalarType × Json)} {ws : List Stored}
    (h : List.Forall₂ (fun c w => Restores c w.scan) cells ws) {labels : List String}
    (hlabels : ws.length = labels.length) :
    (scanRow (labels.zip ws)).map (·.1) = labels ∧
      List.Forall₂ (fun c column => Restores c column.2) cells (scanRow (labels.zip ws)) := by
  induction h generalizing labels with
  | nil =>
    cases labels with
    | nil => exact ⟨rfl, .nil⟩
    | cons label labels => cases hlabels
  | @cons c w cells ws hfirst _ ih =>
    cases labels with
    | nil => cases hlabels
    | cons label labels =>
      obtain ⟨hnames, hrest⟩ := ih (Nat.succ.inj hlabels)
      exact ⟨congrArg (label :: ·) hnames, .cons hfirst hrest⟩

/-! ## Statements -/

variable {σ : Type}

/-- **No statement runs with a refused argument**, whatever the engine. -/
theorem database_refuses (engine : Engine σ) {s : Statement} (h : ∃ v ∈ s.args, ¬ Storable v) (state : σ) :
    ∃ n, .int n ∈ s.args ∧ 9223372036854775807 < n.val ∧
      (database engine).query s state = (.error (.validation (.beyondSqliteRange n.val)), state) ∧
      (database engine).execute s state = (.error (.validation (.beyondSqliteRange n.val)), state) := by
  obtain ⟨n, hmem, hn, hargs⟩ := bindAll_refuses h
  exact ⟨n, hmem, hn, by simp only [database, hargs], by simp only [database, hargs]⟩

/-- **Values that types keep survive SQLite.** If a statement gives its parameters back as they are stored, the values
of its row are coerced to the arguments again. An argument is refused exactly if it is an integer above 63 bits, and
with it every statement, before any engine sees it. -/
theorem canonical_survives {engine : Engine σ} {sql : String} {labels : List String}
    (hecho : engine.Echoes sql labels) {cells : List (ScalarType × Json)} (hcount : cells.length = labels.length)
    (hcells : ∀ c ∈ cells, c.1.coerce c.2 = .ok c.2) :
    (∀ c ∈ cells, ∀ e, bind c.2 = .error e ↔
      ∃ n, c.2 = .int n ∧ 9223372036854775807 < n.val ∧ e = .validation (.beyondSqliteRange n.val)) ∧
    ((∀ c ∈ cells, Storable c.2) → ∀ state, ∃ row,
      (database engine).query ⟨sql, cells.map (·.2)⟩ state = (.ok [row], state) ∧ row.map (·.1) = labels ∧
        List.Forall₂ (fun c column => Restores c column.2) cells row) ∧
    (∀ {τ : Type} (other : Engine τ) (s : Statement), (∃ v ∈ s.args, ¬ Storable v) → ∀ state,
      ∃ n, .int n ∈ s.args ∧ 9223372036854775807 < n.val ∧
        (database other).query s state = (.error (.validation (.beyondSqliteRange n.val)), state) ∧
        (database other).execute s state = (.error (.validation (.beyondSqliteRange n.val)), state)) := by
  refine ⟨fun c _ e => bind_refuses_iff, fun hstorable state => ?_, fun other s h state => database_refuses other h state⟩
  obtain ⟨ws, hbound, hback⟩ := bindAll_canonical hcells hstorable
  have hlength : ws.length = labels.length := hback.length_eq.symm.trans hcount
  obtain ⟨hnames, hvalues⟩ := restores_scanRow hback hlength
  refine ⟨scanRow (labels.zip ws), ?_, hnames, hvalues⟩
  simp only [database, hbound, hecho ws state hlength]
  rfl

/-- The engine that gives the parameters of every query back, under given labels. -/
def returning (labels : List String) : Engine Unit where
  query _ vs state := (.ok [labels.zip vs], state)
  execute _ _ state := (.ok {}, state)

/-- Values at the ends of their types, of which SQLite keeps two under another class. -/
def endValues : List (ScalarType × Json) :=
  [(.unsigned .w64, .int ⟨9223372036854775807, by decide, by decide⟩), (.bool, .bool true),
    (.float64, .float (.zero true)), (.dateTime, .string "2016-12-31T23:59:60.500+00:00"), (.signed .w8, .null)]

/-- An unsigned integer that a type keeps and SQLite does not. -/
def tooGreat : Json :=
  .int ⟨9223372036854775808, by decide, by decide⟩

/-- Values at the ends of their types come back, and the next integer is refused with all that stands beside it. -/
theorem canonical_survives_endValues :
    let labels := ["c0", "c1", "c2", "c3", "c4"]
    let sql := "SELECT ? AS c0, ? AS c1, ? AS c2, ? AS c3, ? AS c4"
    (∀ c ∈ endValues, c.1.coerce c.2 = .ok c.2) ∧
      (∃ row, (database (returning labels)).query ⟨sql, endValues.map (·.2)⟩ () = (.ok [row], ()) ∧
        row.map (·.1) = labels ∧ List.Forall₂ (fun c column => Restores c column.2) endValues row) ∧
      (ScalarType.unsigned .w64).coerce tooGreat = .ok tooGreat ∧
      ∃ n, (database (returning [])).execute ⟨"INSERT INTO t VALUES (?, ?)", [.null, tooGreat]⟩ () =
        (.error (.validation (.beyondSqliteRange n)), ()) := by
  have hcells : ∀ c ∈ endValues, c.1.coerce c.2 = .ok c.2 := by
    unfold endValues
    simp only [List.forall_mem_cons]
    exact ⟨rfl, rfl, rfl, rfl, rfl, List.forall_mem_nil _⟩
  have hstorable : ∀ c ∈ endValues, Storable c.2 := by
    unfold endValues
    simp only [List.forall_mem_cons, storable_iff_bind]
    exact ⟨⟨_, rfl⟩, ⟨_, rfl⟩, ⟨_, rfl⟩, ⟨_, rfl⟩, ⟨_, rfl⟩, List.forall_mem_nil _⟩
  have hrefused : ∃ v ∈ [Json.null, tooGreat], ¬ Storable v :=
    ⟨tooGreat, List.mem_cons_of_mem _ List.mem_cons_self, fun h => absurd (h _ rfl) (by decide)⟩
  have hecho : (returning ["c0", "c1", "c2", "c3", "c4"]).Echoes
      "SELECT ? AS c0, ? AS c1, ? AS c2, ? AS c3, ? AS c4" ["c0", "c1", "c2", "c3", "c4"] := fun _ _ _ => rfl
  obtain ⟨-, hback, hrefuse⟩ := canonical_survives hecho rfl hcells
  obtain ⟨n, -, -, -, hexecute⟩ := hrefuse (returning []) ⟨"INSERT INTO t VALUES (?, ?)", [.null, tooGreat]⟩ hrefused ()
  exact ⟨hcells, hback hstorable (), rfl, n.val, hexecute⟩

end Sqlite

end SchemaSql
