import SchemaSql.Proofs.Statement.Assembly

/-!
# Statements without their values

The shape of a predicate, a join or a request is what is left when every value in it is forgotten: the columns,
operators, connectives and tables stay, and so do the lengths of lists and the names for which there are values.
Building a statement forgets no more than that. `Request.build_shape` says that a request and its shape are
refused with the same error or get the same text, so that the text of a statement, and whether there is one, is
decided without looking at a value; `Request.sql_eq_of_shape_eq` is the same for two requests.
-/

namespace SchemaSql

/-! ## Fragments -/

/-- A piece without its value. -/
def Piece.shape : Piece → Piece
  | text s => text s
  | value _ => value .null

namespace Fragment

/-- A fragment without its values. -/
def shape (f : Fragment) : Fragment :=
  f.map Piece.shape

theorem sql_shape (f : Fragment) : f.shape.sql = f.sql := by
  have hpiece : Piece.sql ∘ Piece.shape = Piece.sql := by
    funext p
    cases p <;> rfl
  rw [sql, shape, List.map_map, hpiece, sql]

theorem shape_cons_text (t : String) (f : Fragment) : shape (.text t :: f) = .text t :: f.shape := rfl

theorem shape_append (f g : Fragment) : (f ++ g).shape = f.shape ++ g.shape :=
  List.map_append

theorem isEmpty_shape (f : Fragment) : f.shape.isEmpty = f.isEmpty := by
  cases f <;> rfl

theorem shape_joined (sep : String) (fs : List Fragment) : (joined sep fs).shape = joined sep (fs.map shape) := by
  fun_induction joined sep fs with
  | case1 => rfl
  | case2 f => rfl
  | case3 f g rest ih =>
    rw [shape_append, shape_cons_text, ih]
    rfl

theorem shape_values (vs : List Json) : (values vs).shape = values (vs.map fun _ => .null) := by
  rw [values, shape_joined, List.map_map, values, List.map_map]
  rfl

end Fragment

open Fragment

/-! ## Predicates -/

namespace Predicate

mutual
/-- **A predicate without its values.** -/
def shape : Predicate → Predicate
  | compare c op _ => compare c op .null
  | oneOf c vs => oneOf c (vs.map fun _ => .null)
  | nullCheck c isNull => nullCheck c isNull
  | sameColumns l r => sameColumns l r
  | group c members => group c (shapes members)
  | not inner => not inner.shape
  | existsIn source on => existsIn source (shapes on)
/-- Predicates without their values. -/
def shapes : List Predicate → List Predicate
  | [] => []
  | p :: ps => p.shape :: shapes ps
end

theorem shapes_eq_map (ps : List Predicate) : shapes ps = ps.map shape := by
  induction ps with
  | nil => rfl
  | cons p ps ih => rw [shapes, ih, List.map_cons]

theorem shape_grouped (c : Connective) (fs : List Fragment) :
    (grouped c fs).shape = grouped c (fs.map Fragment.shape) := by
  have hwritten : written (fs.map Fragment.shape) = (written fs).map Fragment.shape := by
    simp only [written, List.filter_map, Function.comp_def, isEmpty_shape]
  by_cases h : written fs = []
  · rw [grouped_eq_nil h, grouped_eq_nil (by rw [hwritten, h, List.map_nil])]
    rfl
  · rw [grouped_eq h, grouped_eq (by rwa [hwritten, ne_eq, List.map_eq_nil_iff]), hwritten, shape_append,
      shape_cons_text, shape_joined]
    rfl

theorem shape_negated (hasParentheses : Bool) (f : Fragment) :
    (negated hasParentheses f).shape = negated hasParentheses f.shape := by
  simp only [negated, isEmpty_shape]
  split
  · rfl
  · split
    · rfl
    · rw [shape_append, shape_cons_text]
      rfl

mutual
/-- **The text of a predicate is that of its shape**, piece by piece. -/
theorem render_shape : ∀ p : Predicate, p.shape.render = p.render.shape
  | compare _ _ _ => rfl
  | oneOf _ [] => rfl
  | oneOf c (v :: vs) => by
    rw [render, shape_append, shape_cons_text, shape_values]
    rfl
  | nullCheck _ _ => rfl
  | sameColumns _ _ => rfl
  | group c members => by
    rw [shape, render, render, shape_grouped, renderAll_shapes members]
  | not inner => by
    have hgroup : inner.shape.isGroup = inner.isGroup := by cases inner <;> rfl
    rw [shape, render, render, shape_negated, render_shape inner, hgroup]
  | existsIn source on => by
    rw [shape, render, render, shape_append, shape_cons_text, shape_grouped, renderAll_shapes on]
    rfl
theorem renderAll_shapes : ∀ ps : List Predicate, renderAll (shapes ps) = (renderAll ps).map Fragment.shape
  | [] => rfl
  | p :: ps => by rw [shapes, renderAll, renderAll, render_shape p, renderAll_shapes ps, List.map_cons]
end

theorem isEmpty_shape (p : Predicate) : p.shape.isEmpty = p.isEmpty := by
  rw [← isEmpty_render, render_shape, Fragment.isEmpty_shape, isEmpty_render]

theorem whereClause_shape (filter : Option Predicate) :
    whereClause (filter.map shape) = (whereClause filter).shape := by
  cases filter with
  | none => rfl
  | some p =>
    simp only [whereClause, Option.map_some, render_shape, Fragment.isEmpty_shape]
    split <;> rfl

/-- **Which members a group has** does not depend on the values in them. -/
theorem shape_ofMembers (c : Connective) (members : List (Option Predicate)) :
    (ofMembers c members).shape = ofMembers c (members.map (Option.map shape)) := by
  have hkept : (members.map (Option.map shape)).filterMap id = (members.filterMap id).map shape := by
    rw [List.filterMap_map, List.map_filterMap]
    rfl
  simp only [ofMembers, shape, shapes_eq_map, hkept, List.filter_map, Function.comp_def, isEmpty_shape]

end Predicate

/-! ## Joins -/

namespace Join

/-- **A join without the values** of its predicates. -/
def shape (j : Join) : Join :=
  { j with on := Predicate.shapes j.on }

theorem clause_shape (j : Join) : j.shape.clause = j.clause.shape := by
  rw [clause, clause, shape_cons_text, condition, condition, Predicate.shape_grouped, ← Predicate.renderAll_shapes]
  rfl

theorem clauses_shape (js : List Join) :
    (js.map shape).flatMap (fun j => .text " " :: j.clause) =
      Fragment.shape (js.flatMap fun j => .text " " :: j.clause) := by
  induction js with
  | nil => rfl
  | cons j js ih =>
    rw [List.map_cons, List.flatMap_cons, List.flatMap_cons, ih, clause_shape, shape_append, shape_cons_text]

/-- **Whether a filter is added to a join** does not depend on the values in it. -/
theorem shape_filter (j : Join) (p : Predicate) : (j.filter p).shape = j.shape.filter p.shape := by
  simp only [filter, Predicate.isEmpty_shape]
  split
  · rfl
  · simp only [shape, Predicate.shapes_eq_map, List.map_append, List.map_cons, List.map_nil]

/-- **Whether two joins can be put together** does not depend on the values in them. -/
theorem shape_and (j k : Join) : (j.and k).map shape = j.shape.and k.shape := by
  by_cases h : k.source.table ≠ j.source.table ∨ k.qualifier ≠ j.qualifier
  · have hshape : k.shape.source.table ≠ j.shape.source.table ∨ k.shape.qualifier ≠ j.shape.qualifier := h
    rw [Join.and, Join.and, if_pos h, if_pos hshape]
    rfl
  · have hshape : ¬ (k.shape.source.table ≠ j.shape.source.table ∨ k.shape.qualifier ≠ j.shape.qualifier) := h
    rw [Join.and, Join.and, if_neg h, if_neg hshape]
    simp only [Except.map, shape, Predicate.shapes_eq_map, List.map_append]

end Join

/-! ## Builders -/

/-- **Values to write without the values**: what is left are the names for which there are any. -/
def ValueSource.shape (values : ValueSource) : ValueSource :=
  fun name => (values name).map fun _ => .null

namespace Build

variable {s : Schema} {os : Option Schema} {values : ValueSource} {filter : Option Predicate}

theorem required_shape (verb : Verb) (filter : Option Predicate) :
    required verb (filter.map Predicate.shape) = (required verb filter).map Fragment.shape := by
  cases filter with
  | none => rfl
  | some p =>
    simp only [required, Option.map_some, Predicate.render_shape, Fragment.isEmpty_shape]
    split <;> rfl

theorem assignments_shape (s : Schema) (values : ValueSource) :
    assignments s values.shape = (assignments s values).map fun c => (c.1, .null) := by
  simp only [assignments, ValueSource.shape, List.map_filterMap, Option.map_map]
  rfl

theorem someAssignments_shape (verb : Verb) (s : Schema) (values : ValueSource) :
    someAssignments verb s values.shape =
      (someAssignments verb s values).map (List.map fun c => (c.1, .null)) := by
  simp only [someAssignments, assignments_shape, List.isEmpty_map]
  split <;> rfl

theorem select_shape (os : Option Schema) (filter : Option Predicate) :
    select os (filter.map Predicate.shape) = (select os filter).map Fragment.shape := by
  simp only [select, Predicate.whereClause_shape]
  cases nonEmpty os <;> rfl

theorem selectJoin_shape (base : Schema) (columns : List FieldRef) (joins : List Join) (filter : Option Predicate) :
    selectJoin base columns (joins.map Join.shape) (filter.map Predicate.shape) =
      (selectJoin base columns joins filter).map Fragment.shape := by
  simp only [selectJoin, Join.clauses_shape, Predicate.whereClause_shape]
  split
  · rfl
  · simp only [Except.map, shape_append, shape_cons_text]

theorem insert_shape (s : Schema) (values : ValueSource) :
    insert s values.shape = (insert s values).map Fragment.shape := by
  simp only [insert, someAssignments_shape]
  cases someAssignments .insert s values with
  | error e => rfl
  | ok cs =>
    have hnames : (cs.map fun c => (c.1, Json.null)).map (·.1) = cs.map (·.1) := by
      rw [List.map_map]
      rfl
    have hvalues : (cs.map fun c => (c.1, Json.null)).map (·.2) = (cs.map (·.2)).map fun _ => .null := by
      rw [List.map_map, List.map_map]
      rfl
    simp only [bind, Except.bind, Except.map, hnames, hvalues, shape_append, shape_cons_text, shape_values]
    rfl

theorem update_shape (s : Schema) (values : ValueSource) (filter : Option Predicate) :
    update s values.shape (filter.map Predicate.shape) = (update s values filter).map Fragment.shape := by
  simp only [update, someAssignments_shape, required_shape]
  cases unaliased .update s with
  | error e => rfl
  | ok _ =>
    cases required .update filter with
    | error e => rfl
    | ok condition =>
      cases someAssignments .update s values with
      | error e => rfl
      | ok cs =>
        simp only [bind, Except.bind, Except.map, shape_append, shape_cons_text, shape_joined, List.map_map]
        rfl

theorem delete_shape (s : Schema) (filter : Option Predicate) :
    delete s (filter.map Predicate.shape) = (delete s filter).map Fragment.shape := by
  simp only [delete, required_shape]
  cases unaliased .delete s with
  | error e => rfl
  | ok _ => cases required .delete filter <;> rfl

theorem count_shape (s : Schema) (filter : Option Predicate) :
    count s (filter.map Predicate.shape) = (count s filter).map Fragment.shape := by
  simp only [count, Predicate.whereClause_shape]
  rfl

/-- A page ends in its window, whose bounds are values. -/
theorem selectPage_shape (os : Option Schema) (filter : Option Predicate) (page : Page) :
    (selectPage os (filter.map Predicate.shape) { page with limit := 0, offset := 0 }).map Fragment.sql =
      (selectPage os filter page).map Fragment.sql := by
  simp only [selectPage, select_shape]
  cases select os filter with
  | error e => rfl
  | ok rows =>
    cases nonEmpty os with
    | error e => rfl
    | ok s =>
      simp only [bind, Except.bind, Except.map, sql_append, sql_shape]
      rfl

end Build

namespace Request

/-- **A request without its values**: those of its predicates and of its row, and the bounds of its window. -/
def shape : Request → Request
  | select s filter => select s (filter.map Predicate.shape)
  | selectJoin base columns joins filter =>
    selectJoin base columns (joins.map Join.shape) (filter.map Predicate.shape)
  | insert s values => insert s values.shape
  | update s values filter => update s values.shape (filter.map Predicate.shape)
  | delete s filter => delete s (filter.map Predicate.shape)
  | count s filter => count s (filter.map Predicate.shape)
  | selectPage s filter page => selectPage s (filter.map Predicate.shape) { page with limit := 0, offset := 0 }

/-- **A request and its shape** are refused with the same error, or get the same text. -/
theorem build_shape (r : Request) : r.shape.build.map Fragment.sql = r.build.map Fragment.sql := by
  have hsql : ∀ {x y : Except Error Fragment}, x = y.map Fragment.shape →
      x.map Fragment.sql = y.map Fragment.sql := by
    rintro _ y rfl
    cases y with
    | error e => rfl
    | ok f => exact congrArg Except.ok f.sql_shape
  cases r with
  | select s filter => exact hsql (Build.select_shape s filter)
  | selectJoin base columns joins filter => exact hsql (Build.selectJoin_shape base columns joins filter)
  | insert s values => exact hsql (Build.insert_shape s values)
  | update s values filter => exact hsql (Build.update_shape s values filter)
  | delete s filter => exact hsql (Build.delete_shape s filter)
  | count s filter => exact hsql (Build.count_shape s filter)
  | selectPage s filter page => exact Build.selectPage_shape s filter page

/-- **Values never reach the text of a statement.** Two requests of one shape, whatever their values, are refused
with the same error, or get the same text. -/
theorem sql_eq_of_shape_eq {r r' : Request} (h : r.shape = r'.shape) :
    r.assemble.map Statement.sql = r'.assemble.map Statement.sql := by
  have hpieces (r : Request) : r.assemble.map Statement.sql = r.build.map Fragment.sql := by
    rw [assemble_eq]
    cases r.build <;> rfl
  rw [hpieces, hpieces, ← build_shape r, ← build_shape r', h]

/-- New values in the rows that have a match on a condition of its own: neither the values of the row nor those
of the predicate, of its list and of the match change the text. -/
theorem sql_eq_of_shape_eq_update :
    let total : FieldRef := ⟨"orders", "orders", "total", "Total", .text⟩
    let other (v : Json) : Join := (Join.of .inner total (total.aliased "o") none).filter (total.compare .eq v)
    let r (row v w x : Json) : Request :=
      .update ⟨"orders", "orders", [.plain "Total" .text]⟩ (.ofJson row)
        (some (.all [some (total.oneOf [v, w]), none, some (.not (other x).hasMatch)]))
    let r₁ := r (.object [("Total", .string "a")]) (.string "b") .null (.string "c")
    let r₂ := r (.object [("Total", .null)]) (.string "') OR ('1' = '1") (.bool true) (.string "?")
    r₁.shape = r₂.shape ∧ r₁.assemble.map Statement.sql = r₂.assemble.map Statement.sql := by
  intro total other r r₁ r₂
  have hvalues : (ValueSource.ofJson (.object [("Total", .string "a")])).shape =
      (ValueSource.ofJson (.object [("Total", .null)])).shape := by
    funext name
    by_cases h : "Total" = name <;>
      simp [ValueSource.shape, ValueSource.ofJson, Json.get?, Json.members?, Keyed.get?, h]
  have hshape : r₁.shape = r₂.shape :=
    congrArg (fun values => Request.update ⟨"orders", "orders", [.plain "Total" .text]⟩ values _) hvalues
  exact ⟨hshape, sql_eq_of_shape_eq hshape⟩

end Request

end SchemaSql
