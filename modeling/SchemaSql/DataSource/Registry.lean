import SchemaSql.Error
import SchemaSql.Keyed

/-!
# Registries

A registry maps names to data sources. The first source under a name stays until all of them are closed;
later ones are not taken. What opening and closing do to the sources themselves is a state that the
operations hand on.
-/

namespace SchemaSql

/-- **How a data source is opened.** -/
structure DataSourceConfig where
  url : String
  name : String := "default"
  maxConnections : UInt32 := 5

/-- **Data sources by their names.** -/
abbrev Registry (α : Type) := Keyed α

/-- **What a connection came to**: the source that was there, or a new one. -/
inductive Connection (α : Type) where
  | existing (source : α)
  | opened (source : α)

namespace Registry

variable {α σ : Type}

/-- The name under which the default source stands. -/
def defaultName : String := "default"

/-- The source under a name. -/
def source? (r : Registry α) (name : String) : Option α :=
  Keyed.get? r name

/-- The default source. -/
def default? (r : Registry α) : Option α :=
  r.source? defaultName

/-- The names in order. -/
def names (r : Registry α) : List String :=
  Keyed.keys r

/-- **Puts a source under a name** unless there is one, and says whether it did. -/
def register (r : Registry α) (name : String) (source : α) : Bool × Registry α :=
  match r.source? name with
  | some _ => (false, r)
  | none => (true, Keyed.insert r name source)

/-- **The source under a name after registering one**: the first one stays. -/
theorem source?_register (r : Registry α) (name : String) (source : α) (other : String) :
    (r.register name source).2.source? other = (r.source? other).or (if other = name then some source else none) := by
  unfold register
  cases h : r.source? name with
  | none =>
    show (Keyed.insert r name source).get? other = _
    rw [Keyed.get?_insert]
    by_cases ho : other = name
    · rw [ho, h, if_pos rfl, if_pos rfl, Option.none_or]
    · rw [if_neg ho, if_neg ho, Option.or_none]; rfl
  | some s =>
    by_cases ho : other = name
    · rw [ho, h, Option.some_or]
    · rw [if_neg ho, Option.or_none]

/-- Registering succeeds exactly where there is no source. -/
theorem register_fst (r : Registry α) (name : String) (source : α) :
    (r.register name source).1 = (r.source? name).isNone := by
  simp only [register]
  split <;> simp [*]

/-- **Opens a source and puts it under its name.** Nothing is opened if the name is taken, and nothing is
put there if opening fails. -/
def connect (r : Registry α) (opening : DataSourceConfig → σ → Except Error α × σ) (config : DataSourceConfig)
    (state : σ) : Except Error (Connection α) × Registry α × σ :=
  match r.source? config.name with
  | some s => (.ok (.existing s), r, state)
  | none =>
    match opening config state with
    | (.error e, state) => (.error e, r, state)
    | (.ok s, state) => (.ok (.opened s), (r.register config.name s).2, state)

/-- Closes sources one after the other, and returns the first error of any. -/
def closeEach (closing : α → σ → Except Error Unit × σ) : List α → σ → Except Error Unit × σ
  | [], state => (.ok (), state)
  | s :: sources, state =>
    let (result, state) := closing s state
    let (rest, state) := closeEach closing sources state
    (match result with
      | .error e => .error e
      | .ok _ => rest, state)

/-- **Closes all sources**, even if some of them fail, and leaves the registry empty. -/
def closeAll (r : Registry α) (closing : α → σ → Except Error Unit × σ) (state : σ) :
    Except Error Unit × Registry α × σ :=
  let (result, state) := closeEach closing (r.map (·.2)) state
  (result, [], state)

end Registry

end SchemaSql
