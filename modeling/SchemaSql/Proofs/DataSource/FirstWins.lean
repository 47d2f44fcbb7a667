import Mathlib.Data.List.DropRight
import SchemaSql.DataSource.Registry
import SchemaSql.Proofs.Transcript

/-!
# Registries keep the first source under a name

A registry is asked for one thing after the other, with any outcomes of opening and closing. What it reported is a
history, and the history alone says which source stands under a name (`firstSince`): the first that was registered or
connected since all sources were closed. `Follows` says from the history what an action may report and do to the
world, without looking at a registry, and `FollowsAll` chains it over a run. The main statement is
`play_followsAll`: every run of a registry, of any length, follows its own history, and in the end the registry holds
what the history says.
-/

namespace SchemaSql.Registry

variable {α σ : Type}

/-- **How sources are opened and closed**, and what that does to the world. -/
structure Backend (α σ : Type) where
  opening : DataSourceConfig → σ → Except Error α × σ
  closing : α → σ → Except Error Unit × σ

/-- **What can be asked of a registry.** -/
inductive Action (α : Type) where
  | register (name : String) (source : α)
  | connect (config : DataSourceConfig)
  | get (name : String)
  | getDefault
  | list
  | closeAll

/-- **An action with what it reported.** -/
inductive Step (α : Type) where
  | register (name : String) (source : α) (added : Bool)
  | connect (config : DataSourceConfig) (result : Except Error (Connection α))
  | get (name : String) (found : Option α)
  | getDefault (found : Option α)
  | list (names : List String)
  | closeAll (result : Except Error Unit)

/-- **What came of one action**: its report, and the registry and the world that it left behind. -/
structure Taken (α σ : Type) where
  step : Step α
  registry : Registry α
  world : σ

/-- **What came of several actions.** -/
structure Played (α σ : Type) where
  steps : List (Step α)
  registry : Registry α
  world : σ

/-- Takes one action. -/
def act (b : Backend α σ) (r : Registry α) (world : σ) : Action α → Taken α σ
  | .register name source =>
    let (added, r) := r.register name source
    ⟨.register name source added, r, world⟩
  | .connect config =>
    let (result, r, world) := r.connect b.opening config world
    ⟨.connect config result, r, world⟩
  | .get name => ⟨.get name (r.source? name), r, world⟩
  | .getDefault => ⟨.getDefault r.default?, r, world⟩
  | .list => ⟨.list r.names, r, world⟩
  | .closeAll =>
    let (result, r, world) := r.closeAll b.closing world
    ⟨.closeAll result, r, world⟩

/-- **Takes actions one after the other.** -/
def play (b : Backend α σ) (r : Registry α) (world : σ) : List (Action α) → Played α σ
  | [] => ⟨[], r, world⟩
  | a :: actions =>
    let taken := act b r world a
    let rest := play b taken.registry taken.world actions
    { rest with steps := taken.step :: rest.steps }

/-! ## What a history says -/

namespace Step

def isClosing : Step α → Bool
  | closeAll _ => true
  | _ => false

/-- The source that a step registered or connected under a name, if it did so with success. -/
def source? (name : String) : Step α → Option α
  | register n source true => if n = name then some source else none
  | connect config (.ok (.opened source)) => if config.name = name then some source else none
  | connect config (.ok (.existing source)) => if config.name = name then some source else none
  | _ => none

end Step

/-- **The source under a name, as a history tells it**: the first that was registered or connected with success since
the last time that all were closed. -/
def firstSince (history : List (Step α)) (name : String) : Option α :=
  (history.rtakeWhile fun step => !step.isClosing).findSome? (Step.source? name)

/-- **The entries of a history**: each name once, with the source under it. -/
structure Entries (history : List (Step α)) (entries : List (String × α)) : Prop where
  names : (entries.map (·.1)).Nodup
  mem : ∀ name source, (name, source) ∈ entries ↔ firstSince history name = some source

/-- **What an action may report, and do to the world, after a history.** A world is left as it is unless a source is
opened or closed. Closing all closes the source of each entry once, in some order, whatever comes of the others. -/
def Follows (b : Backend α σ) (history : List (Step α)) (before : σ) : Action α → Step α → σ → Prop
  | .register name source, step, after =>
    step = .register name source (firstSince history name).isNone ∧ after = before
  | .connect config, step, after =>
    match firstSince history config.name with
    | some source => step = .connect config (.ok (.existing source)) ∧ after = before
    | none => step = .connect config ((b.opening config before).1.map .opened) ∧ after = (b.opening config before).2
  | .get name, step, after => step = .get name (firstSince history name) ∧ after = before
  | .getDefault, step, after => step = .getDefault (firstSince history defaultName) ∧ after = before
  | .list, step, after =>
    ∃ names : List String, step = .list names ∧ names.Pairwise (· < ·) ∧
      (∀ name, name ∈ names ↔ (firstSince history name).isSome) ∧ after = before
  | .closeAll, step, after =>
    ∃ entries results result, step = .closeAll result ∧ Entries history entries ∧
      transcript b.closing (entries.map (·.2)) before = (results, after) ∧ result = firstError results ∧
      ((∃ e, result = .error e) ↔ ∃ e, .error e ∈ results)

/-- **A run that follows the history before it**, which grows by each report. -/
inductive FollowsAll (b : Backend α σ) : List (Step α) → σ → List (Action α) → List (Step α) → σ → Prop
  | nil (history : List (Step α)) (world : σ) : FollowsAll b history world [] [] world
  | cons {history : List (Step α)} {before between after : σ} {a : Action α} {actions : List (Action α)}
      {step : Step α} {steps : List (Step α)} (first : Follows b history before a step between)
      (rest : FollowsAll b (history ++ [step]) between actions steps after) :
      FollowsAll b history before (a :: actions) (step :: steps) after

/-- **What stands under a name after one more step**: nothing after a closing, and otherwise what stood there or, if
nothing did, what the step brought. -/
theorem firstSince_concat (history : List (Step α)) (step : Step α) (name : String) :
    firstSince (history ++ [step]) name =
      if step.isClosing then none else (firstSince history name).or (step.source? name) := by
  rw [firstSince, List.rtakeWhile_concat]
  cases step.isClosing with
  | true => rfl
  | false =>
    have hstep : [step].findSome? (Step.source? name) = step.source? name := by
      rw [List.findSome?_cons]
      cases step.source? name <;> rfl
    simp only [Bool.not_false, if_true, Bool.false_eq_true, if_false, List.findSome?_append, hstep, firstSince]

/-! ## What a registry does -/

/-- Closing sources one after the other closes each of them, and fails with the first error. -/
theorem closeEach_eq (closing : α → σ → Except Error Unit × σ) (sources : List α) (world : σ) :
    closeEach closing sources world =
      (firstError (transcript closing sources world).1, (transcript closing sources world).2) := by
  induction sources generalizing world with
  | nil => rfl
  | cons source sources ih =>
    simp only [closeEach, transcript, ih]
    cases (closing source world).1 <;> rfl

/-- The names of a registry stay in order when a source is registered. -/
theorem sorted_register {r : Registry α} (h : Keyed.Sorted r) (name : String) (source : α) :
    Keyed.Sorted (r.register name source).2 := by
  unfold register
  split
  · exact h
  · exact h.insert name source

/-- **A registry holds what a history says**, its names in order. -/
structure Holds (r : Registry α) (history : List (Step α)) : Prop where
  sorted : Keyed.Sorted r
  found : ∀ name, r.source? name = firstSince history name

namespace Holds

variable {r : Registry α} {history : List (Step α)}

theorem nil : Holds ([] : Registry α) [] :=
  ⟨List.Pairwise.nil, fun _ => rfl⟩

/-- The entries of a registry are those of its history. -/
theorem entries (h : Holds r history) : Entries history r := by
  constructor
  · exact h.sorted.keys.imp String.ne_of_lt
  · intro name source
    rw [h.sorted.mem_iff, ← h.found]
    rfl

/-- A step that brings nothing leaves the registry as the history says. -/
theorem concat_of_source?_eq_none (h : Holds r history) {step : Step α} (hclosing : step.isClosing = false)
    (hsource : ∀ name, step.source? name = none) : Holds r (history ++ [step]) := by
  refine ⟨h.sorted, fun name => ?_⟩
  rw [firstSince_concat, hclosing, hsource, h.found, Option.or_none]
  rfl

/-- A registered source stands under its name if nothing stood there. -/
theorem concat_register (h : Holds r history) (name : String) (source : α) :
    Holds (r.register name source).2 (history ++ [.register name source (firstSince history name).isNone]) := by
  refine ⟨sorted_register h.sorted name source, fun other => ?_⟩
  rw [firstSince_concat, source?_register, h.found]
  cases hfirst : firstSince history name with
  | none => simp [Step.isClosing, Step.source?, eq_comm]
  | some first =>
    by_cases ho : other = name
    · subst ho
      simp [Step.isClosing, hfirst]
    · simp [Step.isClosing, Step.source?, ho]

/-- A source that is opened stands under its name if nothing stood there. -/
theorem concat_opened (h : Holds r history) (config : DataSourceConfig) (source : α) :
    Holds (r.register config.name source).2 (history ++ [.connect config (.ok (.opened source))]) := by
  refine ⟨sorted_register h.sorted config.name source, fun other => ?_⟩
  rw [firstSince_concat, source?_register, h.found]
  simp [Step.isClosing, Step.source?, eq_comm]

/-- A source that was there already stays. -/
theorem concat_existing (h : Holds r history) {config : DataSourceConfig} {source : α}
    (hfirst : firstSince history config.name = some source) :
    Holds r (history ++ [.connect config (.ok (.existing source))]) := by
  refine ⟨h.sorted, fun other => ?_⟩
  rw [firstSince_concat, h.found]
  by_cases ho : config.name = other
  · subst ho
    simp [Step.isClosing, hfirst]
  · simp [Step.isClosing, Step.source?, ho]

/-- Nothing is left after a closing. -/
theorem concat_closeAll (history : List (Step α)) (result : Except Error Unit) :
    Holds ([] : Registry α) (history ++ [.closeAll result]) := by
  refine ⟨List.Pairwise.nil, fun name => ?_⟩
  rw [firstSince_concat]
  rfl

end Holds

/-! ## Runs -/

variable {b : Backend α σ} {r : Registry α} {history : List (Step α)}

/-- A connection reuses the source that the history has, or opens one. -/
theorem Holds.act_connect (h : Holds r history) (config : DataSourceConfig) (world : σ) :
    let taken := act b r world (.connect config)
    Follows b history world (.connect config) taken.step taken.world ∧
      Holds taken.registry (history ++ [taken.step]) := by
  have hfound := h.found config.name
  cases hfirst : firstSince history config.name with
  | some source =>
    rw [hfirst] at hfound
    simp only [Follows, act, connect, hfound, hfirst]
    exact ⟨⟨trivial, trivial⟩, h.concat_existing hfirst⟩
  | none =>
    rw [hfirst] at hfound
    simp only [Follows, act, connect, hfound, hfirst]
    obtain ⟨result, after⟩ := b.opening config world
    cases result with
    | error e => exact ⟨⟨rfl, rfl⟩, h.concat_of_source?_eq_none rfl fun _ => rfl⟩
    | ok source => exact ⟨⟨rfl, rfl⟩, h.concat_opened config source⟩

/-- **One action follows the history**, and the registry then holds what the longer history says. -/
theorem Holds.act (h : Holds r history) (a : Action α) (world : σ) :
    let taken := act b r world a
    Follows b history world a taken.step taken.world ∧ Holds taken.registry (history ++ [taken.step]) := by
  cases a with
  | register name source =>
    have hadded : (r.register name source).1 = (firstSince history name).isNone := by rw [register_fst, h.found]
    simp only [Follows, Registry.act, hadded]
    exact ⟨⟨trivial, trivial⟩, h.concat_register name source⟩
  | connect config => exact h.act_connect config world
  | get name =>
    simp only [Follows, Registry.act, h.found]
    exact ⟨⟨trivial, trivial⟩, h.concat_of_source?_eq_none rfl fun _ => rfl⟩
  | getDefault =>
    simp only [Follows, Registry.act, default?, h.found]
    exact ⟨⟨trivial, trivial⟩, h.concat_of_source?_eq_none rfl fun _ => rfl⟩
  | list =>
    refine ⟨⟨r.names, rfl, h.sorted.keys, fun name => ?_, rfl⟩, h.concat_of_source?_eq_none rfl fun _ => rfl⟩
    rw [← h.found]
    exact h.sorted.mem_keys_iff
  | closeAll =>
    simp only [Follows, Registry.act, closeAll, closeEach_eq]
    exact ⟨⟨r, _, _, rfl, h.entries, rfl, rfl, firstError_eq_error_iff⟩, Holds.concat_closeAll history _⟩

/-- **A run follows the history that it continues.** The induction is on the actions; the history grows by the report
of each. -/
theorem Holds.play (h : Holds r history) (world : σ) (actions : List (Action α)) :
    let played := play b r world actions
    FollowsAll b history world actions played.steps played.world ∧
      Holds played.registry (history ++ played.steps) := by
  induction actions generalizing r history world with
  | nil =>
    refine ⟨.nil history world, ?_⟩
    rw [Registry.play, List.append_nil]
    exact h
  | cons a actions ih =>
    obtain ⟨hfollows, hholds⟩ := h.act (b := b) a world
    obtain ⟨hrest, hend⟩ := ih hholds (Registry.act b r world a).world
    rw [List.append_assoc, List.singleton_append] at hend
    exact ⟨.cons hfollows hrest, hend⟩

/-- A history that ends with a closing has no entries. -/
theorem Entries.eq_nil {entries : List (String × α)} (h : Entries history entries) {result : Except Error Unit}
    (hlast : history.getLast? = some (.closeAll result)) : entries = [] := by
  obtain ⟨earlier, rfl⟩ := List.getLast?_eq_some_iff.1 hlast
  apply List.eq_nil_iff_forall_not_mem.2
  rintro ⟨name, source⟩ hmem
  have hfirst := (h.mem name source).1 hmem
  rw [firstSince_concat] at hfirst
  cases hfirst

/-- **Every run of a registry follows its own history**: the first source under a name stays until all are closed,
whatever opening and closing come to. In the end the registry holds what the history says, and it is empty right
after a closing. -/
theorem play_followsAll (b : Backend α σ) (world : σ) (actions : List (Action α)) :
    let played := play b [] world actions
    FollowsAll b [] world actions played.steps played.world ∧ Entries played.steps played.registry ∧
      ∀ result, played.steps.getLast? = some (.closeAll result) → played.registry = [] := by
  obtain ⟨hfollows, hholds⟩ := Holds.nil.play (b := b) world actions
  exact ⟨hfollows, hholds.entries, fun _ hlast => hholds.entries.eq_nil hlast⟩

end SchemaSql.Registry
