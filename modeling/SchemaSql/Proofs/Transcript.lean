import SchemaSql.Error

/-!
# Transcripts

Things are handled one after the other, each on the state that those before it left behind, and whatever came
of those before it. The transcript holds what came of each. It says what was done to a state: handling nothing
leaves the state as it is, and every single handling has its place.
-/

namespace SchemaSql

variable {α σ : Type}

/-- **What came of handling each of a list once**, in order, and the state that was left behind. -/
def transcript (handle : α → σ → Except Error Unit × σ) : List α → σ → List (Except Error Unit) × σ
  | [], state => ([], state)
  | a :: as, state =>
    let (result, state) := handle a state
    let (results, state) := transcript handle as state
    (result :: results, state)

/-- **The first error among results**, if any is one. -/
def firstError : List (Except Error Unit) → Except Error Unit
  | [] => .ok ()
  | .ok _ :: results => firstError results
  | .error e :: _ => .error e

/-- There is a first error exactly if there is an error. -/
theorem firstError_eq_error_iff {results : List (Except Error Unit)} :
    (∃ e, firstError results = .error e) ↔ ∃ e, .error e ∈ results := by
  induction results with
  | nil => simp only [firstError, reduceCtorEq, exists_false, List.not_mem_nil]
  | cons r results ih =>
    cases r with
    | ok _ => simp only [firstError, ih, List.mem_cons, reduceCtorEq, false_or]
    | error e =>
      simp only [firstError]
      exact ⟨fun _ => ⟨e, List.mem_cons_self⟩, fun _ => ⟨e, rfl⟩⟩

end SchemaSql
