import Mathlib.Data.List.Forall2
import SchemaSql.Fallible

/-!
# Runs of a step over a list

A run succeeds with the results of all members (`mapM_eq_ok_iff`) or fails with the error of the first one that fails
(`mapM_eq_error_iff`). What a step establishes holds between the members and the results of a run.
-/

namespace SchemaSql

variable {ε α β : Type}

theorem exists_map_eq_ok_iff {x : Except ε α} {f : α → β} : (∃ b, x.map f = .ok b) ↔ ∃ a, x = .ok a := by
  cases x with
  | ok a => exact iff_of_true ⟨f a, rfl⟩ ⟨a, rfl⟩
  | error e => exact iff_of_false nofun nofun

theorem map_eq_error_iff {x : Except ε α} {f : α → β} {e : ε} : x.map f = .error e ↔ x = .error e := by
  cases x with
  | ok a => exact iff_of_false nofun nofun
  | error e' => exact ⟨fun h => congrArg _ (Except.error.inj h), fun h => congrArg _ (Except.error.inj h)⟩

/-- **What a step establishes** holds between the members of a list and the results of a run over it. -/
theorem forall₂_of_mapM {f : α → Except ε β} {R : α → β → Prop} {as : List α} {bs : List β}
    (hf : ∀ a ∈ as, ∀ b, f a = .ok b → R a b) (h : as.mapM f = .ok bs) : List.Forall₂ R as bs := by
  induction as generalizing bs with
  | nil => cases h; exact .nil
  | cons a as ih =>
    rw [List.mapM_cons] at h
    obtain ⟨b, hb, h⟩ := bind_eq_ok_iff.1 h
    obtain ⟨rest, hrest, h⟩ := bind_eq_ok_iff.1 h
    cases h
    exact .cons (hf a List.mem_cons_self b hb) (ih (fun a' ha' => hf a' (List.mem_cons_of_mem _ ha')) hrest)

/-- **A run succeeds** exactly with the results of all members, in their order. -/
theorem mapM_eq_ok_iff {f : α → Except ε β} {as : List α} {bs : List β} :
    as.mapM f = .ok bs ↔ List.Forall₂ (fun a b => f a = .ok b) as bs := by
  constructor
  · exact forall₂_of_mapM fun _ _ _ h => h
  · intro h
    induction h with
    | nil => rfl
    | cons ha _ ih => rw [List.mapM_cons, ha, ih]; rfl

/-- **A run fails** exactly with the error of the first member that fails, behind members that do not. -/
theorem mapM_eq_error_iff {f : α → Except ε β} {as : List α} {e : ε} :
    as.mapM f = .error e ↔
      ∃ before a after, as = before ++ a :: after ∧ (∀ b ∈ before, ∃ x, f b = .ok x) ∧ f a = .error e := by
  induction as with
  | nil =>
    refine iff_of_false nofun ?_
    rintro ⟨before, a, after, h, -⟩
    exact absurd h.symm (List.append_ne_nil_of_right_ne_nil _ (List.cons_ne_nil _ _))
  | cons a as ih =>
    rw [List.mapM_cons]
    constructor
    · intro h
      rcases bind_eq_error_iff.1 h with ha | ⟨x, hx, h⟩
      · exact ⟨[], a, as, rfl, fun _ hb => absurd hb List.not_mem_nil, ha⟩
      · rcases bind_eq_error_iff.1 h with hrest | ⟨_, -, h⟩
        · obtain ⟨before, b, after, rfl, hbefore, hb⟩ := ih.1 hrest
          exact ⟨a :: before, b, after, rfl, List.forall_mem_cons.2 ⟨⟨x, hx⟩, hbefore⟩, hb⟩
        · cases h
    · rintro ⟨before, b, after, h, hbefore, hb⟩
      rcases List.cons_eq_append_iff.1 h with ⟨rfl, h⟩ | ⟨rest, rfl, rfl⟩
      · cases h
        exact bind_eq_error_iff.2 (.inl hb)
      · obtain ⟨⟨x, hx⟩, hrest⟩ := List.forall_mem_cons.1 hbefore
        exact bind_eq_error_iff.2 (.inr ⟨x, hx, bind_eq_error_iff.2 (.inl (ih.2 ⟨rest, b, after, rfl, hrest, hb⟩))⟩)

/-- **A run over a list** succeeds with the result of each member, or fails with the error of one. -/
theorem mapM_cases (f : α → Except ε β) (as : List α) :
    (∃ bs, as.mapM f = .ok bs ∧ List.Forall₂ (fun a b => f a = .ok b) as bs) ∨
      ∃ a ∈ as, ∃ e, f a = .error e ∧ as.mapM f = .error e := by
  cases h : as.mapM f with
  | ok bs => exact .inl ⟨bs, rfl, mapM_eq_ok_iff.1 h⟩
  | error e =>
    obtain ⟨before, a, after, rfl, -, ha⟩ := mapM_eq_error_iff.1 h
    exact .inr ⟨a, List.mem_append_right _ List.mem_cons_self, e, ha, rfl⟩

/-- **Whether a run succeeds** is a matter of each member. -/
theorem exists_mapM_iff {f : α → Except ε β} {as : List α} :
    (∃ bs, as.mapM f = .ok bs) ↔ ∀ a ∈ as, ∃ b, f a = .ok b := by
  constructor
  · rintro ⟨bs, h⟩ a ha
    have hall := mapM_eq_ok_iff.1 h
    clear h
    induction hall with
    | nil => exact absurd ha List.not_mem_nil
    | @cons _ b _ _ hb _ ih =>
      rcases List.mem_cons.1 ha with rfl | ha
      · exact ⟨b, hb⟩
      · exact ih ha
  · intro h
    rcases mapM_cases f as with ⟨bs, hbs, -⟩ | ⟨a, ha, e, he, -⟩
    · exact ⟨bs, hbs⟩
    · obtain ⟨b, hb⟩ := h a ha
      cases he.symm.trans hb

end SchemaSql
