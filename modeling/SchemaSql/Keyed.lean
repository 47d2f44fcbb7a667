/-!
# Entries with text keys, in key order

A `Keyed α` is a list of entries. The operations keep it sorted: keys increase strictly in the order of
their code points, which is the order of their UTF-8 bytes as well, so that each key has one entry and
all walks over the entries go in one order. `Keyed.Sorted` states the order; `ofList` builds a sorted list
from any entries, of which the last one with a key counts.
-/

namespace SchemaSql

/-- **Entries with text keys.** -/
abbrev Keyed (α : Type) := List (String × α)

namespace Keyed

variable {α β : Type}

/-- Keys increase strictly. -/
def Sorted (m : Keyed α) : Prop :=
  m.Pairwise fun a b => a.1 < b.1

/-- The value at a key. -/
def get? (m : Keyed α) (key : String) : Option α :=
  match m with
  | [] => none
  | (k, v) :: rest => if k = key then some v else get? rest key

/-- There is an entry with the key. -/
def hasKey (m : Keyed α) (key : String) : Bool :=
  m.any fun e => e.1 == key

/-- Sets the value at a key, at its place in the order of keys. -/
def insert (m : Keyed α) (key : String) (value : α) : Keyed α :=
  match m with
  | [] => [(key, value)]
  | (k, v) :: rest =>
    if key < k then (key, value) :: (k, v) :: rest
    else if k = key then (key, value) :: rest
    else (k, v) :: insert rest key value

/-- The entries in key order; of several entries with one key the last one counts. -/
def ofList (entries : List (String × α)) : Keyed α :=
  entries.foldl (fun m e => insert m e.1 e.2) []

/-- The keys in order. -/
def keys (m : Keyed α) : List String :=
  m.map (·.1)

/-- **The value at a key after setting one.** -/
theorem get?_insert (m : Keyed α) (key : String) (value : α) (other : String) :
    get? (insert m key value) other = if other = key then some value else get? m other := by
  induction m with
  | nil => by_cases h : key = other <;> simp [insert, get?, h, eq_comm]
  | cons e rest ih =>
    obtain ⟨k, v⟩ := e
    by_cases hlt : key < k
    · by_cases h : other = key
      · subst h; simp [insert, hlt, get?]
      · simp [insert, hlt, get?, h, Ne.symm h]
    · by_cases hk : k = key
      · subst hk
        by_cases h : other = k
        · subst h; simp only [insert, if_neg hlt, ↓reduceIte, get?]
        · simp only [insert, if_neg hlt, ↓reduceIte, get?, h, Ne.symm h]
      · by_cases h : k = other
        · subst h; simp [insert, hlt, hk, get?]
        · simp [insert, hlt, hk, get?, h, ih]

/-- Setting a value keeps the keys in order. -/
theorem Sorted.insert {m : Keyed α} (h : Sorted m) (key : String) (value : α) :
    Sorted (Keyed.insert m key value) := by
  have bound : ∀ (m : Keyed α) (k : String), (∀ e ∈ m, k < e.1) → k < key →
      ∀ e ∈ Keyed.insert m key value, k < e.1 := by
    intro m k hm hk e he
    induction m with
    | nil => simp only [Keyed.insert, List.mem_singleton] at he; exact he ▸ hk
    | cons f rest ih =>
      simp only [Keyed.insert] at he
      split at he
      · rcases List.mem_cons.1 he with rfl | he
        · exact hk
        · exact hm e he
      · split at he
        · rcases List.mem_cons.1 he with rfl | he
          · exact hk
          · exact hm e (List.mem_cons_of_mem _ he)
        · rcases List.mem_cons.1 he with rfl | he
          · exact hm _ List.mem_cons_self
          · exact ih (fun x hx => hm x (List.mem_cons_of_mem _ hx)) he
  induction m with
  | nil => exact List.pairwise_singleton _ _
  | cons f rest ih =>
    obtain ⟨k, v⟩ := f
    obtain ⟨hf, hrest⟩ := List.pairwise_cons.1 h
    simp only [Keyed.insert]
    split
    · rename_i hlt
      refine List.pairwise_cons.2 ⟨fun e he => ?_, h⟩
      rcases List.mem_cons.1 he with rfl | he
      · exact hlt
      · exact String.lt_trans hlt (hf e he)
    · split
      · rename_i hk
        refine List.pairwise_cons.2 ⟨fun e he => ?_, hrest⟩
        have := hf e he
        simpa [hk] using this
      · rename_i hlt hk
        refine List.pairwise_cons.2 ⟨fun e he => ?_, ih hrest⟩
        have hkk : k < key := by
          rcases String.le_total k key with hle | hle
          · exact Std.lt_of_le_of_ne hle hk
          · exact absurd (Std.lt_of_le_of_ne hle (Ne.symm hk)) hlt
        exact bound rest k hf hkk e he

/-- **Entries collected by key are sorted.** -/
theorem sorted_ofList (entries : List (String × α)) : Sorted (ofList entries) := by
  have step : ∀ (es : List (String × α)) (m : Keyed α), Sorted m →
      Sorted (es.foldl (fun m e => Keyed.insert m e.1 e.2) m) := by
    intro es
    induction es with
    | nil => exact fun m h => h
    | cons e es ih => exact fun m h => ih _ (h.insert e.1 e.2)
  exact step entries [] List.Pairwise.nil

/-- Setting a value adds no other entry. -/
theorem mem_of_mem_insert {m : Keyed α} {key : String} {value : α} {e : String × α} (h : e ∈ insert m key value) :
    e = (key, value) ∨ e ∈ m := by
  induction m with
  | nil => exact .inl (List.mem_singleton.1 h)
  | cons f rest ih =>
    simp only [insert] at h
    split at h
    · exact List.mem_cons.1 h
    · split at h
      · rcases List.mem_cons.1 h with h | h
        · exact .inl h
        · exact .inr (List.mem_cons_of_mem _ h)
      · rcases List.mem_cons.1 h with h | h
        · exact .inr (h ▸ List.mem_cons_self)
        · exact (ih h).imp_right (List.mem_cons_of_mem _)

/-- Entries collected by key are among those collected. -/
theorem mem_of_mem_ofList {entries : List (String × α)} {e : String × α} (h : e ∈ ofList entries) : e ∈ entries := by
  have step : ∀ (es : List (String × α)) (m : Keyed α),
      e ∈ es.foldl (fun m f => Keyed.insert m f.1 f.2) m → e ∈ m ∨ e ∈ es := by
    intro es
    induction es with
    | nil => exact fun m h => .inl h
    | cons f es ih =>
      intro m h
      rcases ih _ h with h | h
      · rcases mem_of_mem_insert h with h | h
        · exact .inr (h ▸ List.mem_cons_self)
        · exact .inl h
      · exact .inr (List.mem_cons_of_mem _ h)
  exact (step entries [] h).resolve_left List.not_mem_nil

/-- **Of several entries with a key the last one counts.** -/
theorem get?_ofList (entries : List (String × α)) (key : String) :
    get? (ofList entries) key = ((entries.filter fun e => e.1 == key).getLast?).map (·.2) := by
  have step : ∀ (es : List (String × α)) (m : Keyed α),
      get? (es.foldl (fun m e => Keyed.insert m e.1 e.2) m) key =
        (((es.filter fun e => e.1 == key).getLast?).map (·.2)).or (get? m key) := by
    intro es
    induction es with
    | nil => exact fun m => rfl
    | cons e es ih =>
      intro m
      rw [List.foldl_cons, ih, get?_insert, List.filter_cons]
      by_cases hkey : e.1 = key
      · rw [if_pos hkey.symm, if_pos (beq_iff_eq.2 hkey), List.getLast?_cons]
        cases (es.filter fun e => e.1 == key).getLast? <;> rfl
      · rw [if_neg (Ne.symm hkey), if_neg (fun h => hkey (beq_iff_eq.1 h))]
  exact (step entries []).trans (Option.or_none ..)

/-- **Sorted entries have one value at a key**, which is the one that is found there. -/
theorem Sorted.mem_iff {m : Keyed α} (h : Sorted m) {key : String} {value : α} :
    (key, value) ∈ m ↔ get? m key = some value := by
  induction m with
  | nil => exact ⟨fun hm => absurd hm List.not_mem_nil, nofun⟩
  | cons e rest ih =>
    obtain ⟨k, v⟩ := e
    obtain ⟨hfirst, hrest⟩ := List.pairwise_cons.1 h
    rw [List.mem_cons, Prod.mk.injEq, get?]
    by_cases hk : k = key
    · subst hk
      have hother : (k, value) ∉ rest := fun hm => String.lt_irrefl k (hfirst _ hm)
      simp only [true_and, hother, or_false, ↓reduceIte, Option.some.injEq, eq_comm]
    · simp only [Ne.symm hk, false_and, false_or, if_neg hk, ih hrest]

/-- A key is there exactly if a value is found at it. -/
theorem Sorted.mem_keys_iff {m : Keyed α} (h : Sorted m) {key : String} : key ∈ keys m ↔ (get? m key).isSome := by
  rw [keys, List.mem_map, Option.isSome_iff_exists]
  constructor
  · rintro ⟨⟨_, value⟩, hm, rfl⟩
    exact ⟨value, h.mem_iff.1 hm⟩
  · rintro ⟨value, hfound⟩
    exact ⟨(key, value), h.mem_iff.2 hfound, rfl⟩

/-- The keys of sorted entries increase. -/
theorem Sorted.keys {m : Keyed α} (h : Sorted m) : (keys m).Pairwise (· < ·) :=
  List.pairwise_map.2 h

/-- An entry whose key comes after all others is set behind them. -/
theorem insert_eq_append {m : Keyed α} {key : String} {value : α} (h : ∀ e ∈ m, e.1 < key) :
    insert m key value = m ++ [(key, value)] := by
  induction m with
  | nil => rfl
  | cons e rest ih =>
    obtain ⟨k, v⟩ := e
    have hk : k < key := h (k, v) List.mem_cons_self
    have hne : k ≠ key := fun e => absurd (e ▸ hk) (String.lt_irrefl key)
    simp only [insert, if_neg (fun hlt => String.lt_irrefl k (String.lt_trans hk hlt)), if_neg hne,
      ih fun x hx => h x (List.mem_cons_of_mem _ hx), List.cons_append]

/-- **Sorted entries stay as they are** when they are collected by key. -/
theorem ofList_of_sorted {m : Keyed α} (h : Sorted m) : ofList m = m := by
  have step : ∀ (es m : List (String × α)), Sorted (m ++ es) →
      es.foldl (fun m e => Keyed.insert m e.1 e.2) m = m ++ es := by
    intro es
    induction es with
    | nil => exact fun m _ => (List.append_nil m).symm
    | cons e es ih =>
      intro m h
      have hbefore : ∀ f ∈ m, f.1 < e.1 := fun f hf => (List.pairwise_append.1 h).2.2 f hf e List.mem_cons_self
      have happend : m ++ e :: es = m ++ [e] ++ es := by simp only [List.append_assoc, List.singleton_append]
      rw [List.foldl_cons, insert_eq_append hbefore, ih _ (happend ▸ h), ← happend]
  exact step m [] h

end Keyed

end SchemaSql
