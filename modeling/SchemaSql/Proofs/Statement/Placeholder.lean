import SchemaSql.Statement.Fragment
import SchemaSql.Text.Split

/-!
# Placeholders of a statement

A statement takes its values at its question marks, in order. `substitute` writes given texts in their
places, and `Fragment.inlined` is the text of a fragment with each value written where its piece stands. If
no text of a fragment has a question mark of its own (`Fragment.Plain`), the two agree
(`Fragment.substitute_sql`) and there are as many question marks as arguments
(`Fragment.count_placeholder`). So a statement binds its values as its fragment does.
-/

namespace SchemaSql

/-- **A text with others in the places of its question marks**, one after the other. Nothing is written for
question marks that have none left. -/
def substitute : List Char → List String → List Char
  | [], _ => []
  | '?' :: cs, [] => '?' :: substitute cs []
  | '?' :: cs, t :: ts => t.toList ++ substitute cs ts
  | c :: cs, ts => c :: substitute cs ts

/-- A text without question marks stays as it is. -/
theorem substitute_append {cs : List Char} (h : '?' ∉ cs) (ds : List Char) (ts : List String) :
    substitute (cs ++ ds) ts = cs ++ substitute ds ts := by
  induction cs with
  | nil => rfl
  | cons c cs ih =>
    obtain ⟨hc, hcs⟩ := not_or.1 fun hm => h (List.mem_cons.2 hm)
    rw [List.cons_append, substitute, ih hcs, List.cons_append]
    · exact fun _ e => hc e.symm
    · exact fun _ _ _ e => hc e.symm

/-! ## Texts without question marks -/

/-- A text without a question mark. -/
def Unmarked (s : String) : Prop :=
  '?' ∉ s.toList

instance (s : String) : Decidable (Unmarked s) :=
  inferInstanceAs (Decidable (¬ _))

@[simp]
theorem unmarked_append {s t : String} : Unmarked (s ++ t) ↔ Unmarked s ∧ Unmarked t :=
  Text.lacks_append

theorem unmarked_intercalate {sep : String} (hs : Unmarked sep) {ts : List String} (h : ∀ t ∈ ts, Unmarked t) :
    Unmarked (sep.intercalate ts) :=
  Text.lacks_intercalate hs h

/-! ## Values in their own places -/

/-- The text of a piece with its value written by `write`. -/
def Piece.inlined (write : Json → String) : Piece → String
  | text s => s
  | value v => write v

namespace Fragment

/-- **The text of a fragment with each value written in its own place.** -/
def inlined (write : Json → String) (f : Fragment) : String :=
  String.join (f.map (Piece.inlined write))

theorem inlined_nil (write : Json → String) : inlined write [] = "" := rfl

theorem inlined_cons_text (write : Json → String) (s : String) (f : Fragment) :
    inlined write (.text s :: f) = s ++ inlined write f := by
  simp only [inlined, List.map_cons, String.join_cons, Piece.inlined]

theorem inlined_cons_value (write : Json → String) (v : Json) (f : Fragment) :
    inlined write (.value v :: f) = write v ++ inlined write f := by
  simp only [inlined, List.map_cons, String.join_cons, Piece.inlined]

theorem inlined_append (write : Json → String) (f g : Fragment) :
    inlined write (f ++ g) = inlined write f ++ inlined write g := by
  simp only [inlined, List.map_append, String.join_append]

/-- Fragments with a text between them are written with that text between them. -/
theorem inlined_joined (write : Json → String) (sep : String) (fs : List Fragment) :
    inlined write (joined sep fs) = sep.intercalate (fs.map (inlined write)) := by
  fun_induction joined sep fs with
  | case1 => rfl
  | case2 f => rw [List.map_singleton, String.intercalate_singleton]
  | case3 f g rest ih =>
    simp only [inlined_append, inlined_cons_text, ih, List.map_cons, String.intercalate_cons_cons,
      String.append_assoc]

/-- Values between commas are written between commas. -/
theorem inlined_values (write : Json → String) (vs : List Json) :
    inlined write (values vs) = ", ".intercalate (vs.map write) := by
  have hone : inlined write ∘ (fun v => [Piece.value v]) = write := by
    funext v
    rw [Function.comp_apply, inlined_cons_value, inlined_nil, String.append_empty]
  rw [values, inlined_joined, List.map_map, hone]

/-- The text of a fragment has a question mark in the place of every value. -/
theorem inlined_placeholder (f : Fragment) : f.inlined (fun _ => "?") = f.sql := by
  have hpiece : Piece.inlined (fun _ => "?") = Piece.sql := by
    funext p
    cases p <;> rfl
  rw [inlined, hpiece, sql]

/-! ## Fragments whose texts have no question marks -/

/-- No text of a fragment has a question mark of its own. -/
def Plain (f : Fragment) : Prop :=
  ∀ s, .text s ∈ f → Unmarked s

@[simp]
theorem plain_nil : Plain [] :=
  fun _ h => nomatch h

@[simp]
theorem plain_cons_text {s : String} {f : Fragment} : Plain (.text s :: f) ↔ Unmarked s ∧ Plain f := by
  simp only [Plain, List.mem_cons, Piece.text.injEq, forall_eq_or_imp]

@[simp]
theorem plain_cons_value {v : Json} {f : Fragment} : Plain (.value v :: f) ↔ Plain f := by
  simp only [Plain, List.mem_cons, reduceCtorEq, false_or]

@[simp]
theorem plain_append {f g : Fragment} : Plain (f ++ g) ↔ Plain f ∧ Plain g := by
  simp only [Plain, List.mem_append, or_imp, forall_and]

theorem plain_joined {sep : String} (hs : Unmarked sep) {fs : List Fragment} (h : ∀ f ∈ fs, f.Plain) :
    Plain (joined sep fs) := by
  fun_induction joined sep fs with
  | case1 => exact plain_nil
  | case2 f => exact h f List.mem_cons_self
  | case3 f g rest ih =>
    have hrest := ih fun e he => h e (List.mem_cons_of_mem _ he)
    simp only [plain_append, plain_cons_text, h f List.mem_cons_self, hs, hrest, and_self]

@[simp]
theorem plain_values (vs : List Json) : Plain (values vs) := by
  apply plain_joined (by decide)
  intro f hf
  obtain ⟨v, -, rfl⟩ := List.mem_map.1 hf
  simp only [plain_cons_value, plain_nil]

/-! ## Arguments in the places of the question marks -/

/-- In the place of a value stands a question mark. -/
theorem toList_sql_value (v : Json) : (Piece.value v).sql.toList = ['?'] := by
  rw [Piece.sql]
  rfl

theorem toList_sql_cons (p : Piece) (f : Fragment) : (sql (p :: f)).toList = p.sql.toList ++ (sql f).toList := by
  simp only [sql, List.map_cons, String.join_cons, String.toList_append]

/-- **There are as many question marks as arguments.** -/
theorem count_placeholder {f : Fragment} (h : f.Plain) : f.sql.toList.count '?' = f.args.length := by
  induction f with
  | nil => rfl
  | cons p f ih =>
    have hrest := ih fun s hs => h s (List.mem_cons_of_mem _ hs)
    rw [toList_sql_cons, List.count_append, hrest]
    cases p with
    | text s => rw [Piece.sql, List.count_eq_zero_of_not_mem (h s List.mem_cons_self), args_cons_text, Nat.zero_add]
    | value v => rw [toList_sql_value, args_cons_value, List.length_cons, List.count_singleton_self, Nat.add_comm]

/-- **The arguments in the places of the question marks** give the text with every value in its own
place. -/
theorem substitute_sql {f : Fragment} (h : f.Plain) (write : Json → String) :
    substitute f.sql.toList (f.args.map write) = (f.inlined write).toList := by
  induction f with
  | nil => rfl
  | cons p f ih =>
    have hrest := ih fun s hs => h s (List.mem_cons_of_mem _ hs)
    rw [toList_sql_cons]
    cases p with
    | text s =>
      rw [Piece.sql, substitute_append (h s List.mem_cons_self), args_cons_text, hrest, inlined_cons_text,
        String.toList_append]
    | value v =>
      rw [toList_sql_value, List.singleton_append, args_cons_value, List.map_cons, substitute, hrest,
        inlined_cons_value, String.toList_append]

end Fragment

end SchemaSql
