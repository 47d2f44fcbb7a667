import SchemaSql.Proofs.Artifact.Location

/-!
# Where names lead

`Leads` says where a file system gets along names, link by link. What it says stays true while files and
directories are added (`Leads.kept`), it goes on behind a directory (`Leads.append`), and in a tree without links
it is what the names say (`Leads.eq_reach`).
-/

namespace SchemaSql

namespace FileTree

open FilePath

variable {t t' : FileTree} {links : Nat} {here p d : FilePath} {n : String} {ns : List String}

theorem get?_of_leadsUp (t : FileTree) (h : p.leadsUp = true) : t.get? p = some .directory := by
  rw [get?, if_pos h]

theorem any_isDirectory : (t.get? p).any FileEntry.isDirectory = true ↔ t.get? p = some .directory := by
  cases t.get? p with
  | none => exact iff_of_false Bool.false_ne_true (Option.some_ne_none _).symm
  | some e => cases e <;> simp [FileEntry.isDirectory]

/-- **Names lead from a directory to a place**, through so many links at most. -/
inductive Leads (t : FileTree) : Nat → FilePath → List String → FilePath → Prop
  | here {links : Nat} {p : FilePath} : Leads t links p [] p
  | stay {links : Nat} {here p : FilePath} {n : String} {ns : List String} (hn : n = "" ∨ n = ".")
      (h : Leads t links here ns p) : Leads t links here (n :: ns) p
  | up {links : Nat} {here p : FilePath} {ns : List String} (h : Leads t links here.parent ns p) :
      Leads t links here (".." :: ns) p
  | down {links : Nat} {here p : FilePath} {n : String} {ns : List String} (hn : n ∉ ["", ".", ".."])
      (hdir : t.get? (here ++ [n]) = some .directory) (h : Leads t links (here ++ [n]) ns p) :
      Leads t links here (n :: ns) p
  | jump {links : Nat} {here p : FilePath} {n target : String} {ns : List String} (hn : n ∉ ["", ".", ".."])
      (hlink : t.get? (here ++ [n]) = some (.link target))
      (h : Leads t links (if isAbsolute target then [] else here) (parts target ++ ns) p) :
      Leads t (links + 1) here (n :: ns) p
  | last {links : Nat} {here : FilePath} {n : String} (hn : n ∉ ["", ".", ".."])
      (hfree : (t.get? (here ++ [n])).all FileEntry.isFile = true) : Leads t links here [n] (here ++ [n])

section Walk

variable {jump : FilePath → List String → Option FilePath}

theorem walk_down (hn : n ∉ ["", ".", ".."]) (hdir : t.get? (here ++ [n]) = some .directory) :
    t.walk jump here (n :: ns) = t.walk jump (here ++ [n]) ns := by
  simp only [List.mem_cons, List.not_mem_nil, or_false, not_or] at hn
  rw [walk, if_neg (not_or.2 ⟨hn.1, hn.2.1⟩), if_neg hn.2.2, hdir]

theorem walk_jump {target : String} (hn : n ∉ ["", ".", ".."]) (hlink : t.get? (here ++ [n]) = some (.link target)) :
    t.walk jump here (n :: ns) = jump (if isAbsolute target then [] else here) (parts target ++ ns) := by
  simp only [List.mem_cons, List.not_mem_nil, or_false, not_or] at hn
  rw [walk, if_neg (not_or.2 ⟨hn.1, hn.2.1⟩), if_neg hn.2.2, hlink]

theorem walk_free (hn : n ∉ ["", ".", ".."]) (hfree : (t.get? (here ++ [n])).all FileEntry.isFile = true) :
    t.walk jump here (n :: ns) = if ns.isEmpty then some (here ++ [n]) else none := by
  simp only [List.mem_cons, List.not_mem_nil, or_false, not_or] at hn
  rw [walk, if_neg (not_or.2 ⟨hn.1, hn.2.1⟩), if_neg hn.2.2]
  cases hentry : t.get? (here ++ [n]) with
  | none => rfl
  | some e =>
    rw [hentry] at hfree
    cases e with
    | file content => rfl
    | directory => cases hfree
    | link target => cases hfree

/-- What stands at a place is a directory, a link, or nothing that is in the way of a file. -/
theorem entry_cases (t : FileTree) (p : FilePath) : t.get? p = some .directory ∨
    (∃ target, t.get? p = some (.link target)) ∨ (t.get? p).all FileEntry.isFile = true := by
  cases hentry : t.get? p with
  | none => exact .inr (.inr rfl)
  | some e =>
    cases e with
    | directory => exact .inl rfl
    | link target => exact .inr (.inl ⟨target, rfl⟩)
    | file content => exact .inr (.inr rfl)

/-- **A walk gets where names lead** if its jumps do. -/
theorem leads_of_walk (hjump : ∀ here ns p, jump here ns = some p → ∃ l, links = l + 1 ∧ Leads t l here ns p)
    (h : t.walk jump here ns = some p) : Leads t links here ns p := by
  induction ns generalizing here with
  | nil =>
    cases h
    exact .here
  | cons n ns ih =>
    by_cases hstay : n = "" ∨ n = "."
    · rw [walk, if_pos hstay] at h
      exact .stay hstay (ih h)
    by_cases hup : n = ".."
    · rw [walk, if_neg hstay, if_pos hup] at h
      subst hup
      exact .up (ih h)
    have hn : n ∉ ["", ".", ".."] := by
      simp only [List.mem_cons, List.not_mem_nil, or_false, not_or]
      exact ⟨fun h => hstay (.inl h), fun h => hstay (.inr h), hup⟩
    rcases entry_cases t (here ++ [n]) with hdir | ⟨target, hlink⟩ | hfree
    · rw [walk_down hn hdir] at h
      exact .down hn hdir (ih h)
    · rw [walk_jump hn hlink] at h
      obtain ⟨l, rfl, hleads⟩ := hjump _ _ _ h
      exact .jump hn hlink hleads
    · rw [walk_free hn hfree, Option.ite_none_right_eq_some] at h
      obtain ⟨hlast, hp⟩ := h
      rw [List.isEmpty_iff.1 hlast, ← Option.some.inj hp]
      exact .last hn hfree

end Walk

theorem Leads.follow (h : Leads t links here ns p) : t.follow links here ns = some p := by
  induction h with
  | @here links => cases links <;> rfl
  | @stay links _ _ _ _ hn _ ih => cases links <;> rw [FileTree.follow, walk, if_pos hn] <;> exact ih
  | @up links _ _ _ _ ih =>
    cases links <;> rw [FileTree.follow, walk, if_neg (by decide), if_pos rfl] <;> exact ih
  | @down links _ _ _ _ hn hdir _ ih => cases links <;> rw [FileTree.follow, walk_down hn hdir] <;> exact ih
  | jump hn hlink _ ih => rw [FileTree.follow, walk_jump hn hlink, ih]
  | @last links _ _ hn hfree => cases links <;> rw [FileTree.follow, walk_free hn hfree] <;> rfl

/-- **Following names gets where they lead.** -/
theorem follow_eq_some_iff : t.follow links here ns = some p ↔ Leads t links here ns p := by
  refine ⟨fun h => ?_, Leads.follow⟩
  induction links generalizing here ns p with
  | zero => exact leads_of_walk (fun _ _ _ h => by cases h) h
  | succ links ih => exact leads_of_walk (fun _ _ _ h => ⟨links, rfl, ih h⟩) h

/-! ## Along names -/

/-- **More names behind those of a directory** go on from there, through what is left of the links. -/
theorem Leads.append (h : Leads t links here ns d) (hdir : t.get? d = some .directory) :
    ∃ l, ∀ {ms : List String} {p : FilePath}, Leads t l d ms p → Leads t links here (ns ++ ms) p := by
  induction h with
  | @here links => exact ⟨links, id⟩
  | stay hn _ ih => exact (ih hdir).imp fun _ hrest _ _ h => .stay hn (hrest h)
  | up _ ih => exact (ih hdir).imp fun _ hrest _ _ h => .up (hrest h)
  | down hn hnext _ ih => exact (ih hdir).imp fun _ hrest _ _ h => .down hn hnext (hrest h)
  | jump hn hlink _ ih =>
    refine (ih hdir).imp fun _ hrest ms p h => .jump hn hlink ?_
    have hall := hrest h
    rwa [List.append_assoc] at hall
  | last hn hfree =>
    rw [hdir] at hfree
    cases hfree

/-- **A path stands**: it and all above it are directories. -/
def Stands (t : FileTree) (p : FilePath) : Prop :=
  ∀ q, q <+: p → t.get? q = some .directory

theorem stands_root (t : FileTree) : t.Stands [] := by
  intro q hq
  rw [List.prefix_nil.1 hq]
  rfl

theorem Stands.parent (h : t.Stands p) : t.Stands p.parent := by
  intro q hq
  unfold FilePath.parent at hq
  split at hq
  · rename_i hup
    refine get?_of_leadsUp t (leadsUp_mono hq ?_)
    rw [FilePath.leadsUp, List.all_append, Bool.and_eq_true]
    exact ⟨hup, rfl⟩
  · exact h q (hq.trans (List.dropLast_prefix p))

theorem Stands.enter (h : t.Stands p) (hn : t.get? (p ++ [n]) = some .directory) : t.Stands (p ++ [n]) := by
  intro q hq
  rcases List.prefix_concat_iff.1 hq with rfl | hq
  · exact hn
  · exact h q hq

/-- Names lead to directories from which `..` leads to a directory. -/
theorem Leads.stands (h : Leads t links here ns d) (hhere : t.Stands here) (hdir : t.get? d = some .directory) :
    t.Stands d := by
  induction h with
  | here => exact hhere
  | stay _ _ ih => exact ih hhere hdir
  | up _ ih => exact ih hhere.parent hdir
  | down _ hnext _ ih => exact ih (hhere.enter hnext) hdir
  | jump _ _ _ ih =>
    refine ih ?_ hdir
    split
    · exact stands_root t
    · exact hhere
  | last _ hfree =>
    rw [hdir] at hfree
    cases hfree

/-! ## Other trees -/

/-- **A tree is kept** in another one: its directories and links are the same there, and there are no more links. -/
structure Kept (t t' : FileTree) : Prop where
  directory : ∀ q, t.get? q = some .directory → t'.get? q = some .directory
  link : ∀ q target, t.get? q = some (.link target) ↔ t'.get? q = some (.link target)

/-- **Names lead to the same place** after files were written and directories made. -/
theorem Leads.kept (h : Leads t links here ns p) (hkept : Kept t t') : Leads t' links here ns p := by
  induction h with
  | here => exact .here
  | stay hn _ ih => exact .stay hn ih
  | up _ ih => exact .up ih
  | down hn hdir _ ih => exact .down hn (hkept.directory _ hdir) ih
  | jump hn hlink _ ih => exact .jump hn ((hkept.link _ _).1 hlink) ih
  | @last links here n hn hfree =>
    -- Where nothing stood there may be a directory now, but no link.
    rcases entry_cases t' (here ++ [n]) with hdir | ⟨target, hlink⟩ | hfree'
    · exact .down hn hdir .here
    · rw [(hkept.link _ _).2 hlink] at hfree
      cases hfree
    · exact .last hn hfree'

/-- **A tree without links.** -/
def Linkless (t : FileTree) : Prop :=
  ∀ q target, t.get? q ≠ some (.link target)

theorem Kept.linkless (h : Kept t t') (ht : t.Linkless) : t'.Linkless :=
  fun q target hlink => ht q target ((h.link q target).2 hlink)

/-- **Where names say that they lead** from the root. -/
def said? (_ : FileTree) (ns : List String) : Option FilePath :=
  some (reach [] ns)

/-- **Without links names lead where they say.** -/
theorem Leads.eq_reach (h : Leads t links here ns p) (ht : t.Linkless) : p = reach here ns := by
  have hstep {here : FilePath} {n : String} (hn : n ∉ ["", ".", ".."]) (ns : List String) :
      reach here (n :: ns) = reach (here ++ [n]) ns := by
    simp only [List.mem_cons, List.not_mem_nil, or_false, not_or] at hn
    rw [reach_cons ⟨hn.1, hn.2.1⟩, step, if_neg hn.2.2]
  induction h with
  | here => rfl
  | stay hn _ ih => rw [reach_cons_of_stay hn, ih]
  | up _ ih => rw [reach_cons (by decide), ih]; rfl
  | down hn _ _ ih => rw [hstep hn, ih]
  | jump _ hlink _ _ => exact absurd hlink (ht _ _)
  | last hn _ => rw [hstep hn]; rfl

end FileTree

end SchemaSql
