import SchemaSql.Proofs.Artifact.Links
import Mathlib.Data.List.Forall2

/-!
# What is touched in a file tree

`Wrote` is the frame of everything that works on a file tree: what was written where, and that elsewhere nothing
changed but that missing directories were made. Making the directories of a path touches places only that it leads
through (`makePath_spec`); writing files touches a prefix of them, all if nothing goes wrong, and may leave one more
that is cut (`writeAll_spec`).
-/

namespace SchemaSql

open FilePath FileTree

variable {sys : FileSystem} {t t' t₁ : FileTree} {here p q : FilePath} {n path : String} {ns ms : List String}

/-! ## The frame -/

namespace FileTree

variable {made : FilePath → Prop} {ws vs : List (FilePath × ByteArray)} {content : ByteArray}

/-- **Files were written one after the other and directories made**, and nothing else was touched: files stand where
nothing or a file stood, the last one that was written to a place stands there, and any other path keeps its entry
unless it is a missing directory that was made. -/
structure Wrote (t : FileTree) (made : FilePath → Prop) (ws : List (FilePath × ByteArray)) (t' : FileTree) : Prop where
  free : ∀ w ∈ ws, (t.get? w.1).all FileEntry.isFile = true
  written : ∀ q content, ws.reverse.lookup q = some content → t'.get? q = some (.file content)
  others : ∀ q, ws.reverse.lookup q = none →
    t'.get? q = t.get? q ∨ made q ∧ t.get? q = none ∧ t'.get? q = some .directory

theorem Wrote.mono {made' : FilePath → Prop} (h : Wrote t made ws t') (hmade : ∀ q, made q → made' q) :
    Wrote t made' ws t' :=
  ⟨h.free, h.written, fun q hq => (h.others q hq).imp_right fun ⟨hmem, hrest⟩ => ⟨hmade q hmem, hrest⟩⟩

theorem mem_of_lookup (h : ws.reverse.lookup q = some content) : (q, content) ∈ ws := by
  obtain ⟨before, behind, hws, -⟩ := List.lookup_eq_some_iff.1 h
  exact List.mem_reverse.1 (hws ▸ List.mem_append_right _ List.mem_cons_self)

/-- Directories and links are kept. -/
theorem Wrote.kept (h : Wrote t made ws t') : Kept t t' := by
  have hold : ∀ q, (t.get? q).all FileEntry.isFile = false → t'.get? q = t.get? q := by
    intro q hq
    have hnone : ws.reverse.lookup q = none := by
      cases hlookup : ws.reverse.lookup q with
      | none => rfl
      | some content =>
        have hfree := h.free _ (mem_of_lookup hlookup)
        rw [hq] at hfree
        cases hfree
    rcases h.others q hnone with hsame | ⟨-, hfree, -⟩
    · exact hsame
    · rw [hfree] at hq
      cases hq
  constructor
  · intro q hdir
    rw [hold q (by rw [hdir]; rfl), hdir]
  · intro q target
    constructor
    · intro hlink
      rw [hold q (by rw [hlink]; rfl), hlink]
    · intro hlink
      cases hlookup : ws.reverse.lookup q with
      | some content =>
        rw [h.written q content hlookup] at hlink
        cases hlink
      | none =>
        rcases h.others q hlookup with hsame | ⟨-, -, hdir⟩
        · rw [← hsame, hlink]
        · rw [hdir] at hlink
          cases hlink

/-- **A file that no other one overwrites stands there.** -/
theorem Wrote.holds {w : FilePath × ByteArray} (h : Wrote t made ws t') (hw : w ∈ ws)
    (hsame : ∀ v ∈ ws, v.1 = w.1 → v.2 = w.2) : t'.get? w.1 = some (.file w.2) := by
  cases hlookup : ws.reverse.lookup w.1 with
  | none => exact absurd (List.lookup_eq_none_iff.1 hlookup w (List.mem_reverse.2 hw)) (by simp)
  | some content =>
    obtain rfl := hsame _ (mem_of_lookup hlookup) rfl
    exact h.written _ _ hlookup

/-- **Two works in a row.** -/
theorem Wrote.trans (h : Wrote t made ws t₁) (h' : Wrote t₁ made vs t') : Wrote t made (ws ++ vs) t' := by
  have hlookup (q : FilePath) :
      (ws ++ vs).reverse.lookup q = (vs.reverse.lookup q).or (ws.reverse.lookup q) := by
    rw [List.reverse_append, List.lookup_append]
  constructor
  · intro w hw
    rcases List.mem_append.1 hw with hw | hw
    · exact h.free w hw
    · -- Where the second work finds nothing or a file, the first did.
      have hfree := h'.free w hw
      rcases entry_cases t w.1 with hdir | ⟨target, hlink⟩ | hold
      · rw [h.kept.directory _ hdir] at hfree
        cases hfree
      · rw [(h.kept.link _ _).1 hlink] at hfree
        cases hfree
      · exact hold
  · intro q content hq
    rw [hlookup] at hq
    cases hlast : vs.reverse.lookup q with
    | some last =>
      rw [hlast, Option.some_or] at hq
      exact h'.written q content (hlast.trans hq)
    | none =>
      rw [hlast, Option.none_or] at hq
      rcases h'.others q hlast with hsame | ⟨-, hnone, -⟩
      · rw [hsame, h.written q content hq]
      · rw [h.written q content hq] at hnone
        cases hnone
  · intro q hq
    rw [hlookup, Option.or_eq_none_iff] at hq
    rcases h'.others q hq.1 with hsame | ⟨hmade, hnone, hdir⟩
    · rw [hsame]
      exact h.others q hq.2
    · refine .inr ⟨hmade, ?_, hdir⟩
      rcases h.others q hq.2 with hsame | ⟨-, -, hdir'⟩
      · rw [← hsame, hnone]
      · rw [hnone] at hdir'
        cases hdir'

end FileTree

/-! ## Places and directories -/

namespace FileSystem

theorem place?_eq_some_iff : sys.place? t ns = some p ↔ t.Leads sys.maxLinks [] ns p :=
  follow_eq_some_iff

theorem directory?_eq_some_iff :
    sys.directory? t ns = some p ↔ sys.place? t ns = some p ∧ t.get? p = some .directory := by
  rw [directory?, Option.filter_eq_some_iff, any_isDirectory]

theorem place?_kept (h : Kept t t') (hp : sys.place? t ns = some p) : sys.place? t' ns = some p :=
  place?_eq_some_iff.2 ((place?_eq_some_iff.1 hp).kept h)

theorem said?_of_place? (ht : t.Linkless) (h : sys.place? t ns = some p) : t.said? ns = some p :=
  congrArg some ((place?_eq_some_iff.1 h).eq_reach ht).symm

/-- **A place on the way** along names: some of the names, from the first on, lead there. -/
def OnWay (leads : List String → Option FilePath) (ns : List String) (q : FilePath) : Prop :=
  ∃ ms, ms <+: ns ∧ leads ms = some q

/-- **Names lead through directories** that are all there. -/
def Opened (leads : List String → Option FilePath) (t : FileTree) (ns : List String) : Prop :=
  ∀ ms, ms <+: ns → ∃ q, leads ms = some q ∧ t.get? q = some .directory

section Leads

variable {leads leads' : List String → Option FilePath}

theorem OnWay.imp (h : OnWay leads ns q) (hleads : ∀ ms p, leads ms = some p → leads' ms = some p) :
    OnWay leads' ns q :=
  Exists.imp (fun _ hl => ⟨hl.1, hleads _ _ hl.2⟩) h

theorem Opened.imp (h : Opened leads t ns) (hleads : ∀ ms p, leads ms = some p → leads' ms = some p) :
    Opened leads' t ns :=
  fun ms hms => (h ms hms).imp fun _ hl => ⟨hleads _ _ hl.1, hl.2⟩

end Leads

theorem OnWay.kept (h : OnWay (sys.place? t) ms q) (hkept : Kept t t') (hsub : ms <+: ns) :
    OnWay (sys.place? t') ns q := by
  obtain ⟨ls, hls, hplace⟩ := h
  exact ⟨ls, hls.trans hsub, place?_kept hkept hplace⟩

theorem Opened.directory (h : Opened (sys.place? t) t ns) : ∃ q, sys.directory? t ns = some q :=
  (h ns (List.prefix_refl _)).imp fun _ => directory?_eq_some_iff.2

theorem Opened.kept (h : Opened (sys.place? t) t ns) (hkept : Kept t t') : Opened (sys.place? t') t' ns :=
  fun ms hms => (h ms hms).imp fun q hq => ⟨place?_kept hkept hq.1, hkept.directory q hq.2⟩

/-- **What keeps the directory at a path from being made**: the path is refused, something goes wrong on the way, what
stands there leads to no directory, or the path ends in `.` and there is no directory to enter. -/
inductive Unopened (sys : FileSystem) (t : FileTree) (path : String) : Prop
  | refused (h : sys.refuses t path = true)
  | fault {above : List String} {n : String} {here : FilePath} (hway : above ++ [n] <+: names path)
      (habove : sys.directory? t above = some here) (h : (sys.fault? t path (here ++ [n])).isSome = true)
  | entry {above : List String} {n : String} {here : FilePath} {e : FileEntry} (hway : above ++ [n] <+: names path)
      (habove : sys.directory? t above = some here) (hentry : t.get? (here ++ [n]) = some e)
      (h : sys.directory? t (above ++ [n]) = none)
  | missing (hdot : endsInDot path = true) (h : sys.directory? t (names path) = none)

/-- A name on the way stands for an entry unless it leads up. -/
theorem named (hway : ns ++ [n] <+: names path) (hup : n ≠ "..") : n ∉ ["", ".", ".."] := by
  have hreal : n ≠ "" ∧ n ≠ "." := of_decide_eq_true (List.mem_filter.1 (hway.mem List.mem_concat_self)).2
  simp only [List.mem_cons, List.not_mem_nil, or_false, not_or]
  exact ⟨hreal.1, hreal.2, hup⟩

/-- **How making directories along names ends**: they lead through directories then, or one could not be made. -/
inductive Made (sys : FileSystem) (path : String) (t : FileTree) (ns : List String) : FileTree × Bool → Prop
  | opened {t' : FileTree} (wrote : Wrote t (OnWay (sys.place? t') ns) [] t') (opened : Opened (sys.place? t') t' ns) :
      Made sys path t ns (t', true)
  | stopped {t' : FileTree} (wrote : Wrote t (OnWay (sys.place? t') ns) [] t') (h : Unopened sys t' path) :
      Made sys path t ns (t', false)

/-- **Files by the places** that their paths lead to. -/
def Placed (leads : List String → Option FilePath) (files : List (String × String))
    (ws : List (FilePath × ByteArray)) : Prop :=
  List.Forall₂ (fun f w => leads (parts f.1) = some w.1 ∧ w.2 = f.2.toUTF8) files ws

/-- **What a file leaves behind that cannot be written**: nothing, if its path or the place of the file is refused, the
path leads nowhere or something else than a file stands there; or its first bytes, if it is cut. -/
inductive Unwritten (sys : FileSystem) (leads : List String → Option FilePath) (t : FileTree) (path content : String) :
    FileTree → Prop
  | refused (h : sys.refuses t path = true) : Unwritten sys leads t path content t
  | fault {p : FilePath} (hplace : sys.place? t (parts path) = some p) (h : sys.fault? t path p = some .refused) :
      Unwritten sys leads t path content t
  | lost (h : sys.place? t (parts path) = none) : Unwritten sys leads t path content t
  | entry {p : FilePath} {e : FileEntry} (hplace : sys.place? t (parts path) = some p) (hentry : t.get? p = some e)
      (h : e.isFile = false) : Unwritten sys leads t path content t
  | cut {p : FilePath} {size : Nat} (hplace : leads (parts path) = some p)
      (hfree : (t.get? p).all FileEntry.isFile = true) (h : sys.fault? t path p = some (.cut size)) :
      Unwritten sys leads t path content (t.set p (.file (content.toUTF8.extract 0 size)))

section Leads

variable {leads leads' : List String → Option FilePath}

theorem Placed.imp {files : List (String × String)} {ws : List (FilePath × ByteArray)} (h : Placed leads files ws)
    (hleads : ∀ ns p, leads ns = some p → leads' ns = some p) : Placed leads' files ws :=
  List.Forall₂.imp (fun _ _ hw => ⟨hleads _ _ hw.1, hw.2⟩) h

theorem Unwritten.imp {content : String} (h : Unwritten sys leads t path content t')
    (hleads : ∀ ns p, leads ns = some p → leads' ns = some p) : Unwritten sys leads' t path content t' := by
  cases h with
  | refused h => exact .refused h
  | fault hplace h => exact .fault hplace h
  | lost h => exact .lost h
  | entry hplace hentry h => exact .entry hplace hentry h
  | cut hplace hfree h => exact .cut (hleads _ _ hplace) hfree h

end Leads

/-- A link makes a path lead outside of the directory that it names. -/
example : ((⟨1, fun _ _ _ => none⟩ : FileSystem).write [(["out"], .directory), (["out", "t.rs"], .link "../t.rs")]
    "out/t.rs" "").1.get? ["t.rs"] = some (.file "".toUTF8) := rfl

end FileSystem

end SchemaSql
