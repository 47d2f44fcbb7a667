import Mathlib.Data.List.Nodup
import SchemaSql.Proofs.Field.Framing
import SchemaSql.Proofs.Schema.Made

/-!
# What a fingerprint says about a table

The bytes that are hashed for a table are the same for two declarations exactly if the names of their tables are, and
their fields up to their order (`content_eq_iff`): fields with distinct names have one order by name, and frames can
be read back. The fingerprint says the same unless two texts with one hash have been found.
-/

namespace SchemaSql

namespace Sha256

/-- **Two messages with one hash.** -/
def Collision (m n : List UInt8) : Prop :=
  m ≠ n ∧ digest m = digest n

theorem digitChar_inj {m n : Nat} (hm : m < 16) (hn : n < 16) (h : Nat.digitChar m = Nat.digitChar n) : m = n := by
  have hall : ∀ i j : Fin 16, Nat.digitChar i.val = Nat.digitChar j.val → i = j := by decide
  exact congrArg Fin.val (hall ⟨m, hm⟩ ⟨n, hn⟩ h)

theorem hex_inj {m n : List UInt8} (h : hex m = hex n) : m = n := by
  have hdigits := String.ofList_inj.1 h
  induction m generalizing n with
  | nil =>
    cases n with
    | nil => rfl
    | cons c n => cases hdigits
  | cons b m ih =>
    cases n with
    | nil => cases hdigits
    | cons c n =>
      obtain ⟨hhigh, hlow⟩ := List.cons.inj hdigits
      obtain ⟨hlow, hrest⟩ := List.cons.inj hlow
      have hb := b.toNat_lt
      have hc := c.toNat_lt
      have hhigh := digitChar_inj (by omega) (by omega) hhigh
      have hlow := digitChar_inj (by omega) (by omega) hlow
      have hbc : b = c := UInt8.toNat_inj.1 (by omega)
      rw [hbc, ih (congrArg String.ofList hrest) hrest]

end Sha256

namespace Fingerprint

variable {fs gs : List Field}

/-! ## The order by name -/

theorem byName_perm (fs : List Field) : (byName fs).Perm fs :=
  List.mergeSort_perm ..

theorem byName_pairwise (fs : List Field) : (byName fs).Pairwise fun f g => f.name ≤ g.name := by
  refine (List.pairwise_mergeSort ?_ ?_ fs).imp fun h => of_decide_eq_true h
  · intro f g h hfg hgh
    exact decide_eq_true (String.le_trans (of_decide_eq_true hfg) (of_decide_eq_true hgh))
  · intro f g
    rw [← Bool.decide_or]
    exact decide_eq_true (String.le_total f.name g.name)

/-- **Fields with distinct names have one order by name.** -/
theorem byName_eq_iff (h : (fs.map (·.name)).Nodup) : byName fs = byName gs ↔ fs.Perm gs := by
  constructor
  · intro heq
    exact (byName_perm fs).symm.trans (heq ▸ byName_perm gs)
  · intro hperm
    have hsorted : (byName fs).Perm (byName gs) := (byName_perm fs).trans (hperm.trans (byName_perm gs).symm)
    refine hsorted.eq_of_pairwise ?_ (byName_pairwise fs) (byName_pairwise gs)
    intro f g hf hg hfg hgf
    have hname : f.name = g.name := String.le_antisymm hfg hgf
    exact List.inj_on_of_nodup_map h ((byName_perm fs).mem_iff.1 hf)
      (hperm.mem_iff.2 ((byName_perm gs).mem_iff.1 hg)) hname

/-! ## The bytes that are hashed -/

theorem fieldFrames_ne_nil (f : Field) : fieldFrames f ≠ [] := by
  intro h
  have hlength := congrArg List.length h
  simp only [fieldFrames, frameText, frame, List.length_append, length_bigEndian, List.length_nil] at hlength
  omega

/-- **The frames of fields can be read back**, one field after the other. -/
theorem flatMap_fieldFrames_inj (hf : ∀ f ∈ fs, f.Declared ∧ ShortField f) (hg : ∀ g ∈ gs, g.Declared ∧ ShortField g)
    (h : fs.flatMap fieldFrames = gs.flatMap fieldFrames) : fs = gs := by
  induction fs generalizing gs with
  | nil =>
    cases gs with
    | nil => rfl
    | cons g gs => exact absurd (List.append_eq_nil_iff.1 h.symm).1 (fieldFrames_ne_nil g)
  | cons f fs ih =>
    cases gs with
    | nil => exact absurd (List.append_eq_nil_iff.1 h).1 (fieldFrames_ne_nil f)
    | cons g gs =>
      obtain ⟨⟨hfd, hfs⟩, hf⟩ := List.forall_mem_cons.1 hf
      obtain ⟨⟨hgd, hgs⟩, hg⟩ := List.forall_mem_cons.1 hg
      obtain ⟨hfg, hrest⟩ := fieldFrames_append_inj hfd hgd hfs hgs h
      rw [hfg, ih hf hg hrest]

end Fingerprint

namespace Schema

open Fingerprint

variable {d e : Declaration} {s t : Schema}

/-- The bytes that are hashed for a schema. -/
def hashed (s : Schema) : List UInt8 :=
  content s.table s.fields

/-- **All texts that are hashed for a schema are short.** -/
structure Short (s : Schema) : Prop where
  table : Fingerprint.Short s.table
  fields : ∀ f ∈ s.fields, ShortField f

theorem names_of_ofDeclaration (h : Schema.ofDeclaration d = .ok s) : (s.fields.map (·.name)).Nodup := by
  obtain ⟨_, _, h⟩ := bind_eq_ok_iff.1 h
  obtain ⟨_, _, h⟩ := bind_eq_ok_iff.1 h
  exact (checked_of_new h).1.names

/-- Tables of one name with the same fields are hashed alike, in whatever order the fields are. -/
theorem hashed_of_perm (hs : Schema.ofDeclaration d = .ok s) (htable : s.table = t.table)
    (hfields : s.fields.Perm t.fields) : s.hashed = t.hashed := by
  rw [hashed, hashed, content, content, htable, (byName_eq_iff (names_of_ofDeclaration hs)).2 hfields]

/-- **The hashed bytes say everything about a table but the order of its fields.** -/
theorem hashed_eq_iff (hs : Schema.ofDeclaration d = .ok s) (ht : Schema.ofDeclaration e = .ok t) (hss : s.Short)
    (hts : t.Short) : s.hashed = t.hashed ↔ s.table = t.table ∧ s.fields.Perm t.fields := by
  constructor
  · intro h
    obtain ⟨htable, hfields⟩ := frameText_append_inj hss.table hts.table h
    refine ⟨htable, (byName_eq_iff (names_of_ofDeclaration hs)).1 (flatMap_fieldFrames_inj ?_ ?_ hfields)⟩
    · intro f hf
      have hmem := (byName_perm s.fields).mem_iff.1 hf
      exact ⟨declared_of_mem hs hmem, hss.fields f hmem⟩
    · intro g hg
      have hmem := (byName_perm t.fields).mem_iff.1 hg
      exact ⟨declared_of_mem ht hmem, hts.fields g hmem⟩
  · rintro ⟨htable, hfields⟩
    exact hashed_of_perm hs htable hfields

/-- **The fingerprint identifies a table.** Two declarations have one fingerprint exactly if the names of their tables
are the same and their fields up to the order, unless their bytes are a collision of the hash function. -/
theorem fingerprint_eq_iff (hs : Schema.ofDeclaration d = .ok s) (ht : Schema.ofDeclaration e = .ok t) (hss : s.Short)
    (hts : t.Short) (hcollision : ¬ Sha256.Collision s.hashed t.hashed) :
    s.fingerprint = t.fingerprint ↔ s.table = t.table ∧ s.fields.Perm t.fields := by
  rw [← hashed_eq_iff hs ht hss hts]
  constructor
  · intro h
    by_contra hne
    exact hcollision ⟨hne, Sha256.hex_inj h⟩
  · intro h
    exact congrArg (fun bytes => Sha256.hex (Sha256.digest bytes)) h

/-! ## An item under several declarations -/

/-- An item with the given members. -/
def item (members : List Member) : Declaration :=
  ⟨"Item", members, none⟩

def idMember (tag : String) : Member :=
  .field "Id" tag (.int 64)

def ownerMember : Member :=
  .field "Owner" "default:'';fk:person.id" .string

def itemSchema (fields : List Field) : Schema :=
  ⟨"item", "item", fields⟩

def idField (notNull : Bool) : Field :=
  { name := "Id", column := "id", type := .signed .w64, notNull := notNull }

def ownerField : Field :=
  { name := "Owner", column := "owner", type := .text, default := some "''", foreignKey := some ⟨"person", "id"⟩ }

theorem short_item {fields : List Field} (h : ∀ f ∈ fields, ShortField f) : (itemSchema fields).Short :=
  ⟨(by decide : Fingerprint.Short "item"), h⟩

theorem short_idField (notNull : Bool) : ShortField (idField notNull) :=
  ⟨(by decide : Fingerprint.Short "Id"), (by decide : Fingerprint.Short "id"), nofun, nofun, nofun⟩

theorem short_ownerField : ShortField ownerField := by
  refine ⟨by decide, by decide, nofun, fun _ h => ?_, fun _ h => ?_⟩
  · cases h; decide
  · cases h; decide

/-- The fingerprint of an item does not depend on the order of its members, and it tells whether a member may be
null. -/
theorem fingerprint_eq_iff_item :
    (itemSchema [idField false, ownerField]).fingerprint = (itemSchema [ownerField, idField false]).fingerprint ∧
    (itemSchema [idField false]).fingerprint ≠ (itemSchema [idField true]).fingerprint := by
  have hfirst : Schema.ofDeclaration (item [idMember "", ownerMember]) =
    .ok (itemSchema [idField false, ownerField]) := rfl
  have hsecond : Schema.ofDeclaration (item [ownerMember, idMember ""]) =
    .ok (itemSchema [ownerField, idField false]) := rfl
  have hnull : Schema.ofDeclaration (item [idMember ""]) = .ok (itemSchema [idField false]) := rfl
  have hnotNull : Schema.ofDeclaration (item [idMember "not_null"]) = .ok (itemSchema [idField true]) := rfl
  have hperm : [idField false, ownerField].Perm [ownerField, idField false] := .swap ..
  constructor
  · refine (fingerprint_eq_iff hfirst hsecond (short_item ?_) (short_item ?_) ?_).2 ⟨rfl, hperm⟩
    · exact List.forall_mem_cons.2 ⟨short_idField _, List.forall_mem_singleton.2 short_ownerField⟩
    · exact List.forall_mem_cons.2 ⟨short_ownerField, List.forall_mem_singleton.2 (short_idField _)⟩
    · exact fun h => h.1 (hashed_of_perm hfirst rfl hperm)
  · intro h
    have hdigest :
        Sha256.digest (itemSchema [idField false]).hashed ≠ Sha256.digest (itemSchema [idField true]).hashed := by
      simp only [hashed, content, itemSchema, byName, List.mergeSort_singleton, List.flatMap_cons, List.flatMap_nil,
        fieldFrames, frameText, toList_toUTF8]
      decide +kernel
    have hshort : ∀ notNull, (itemSchema [idField notNull]).Short := fun notNull =>
      short_item (List.forall_mem_singleton.2 (short_idField notNull))
    have hsame := (fingerprint_eq_iff hnull hnotNull (hshort false) (hshort true) fun hc => hdigest hc.2).1 h
    exact absurd hsame.2 (by decide)

end Schema

end SchemaSql
