import SchemaSql.Field.Fingerprint
import SchemaSql.Proofs.Declaration.Declared

/-!
# Reading frames back

A value behind its length can be told from whatever follows it, if its length fits into four bytes
(`frame_append_inj`). So the frames of fields can be told from what follows them as well, and from them the fields:
what is not there has an empty frame, which no part of a declared field has, and the text of a foreign key has its
only point between two identifiers.
-/

namespace SchemaSql

theorem Identifier.Valid.not_mem_point {name : String} (h : Identifier.Valid name) : '.' ∉ name.toList :=
  h.lacks (by decide)

namespace Fingerprint

/-- The length of a text in UTF-8 fits into four bytes. -/
def Short (s : String) : Prop :=
  s.utf8ByteSize < 4294967296

instance (s : String) : Decidable (Short s) :=
  inferInstanceAs (Decidable (_ < _))

/-- **All texts that are hashed for a field are short.** -/
structure ShortField (f : Field) : Prop where
  name : Short f.name
  column : Short f.column
  sqlType : ∀ text, f.sqlType = some text → Short text
  default : ∀ literal, f.default = some literal → Short literal
  foreignKey : ∀ k, f.foreignKey = some k → Short (targetText k)

/-! ## Frames -/

variable {a b x y : List UInt8}

theorem length_bigEndian (count n : Nat) : (Sha256.bigEndian count n).length = count := by
  rw [Sha256.bigEndian, List.length_map, List.length_range]

theorem bigEndian_four_inj {m n : Nat} (hm : m < 4294967296) (hn : n < 4294967296)
    (h : Sha256.bigEndian 4 m = Sha256.bigEndian 4 n) : m = n := by
  have hbytes : ∀ k, (Sha256.bigEndian 4 k).map UInt8.toNat =
      [k / 16777216 % 256, k / 65536 % 256, k / 256 % 256, k % 256] := by
    intro k
    simp [Sha256.bigEndian, List.range_succ]
  have hmn := congrArg (List.map UInt8.toNat) h
  rw [hbytes, hbytes] at hmn
  simp only [List.cons.injEq, and_true] at hmn
  omega

/-- **A frame can be told from what follows it.** -/
theorem frame_append_inj (ha : a.length < 4294967296) (hb : b.length < 4294967296)
    (h : frame a ++ x = frame b ++ y) : a = b ∧ x = y := by
  rw [frame, frame, List.append_assoc, List.append_assoc] at h
  obtain ⟨hlength, h⟩ := List.append_inj h (by rw [length_bigEndian, length_bigEndian])
  have hab : a.length = b.length := by
    have := bigEndian_four_inj (by omega) (by omega) hlength
    omega
  exact List.append_inj h hab

theorem toList_loop (bytes : ByteArray) (i : Nat) (before : List UInt8) :
    ByteArray.toList.loop bytes i before = before.reverse ++ bytes.data.toList.drop i := by
  fun_induction ByteArray.toList.loop bytes i before with
  | case1 i before hi ih =>
    have hlt : i < bytes.data.toList.length := hi
    rw [ih, List.drop_eq_getElem_cons hlt, List.reverse_cons, List.append_assoc]
    simp [ByteArray.get!, hi]
  | case2 i before hi =>
    rw [List.drop_eq_nil_of_le (Nat.le_of_not_lt hi), List.append_nil]

theorem toList_toUTF8 (s : String) : s.toUTF8.toList = s.toByteArray.data.toList := by
  rw [ByteArray.toList, toList_loop]
  rfl

theorem frameText_append_inj {s t : String} (hs : Short s) (ht : Short t)
    (h : frameText s ++ x = frameText t ++ y) : s = t ∧ x = y := by
  rw [frameText, frameText, toList_toUTF8, toList_toUTF8] at h
  obtain ⟨hbytes, hrest⟩ := frame_append_inj hs ht h
  exact ⟨String.toByteArray_inj.1 (ByteArray.ext (Array.toList_inj.1 hbytes)), hrest⟩

/-! ## The frames of a field -/

theorem short_name (t : ScalarType) : Short t.name := by
  cases t with
  | signed w => cases w <;> decide
  | unsigned w => cases w <;> decide
  | _ => decide

theorem name_inj {t u : ScalarType} (h : t.name = u.name) : t = u :=
  Option.some.inj ((ScalarType.ofName?_name t).symm.trans (h ▸ ScalarType.ofName?_name u))

theorem flag_inj {b c : Bool} (h : flag b = flag c) : b = c := by
  cases b <;> cases c <;> first | rfl | cases h

/-- What is not there and what has text are told apart by their texts. -/
theorem getD_empty_inj {o p : Option String} (ho : o ≠ some "") (hp : p ≠ some "") (h : o.getD "" = p.getD "") :
    o = p := by
  cases o with
  | none =>
    cases p with
    | none => rfl
    | some t => exact absurd (congrArg some h.symm) hp
  | some s =>
    cases p with
    | none => exact absurd (congrArg some h) ho
    | some t => exact congrArg some h

theorem toList_targetText (k : ForeignKey) :
    (targetText k).toList = k.table.toList ++ '.' :: k.column.toList := by
  simp [targetText]

/-- **The text of a foreign key has one point**, which separates table and column. -/
theorem targetText_inj {j k : ForeignKey} (hj : j.Valid) (hk : k.Valid) (h : targetText j = targetText k) : j = k := by
  have hcut : ∀ i : ForeignKey, i.Valid →
      Text.splitOnce '.' (targetText i).toList = some (i.table.toList, i.column.toList) := fun i hi =>
    Text.splitOnce_eq_some_iff.2 ⟨toList_targetText i, hi.1.not_mem_point⟩
  have hparts := (hcut j hj).symm.trans (h ▸ hcut k hk)
  obtain ⟨htable, hcolumn⟩ := Prod.mk.inj (Option.some.inj hparts)
  cases j
  cases k
  cases String.toList_inj.1 htable
  cases String.toList_inj.1 hcolumn
  rfl

theorem targetText_ne_empty (k : ForeignKey) : targetText k ≠ "" := by
  intro h
  have hlist := toList_targetText k
  rw [h] at hlist
  exact List.append_ne_nil_of_right_ne_nil _ (List.cons_ne_nil _ _) hlist.symm

theorem targetText_map_inj {j k : Option ForeignKey} (hj : ∀ i, j = some i → i.Valid) (hk : ∀ i, k = some i → i.Valid)
    (h : (j.map targetText).getD "" = (k.map targetText).getD "") : j = k := by
  have hsome : ∀ o : Option ForeignKey, o.map targetText ≠ some "" := by
    intro o ho
    obtain ⟨i, _, hi⟩ := Option.map_eq_some_iff.1 ho
    exact targetText_ne_empty i hi
  have hmap := getD_empty_inj (hsome j) (hsome k) h
  cases j with
  | none => exact (Option.map_eq_none_iff.1 hmap.symm).symm
  | some i =>
    obtain ⟨i', rfl, hi'⟩ := Option.map_eq_some_iff.1 hmap.symm
    rw [targetText_inj (hk i' rfl) (hj i rfl) hi']

theorem short_getD {o : Option String} (h : ∀ s, o = some s → Short s) : Short (o.getD "") := by
  cases o with
  | none => exact Nat.zero_lt_succ _
  | some s => exact h s rfl

/-- **The frames of a declared field tell it** from every other, and from what follows them. -/
theorem fieldFrames_append_inj {f g : Field} (hf : f.Declared) (hg : g.Declared) (hfs : ShortField f)
    (hgs : ShortField g) (h : fieldFrames f ++ x = fieldFrames g ++ y) : f = g ∧ x = y := by
  have htarget : ∀ e : Field, ShortField e → Short ((e.foreignKey.map targetText).getD "") := by
    intro e he
    refine short_getD fun s hs => ?_
    obtain ⟨k, hk, rfl⟩ := Option.map_eq_some_iff.1 hs
    exact he.foreignKey k hk
  simp only [fieldFrames, List.append_assoc] at h
  obtain ⟨hname, h⟩ := frameText_append_inj hfs.name hgs.name h
  obtain ⟨hcolumn, h⟩ := frameText_append_inj hfs.column hgs.column h
  obtain ⟨htype, h⟩ := frameText_append_inj (short_name _) (short_name _) h
  obtain ⟨hflags, h⟩ := frame_append_inj (by simp) (by simp) h
  obtain ⟨hsqlType, h⟩ := frameText_append_inj (short_getD hfs.sqlType) (short_getD hgs.sqlType) h
  obtain ⟨hdefault, h⟩ := frameText_append_inj (short_getD hfs.default) (short_getD hgs.default) h
  obtain ⟨hforeignKey, h⟩ := frameText_append_inj (htarget f hfs) (htarget g hgs) h
  simp only [List.cons.injEq, and_true] at hflags
  obtain ⟨hprimaryKey, hnotNull, hunique, hindexed, hembedded⟩ := hflags
  have htype := name_inj htype
  have hsqlType := getD_empty_inj hf.sqlType hg.sqlType hsqlType
  have hdefault := getD_empty_inj hf.default hg.default hdefault
  have hforeignKey := targetText_map_inj hf.foreignKey hg.foreignKey hforeignKey
  refine ⟨?_, h⟩
  cases f
  cases g
  cases hname
  cases hcolumn
  cases htype
  cases hsqlType
  cases hdefault
  cases hforeignKey
  cases flag_inj hprimaryKey
  cases flag_inj hnotNull
  cases flag_inj hunique
  cases flag_inj hindexed
  cases flag_inj hembedded
  rfl

end Fingerprint

end SchemaSql
