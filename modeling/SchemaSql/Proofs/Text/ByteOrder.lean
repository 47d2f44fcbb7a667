import Mathlib.Data.String.Basic

/-!
# The order of texts and of their bytes

Texts are ordered by the code points of their characters. Their bytes in UTF-8 have the same order (`Text.lt_iff_bytes_lt`):
the bytes of a character, whatever follows them, come before those of a greater character (`Text.encode_append_lt`). So
what goes by the order of texts, like the members of an object, goes by the order of bytes as well.
-/

namespace SchemaSql.Text

/-- **The bytes of a text** in UTF-8. -/
def bytes (s : String) : List UInt8 :=
  s.toUTF8.data.toList

theorem bytes_eq (s : String) : bytes s = s.toList.flatMap String.utf8EncodeChar := by
  have hencode : s.toUTF8 = (s.toList.flatMap String.utf8EncodeChar).toByteArray := s.utf8Encode_toList.symm
  rw [bytes, hencode, List.toList_data_toByteArray]

theorem code_lt (c : Char) : c.val.toNat < 1114112 := by
  rcases c.valid with h | h
  · exact Nat.lt_trans h (by decide)
  · exact h.2

/-- **The bytes of a character come before those of a greater one**, whatever follows them. Fewer bytes begin with a
smaller one; as many differ first in their first different digit. -/
theorem encode_append_lt {c d : Char} (h : c < d) (x y : List UInt8) :
    String.utf8EncodeChar c ++ x < String.utf8EncodeChar d ++ y := by
  have hlt : c.val.toNat < d.val.toNat := h
  have hmax : d.val.toNat < 1114112 := code_lt d
  have smaller {a b : Nat} {u v : List UInt8} (hb : b < 256) (hab : a < b) : UInt8.ofNat a :: u < UInt8.ofNat b :: v :=
    List.cons_lt_cons_iff.2 (.inl ((UInt8.ofNat_lt_iff_lt (Nat.lt_trans hab hb) hb).2 hab))
  have same {a b : Nat} {u v : List UInt8} (hab : a = b) (huv : u < v) : UInt8.ofNat a :: u < UInt8.ofNat b :: v :=
    List.cons_lt_cons_iff.2 (.inr ⟨congrArg UInt8.ofNat hab, huv⟩)
  simp only [String.utf8EncodeChar]
  generalize c.val.toNat = m at hlt
  generalize d.val.toNat = n at hlt hmax
  split_ifs <;> simp only [List.cons_append, List.nil_append]
  -- what is left are the characters of two, three and four bytes each
  all_goals try first | omega | exact smaller (by omega) (by omega)
  · rcases (by omega : m / 64 < n / 64 ∨ m / 64 = n / 64 ∧ m % 64 < n % 64) with h₁ | ⟨h₁, h₂⟩
    · exact smaller (by omega) (by omega)
    · exact same (by omega) (smaller (by omega) (by omega))
  · rcases (by omega : m / 4096 < n / 4096 ∨ m / 4096 = n / 4096 ∧ m / 64 < n / 64 ∨ m / 64 = n / 64 ∧ m % 64 < n % 64)
      with h₁ | ⟨h₁, h₂⟩ | ⟨h₂, h₃⟩
    · exact smaller (by omega) (by omega)
    · exact same (by omega) (smaller (by omega) (by omega))
    · exact same (by omega) (same (by omega) (smaller (by omega) (by omega)))
  · rcases (by omega : m / 262144 < n / 262144 ∨ m / 262144 = n / 262144 ∧ m / 4096 < n / 4096 ∨
        m / 4096 = n / 4096 ∧ m / 64 < n / 64 ∨ m / 64 = n / 64 ∧ m % 64 < n % 64)
      with h₁ | ⟨h₁, h₂⟩ | ⟨h₂, h₃⟩ | ⟨h₃, h₄⟩
    · exact smaller (by omega) (by omega)
    · exact same (by omega) (smaller (by omega) (by omega))
    · exact same (by omega) (same (by omega) (smaller (by omega) (by omega)))
    · exact same (by omega) (same (by omega) (same (by omega) (smaller (by omega) (by omega))))

theorem flatMap_encode_lt {cs ds : List Char} (h : cs < ds) :
    cs.flatMap String.utf8EncodeChar < ds.flatMap String.utf8EncodeChar := by
  induction cs generalizing ds with
  | nil =>
    cases ds with
    | nil => exact absurd h (List.lt_irrefl [])
    | cons d ds =>
      obtain ⟨b, bs, hb⟩ := List.exists_cons_of_ne_nil (String.utf8EncodeChar_ne_nil (c := d))
      rw [List.flatMap_nil, List.flatMap_cons, hb]
      exact List.nil_lt_cons _ _
  | cons c cs ih =>
    cases ds with
    | nil => exact absurd h (List.not_lt_nil _)
    | cons d ds =>
      rw [List.flatMap_cons, List.flatMap_cons]
      rcases List.cons_lt_cons_iff.1 h with hcd | ⟨rfl, hrest⟩
      · exact encode_append_lt hcd _ _
      · exact List.append_left_lt (ih hrest)

/-- **Texts are ordered as their bytes are.** -/
theorem lt_iff_bytes_lt {s t : String} : s < t ↔ bytes s < bytes t := by
  have hbytes : ∀ {s t : String}, s < t → bytes s < bytes t := by
    intro s t h
    rw [bytes_eq, bytes_eq]
    exact flatMap_encode_lt (String.lt_iff_toList_lt.1 h)
  refine ⟨hbytes, fun h => ?_⟩
  rcases lt_trichotomy s t with hlt | rfl | hgt
  · exact hlt
  · exact absurd h (List.lt_irrefl _)
  · exact absurd h (List.lt_asymm (hbytes hgt))

end SchemaSql.Text
