import SchemaSql.Binary64.Basic

/-!
# Integers as binary64 numbers

An integer is rounded within its binade or up to the next one, so its index is bounded by its number of
bits (`nearestIndex_one_le`). No integer of fewer than 1024 bits rounds to infinity (`ofInt_finite`), and no
integer that JSON denotes exactly comes near that.
-/

namespace SchemaSql.Binary64

/-- A rounded quotient is the quotient or the next number. -/
theorem divNearestEven_le (num den : Nat) : divNearestEven num den ≤ num / den + 1 := by
  simp only [divNearestEven]
  split
  · exact Nat.le_succ _
  · split
    · exact Nat.le_refl _
    · split
      · exact Nat.le_succ _
      · exact Nat.le_refl _

/-- The exponent of a positive integer is that of its highest bit. -/
theorem floorLogTwo_one {n : Nat} (h : n ≠ 0) : floorLogTwo n 1 = Nat.log2 n := by
  have hlow : 2 ^ Nat.log2 n ≤ n := Nat.log2_self_le h
  have hk : (Nat.log2 n : Int) - (Nat.log2 1 : Int) = Nat.log2 n := by
    rw [show Nat.log2 1 = 0 from rfl]
    omega
  have hscale : scaleTwo 1 1 (Nat.log2 n : Int) = (2 ^ Nat.log2 n, 1) := by
    rw [scaleTwo, if_pos (Int.natCast_nonneg _), Int.toNat_natCast, Nat.one_mul]
    rfl
  simp only [floorLogTwo, hk, hscale, Nat.mul_one, Nat.one_mul]
  exact if_neg (Nat.not_lt.2 hlow)

/-- **An integer scaled to its highest bit** has at most 53 bits before its point. -/
theorem scaled_lt {n : Nat} :
    (scaleTwo n 1 (52 - Nat.log2 n : Int)).1 / (scaleTwo n 1 (52 - Nat.log2 n : Int)).2 < Nat.pow 2 53 := by
  have hhigh : n < 2 ^ (Nat.log2 n + 1) := Nat.lt_log2_self
  unfold scaleTwo
  split
  · have hexponent : Nat.log2 n + 1 + (52 - Nat.log2 n : Int).toNat = 53 := by omega
    have hscaled := Nat.mul_lt_mul_of_pos_right hhigh (Nat.two_pow_pos (52 - Nat.log2 n : Int).toNat)
    rw [← Nat.pow_add, hexponent] at hscaled
    rw [Nat.div_one]
    exact hscaled
  · have hexponent : (-(52 - Nat.log2 n : Int)).toNat + 53 = Nat.log2 n + 1 := by omega
    rw [← hexponent, Nat.pow_add] at hhigh
    rw [Nat.one_mul]
    exact Nat.div_lt_of_lt_mul hhigh

/-- **The index of an integer** is bounded by the number of its bits. -/
theorem nearestIndex_one_le {n : Nat} (h : n ≠ 0) : nearestIndex n 1 ≤ (Nat.log2 n + 1024) * binade := by
  have hq : max ((Nat.log2 n : Int) - 52) (-1074) = Nat.log2 n - 52 := by omega
  have hneg : -((Nat.log2 n : Int) - 52) = 52 - Nat.log2 n := by omega
  have hexponent : ((Nat.log2 n : Int) - 52 + 1074).toNat = Nat.log2 n + 1022 := by omega
  have hround := divNearestEven_le (scaleTwo n 1 (52 - Nat.log2 n : Int)).1 (scaleTwo n 1 (52 - Nat.log2 n : Int)).2
  have hscaled := scaled_lt (n := n)
  have hbinade : Nat.pow 2 53 = 2 * binade := rfl
  simp only [nearestIndex, if_neg h, floorLogTwo_one h, hq, hneg, hexponent]
  calc (Nat.log2 n + 1022) * binade + divNearestEven _ _
      ≤ (Nat.log2 n + 1022) * binade + 2 * binade := by omega
    _ = (Nat.log2 n + 1024) * binade := by rw [← Nat.add_mul]

/-- **No integer of fewer than 1024 bits is rounded to infinity.** -/
theorem ofInt_finite {n : Int} {bits : Nat} (h : n.natAbs < Nat.pow 2 bits) (hb : bits < 1024) :
    ∃ x, ofInt n = .finite x := by
  have hindex : nearestIndex n.natAbs 1 < indexBound := by
    by_cases hzero : n.natAbs = 0
    · rw [hzero]
      decide
    · have hlog : Nat.log2 n.natAbs < bits := (Nat.log2_lt hzero).2 h
      calc nearestIndex n.natAbs 1 ≤ (Nat.log2 n.natAbs + 1024) * binade := nearestIndex_one_le hzero
        _ ≤ 2046 * binade := Nat.mul_le_mul_right _ (by omega)
        _ < indexBound := by decide
  exact ⟨⟨decide (n < 0), _, hindex⟩, dif_pos hindex⟩

end SchemaSql.Binary64
