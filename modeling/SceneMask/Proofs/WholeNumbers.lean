-- The laws of sums in binary numbers. A sum is exact if the format has it,
-- so whole numbers up to the length of a significand add and subtract as
-- integers do, and become words again without loss.
import Mathlib
import SceneMask.Proofs.ExactSamples

namespace SceneMask

namespace Format

/-- The power of two above all significands is a number of the format too. -/
theorem double_has_int_of_le {n : Int} (h : n.natAbs ≤ 2 ^ 53) : double.Has (.number n) := by
  rcases Nat.lt_or_eq_of_le h with hlt | heq
  · exact double_has_int hlt
  · refine has_of_fits (n := 1 * 2 ^ (53 + double.scale)) (by decide) ⟨1, _, by decide, rfl⟩
      ?_ ?_
    · rw [Nat.one_mul]
      exact Nat.pow_lt_pow_right (by decide) (by decide)
    · rw [← Int.cast_abs, Int.abs_eq_natAbs, heq, one_eq, pow_add, Nat.one_mul]
      push_cast
      rfl

end Format

namespace Binary

variable {f : Format} {x y : Binary f} {a b : ℚ}

/-! ## Sums -/

theorem exists_finite (hx : x.exact = .number a) :
    ∃ negative rank, x = finite negative rank ∧ sign negative * f.magnitude rank / f.one = a := by
  cases x with
  | nan => simp [exact] at hx
  | infinite negative => simp [exact] at hx
  | finite negative rank =>
    rw [exact_finite, Exact.number.injEq] at hx
    exact ⟨negative, rank, rfl, hx⟩

theorem exists_exact (hx : x.isFinite = true) : ∃ value : ℚ, x.exact = .number value := by
  cases x with
  | nan => cases hx
  | infinite negative => cases hx
  | finite negative rank => exact ⟨_, rfl⟩

theorem exact_neg (hx : x.exact = .number a) : (-x).exact = .number (-a) := by
  obtain ⟨negative, rank, rfl, rfl⟩ := exists_finite hx
  show (neg (finite negative rank)).exact = _
  rw [neg, exact_finite]
  cases negative <;> simp [sign, neg_div]

theorem scaled_div_one (hx : x.exact = .number a) : (x.scaled : ℚ) / f.one = a := by
  obtain ⟨negative, rank, rfl, -⟩ := exists_finite hx
  simpa [exact] using hx

theorem add_eq_ofRatio (hx : x.exact = .number a) (hy : y.exact = .number b) :
    x + y = if x.scaled + y.scaled = 0 then zero (x.isNegative && y.isNegative)
      else ofRatio (decide (x.scaled + y.scaled < 0)) (x.scaled + y.scaled).natAbs 1 := by
  obtain ⟨negative, rank, rfl, -⟩ := exists_finite hx
  obtain ⟨negative', rank', rfl, -⟩ := exists_finite hy
  rfl

/-- A sum that the format has is exact. -/
theorem exact_add (hb : 0 < f.binades) (hx : x.exact = .number a) (hy : y.exact = .number b)
    (h : f.Has (.number (a + b))) : (x + y).exact = .number (a + b) := by
  rw [← scaled_div_one hx, ← scaled_div_one hy, ← add_div, ← Int.cast_add] at h ⊢
  rw [add_eq_ofRatio hx hy]
  generalize x.scaled + y.scaled = total at h ⊢
  split
  · rename_i hzero
    rw [hzero, exact_zero hb]
    simp
  · obtain ⟨z, hz⟩ := h
    obtain ⟨negative, rank, -, hrank⟩ := exists_finite hz
    rw [div_left_inj' f.cast_one_ne_zero, ← sign_mul_natAbs total] at hrank
    have hm : total.natAbs = f.magnitude rank := (sign_mul_inj hrank).symm
    rw [ofRatio_magnitude _ rank Nat.one_pos (by rw [hm, Nat.mul_one]), exact_finite, ← hm,
      sign_mul_natAbs]

theorem exact_sub (hb : 0 < f.binades) (hx : x.exact = .number a) (hy : y.exact = .number b)
    (h : f.Has (.number (a - b))) : (x - y).exact = .number (a - b) := by
  rw [sub_eq_add_neg] at h ⊢
  exact exact_add hb hx (exact_neg hy) h

/-! ## Order -/

theorem exists_place (hx : x ≠ nan) : ∃ place, x.place? = some place := by
  cases x with
  | nan => exact absurd rfl hx
  | infinite negative => exact ⟨_, rfl⟩
  | finite negative rank => exact ⟨_, rfl⟩

/-- Without NaN one of two numbers is below the other or not. -/
theorem le_iff_not_lt (hx : x ≠ nan) (hy : y ≠ nan) : x.le y = true ↔ ¬ y.lt x = true := by
  obtain ⟨a, ha⟩ := exists_place hx
  obtain ⟨b, hb⟩ := exists_place hy
  unfold le lt compareBy
  rw [ha, hb]
  simp

theorem ne_nan_of_exact (hx : x.exact = .number a) : x ≠ nan := by
  rintro rfl
  cases hx

/-- Places are in the order of the numbers. -/
theorem le_iff (hx : x.exact = .number a) (hy : y.exact = .number b) :
    x.le y = true ↔ a ≤ b := by
  obtain ⟨negative, rank, rfl, rfl⟩ := exists_finite hx
  obtain ⟨negative', rank', rfl, rfl⟩ := exists_finite hy
  have hone : (0 : ℚ) < f.one := by exact_mod_cast f.one_pos
  rw [div_le_div_iff_of_pos_right hone, sign_mul_magnitude_le_iff]
  simp [le, compareBy, place?]

theorem lt_iff (hx : x.exact = .number a) (hy : y.exact = .number b) :
    x.lt y = true ↔ a < b := by
  rw [← not_le, ← le_iff hy hx, le_iff_not_lt (ne_nan_of_exact hy) (ne_nan_of_exact hx), not_not]

theorem infinite_lt (hx : x.exact = .number a) : (infinite true).lt x = true := by
  obtain ⟨negative, rank, rfl, -⟩ := exists_finite hx
  have hrank := rank.isLt
  simp only [lt, compareBy, place?, decide_eq_true_eq]
  cases negative <;> simp only [Bool.false_eq_true, if_true, if_false] <;> omega

theorem lt_infinite (hx : x.exact = .number a) : x.lt (infinite false) = true := by
  obtain ⟨negative, rank, rfl, -⟩ := exists_finite hx
  have hrank := rank.isLt
  simp only [lt, compareBy, place?, decide_eq_true_eq]
  cases negative <;> simp only [Bool.false_eq_true, if_true, if_false] <;> omega

/-! ## Bounds -/

theorem lt_zero_iff (hb : 0 < f.binades) (hx : x.exact = .number a) :
    x.lt (zero false) = true ↔ a < 0 := lt_iff hx (exact_zero hb false)

theorem zero_le_iff (hb : 0 < f.binades) (hx : x.exact = .number a) :
    (zero false).le x = true ↔ 0 ≤ a := le_iff (exact_zero hb false) hx

theorem exact_max_zero (hb : 0 < f.binades) (hx : x.exact = .number a) :
    (x.max (zero false)).exact = .number (Max.max a 0) := by
  have hnan : x.isNaN = false := by
    obtain ⟨negative, rank, rfl, -⟩ := exists_finite hx
    rfl
  unfold Binary.max
  rw [hnan, if_neg (by decide)]
  split
  · rename_i hlt
    rw [exact_zero hb, max_eq_right ((lt_zero_iff hb hx).1 hlt).le]
  · rename_i hlt
    rw [hx, max_eq_left (not_lt.1 (mt (lt_zero_iff hb hx).2 hlt))]

/-- A whole number that a word holds becomes that word. -/
theorem toNat_toWord {n : Nat} (hx : x.exact = .number n) (hn : n < 2 ^ 64) :
    x.toWord.toNat = n := by
  have hint : x.exact = .number (n : Int) := by simpa using hx
  unfold toWord
  rw [clampInt_of_exact hint (by omega) (by omega), UInt64.toNat_ofNat']
  exact Nat.mod_eq_of_lt hn

end Binary

end SceneMask
