-- Where sums leave a format. A sum is finite as long as it is below a limit,
-- half a step above the greatest number of the format, and from there on it
-- is infinite. Zero times such a sum is no number.
import Mathlib
import SceneMask.Proofs.NearestRanks
import SceneMask.Proofs.WholeNumbers

namespace SceneMask

/-! ## Ranks beyond the format -/

namespace Format

variable (f : Format)

/-- Below the next whole number, an odd quotient is kept just if the number
is less than a half above it. -/
theorem nearestQuotient_lt_iff {num den n : Nat} (hden : 0 < den) (hodd : n % 2 = 1)
    (h : num < (n + 1) * den) : nearestQuotient num den < n + 1 ↔ 2 * num < (2 * n + 1) * den := by
  have hquotient : num / den < n + 1 := (Nat.div_lt_iff_lt_mul hden).2 h
  rcases Nat.lt_or_eq_of_le (Nat.le_of_lt_succ hquotient) with hlt | heq
  · have hcases := nearestQuotient_cases num den
    have hnum : num < n * den := (Nat.div_lt_iff_lt_mul hden).1 hlt
    have hhalf : (2 * n + 1) * den = 2 * (n * den) + den := by ring
    constructor <;> omega
  · have hrest : num = n * den + num % den := by rw [← heq, Nat.div_add_mod']
    have hhalf : (2 * n + 1) * den = 2 * (n * den) + den := by ring
    unfold nearestQuotient
    dsimp only
    rw [heq]
    split
    · omega
    · split <;> omega

/-- The limit of a format lies half a step above its greatest magnitude. A
half is rounded to the even neighbour, and there that is infinity. -/
theorem nearestRank_lt_iff (hb : 2 ≤ f.binades) (num : Nat) :
    f.nearestRank num 1 < f.infinityRank ↔
      2 * num < (4 * f.binade - 1) * 2 ^ (f.binades - 2) := by
  have hB := f.binade_pos
  obtain ⟨d, hrank, hhigh, hlow⟩ := f.nearestRank_cases num Nat.one_pos
  rw [Nat.one_mul] at hrank hhigh hlow
  have hstep : 0 < 2 ^ d := Nat.two_pow_pos d
  obtain ⟨e, he⟩ : ∃ e, f.binades = e + 2 := ⟨f.binades - 2, by omega⟩
  have hcases := nearestQuotient_cases num (2 ^ d)
  have hquotient : num / 2 ^ d < 2 * f.binade := (Nat.div_lt_iff_lt_mul hstep).2 hhigh
  rw [hrank, infinityRank, he, Nat.add_sub_cancel]
  have hinfinity : (e + 2) * f.binade = e * f.binade + 2 * f.binade := by ring
  -- `e` doublings make the last finite binade, and only there rounding decides
  rcases Nat.lt_trichotomy d e with hlt | rfl | hgt
  · have hrank : d * f.binade + f.binade ≤ e * f.binade := by
      rw [← Nat.succ_mul]
      exact Nat.mul_le_mul_right _ hlt
    have hnum : 2 * num < (4 * f.binade - 1) * 2 ^ e :=
      calc 2 * num < 2 * (2 * f.binade * 2 ^ d) := by omega
        _ = 2 * f.binade * 2 ^ (d + 1) := by ring
        _ ≤ (4 * f.binade - 1) * 2 ^ e :=
          Nat.mul_le_mul (by omega) (Nat.pow_le_pow_right (by decide) hlt)
    exact iff_of_true (by omega) hnum
  · have hodd : (2 * f.binade - 1) % 2 = 1 := by omega
    have hnext : 2 * f.binade - 1 + 1 = 2 * f.binade := by omega
    have hhalf : 2 * (2 * f.binade - 1) + 1 = 4 * f.binade - 1 := by omega
    have hlast := nearestQuotient_lt_iff hstep hodd (by rwa [hnext])
    rw [hnext, hhalf] at hlast
    rw [← hlast]
    omega
  · have hrank : e * f.binade + f.binade ≤ d * f.binade := by
      rw [← Nat.succ_mul]
      exact Nat.mul_le_mul_right _ hgt
    have hbinade := hlow.resolve_left (by omega)
    have hquotient := (Nat.le_div_iff_mul_le hstep).2 hbinade
    have hnum : (4 * f.binade - 1) * 2 ^ e ≤ 2 * num :=
      calc (4 * f.binade - 1) * 2 ^ e ≤ 4 * f.binade * 2 ^ e :=
          Nat.mul_le_mul_right _ (Nat.sub_le _ _)
        _ = 2 * (f.binade * 2 ^ (e + 1)) := by ring
        _ ≤ 2 * (f.binade * 2 ^ d) :=
          Nat.mul_le_mul_left _ (Nat.mul_le_mul_left _ (Nat.pow_le_pow_right (by decide) hgt))
        _ ≤ 2 * num := Nat.mul_le_mul_left _ hbinade
    exact iff_of_false (by omega) (not_lt.2 hnum)

/-- The least number that is rounded to infinity. -/
def limit : ℚ := (4 * f.binade - 1) * 2 ^ (f.binades - 2) / 2 / f.one

theorem double_limit : double.limit = 2 ^ 1024 - 2 ^ 970 := by
  have hsteps : (2 : ℚ) ^ 2045 = 2 ^ 970 * 2 * 2 ^ 1074 := by rw [← pow_succ, ← pow_add]
  have hbinade : (2 : ℚ) ^ 1024 = 4 * 2 ^ 52 * 2 ^ 970 := by
    rw [show (4 : ℚ) = 2 ^ 2 by norm_num, ← pow_add, ← pow_add]
  have hone : (2 : ℚ) ^ 1074 ≠ 0 := pow_ne_zero _ two_ne_zero
  have hlimit : double.limit = (4 * 2 ^ 52 - 1) * 2 ^ 2045 / 2 / 2 ^ 1074 := by
    rw [limit, binade_eq, one_eq, Nat.cast_pow, Nat.cast_pow]
    rfl
  rw [hlimit, hsteps, hbinade, ← mul_assoc, mul_div_right_comm, mul_div_cancel_right₀ _ hone,
    ← mul_assoc, mul_div_cancel_right₀ _ two_ne_zero, sub_mul, one_mul]

end Format

/-! ## Sums -/

namespace Binary

variable {f : Format} {x y : Binary f} {a b : ℚ}

theorem isFinite_ofRatio (negative : Bool) (num den : Nat) :
    (ofRatio negative num den : Binary f).isFinite = true ↔
      f.nearestRank num den < f.infinityRank := by
  unfold ofRatio
  dsimp only
  split
  · exact iff_of_true rfl ‹_›
  · exact iff_of_false (by simp [isFinite]) ‹_›

theorem ofRatio_of_not_isFinite {negative : Bool} {num den : Nat}
    (h : ¬(ofRatio negative num den : Binary f).isFinite = true) :
    (ofRatio negative num den : Binary f) = infinite negative :=
  dif_neg (mt (isFinite_ofRatio negative num den).2 h)

/-- Both zeros are the number of rank 0, so a sum of zero is no exception. -/
theorem exists_add_eq_ofRatio (hx : x.exact = .number a) (hy : y.exact = .number b) :
    ∃ negative, x + y = ofRatio negative (x.scaled + y.scaled).natAbs 1 := by
  rw [add_eq_ofRatio hx hy]
  split
  · rename_i hzero
    rw [hzero]
    exact ⟨_, rfl⟩
  · exact ⟨_, rfl⟩

theorem isFinite_add_iff (hb : 2 ≤ f.binades) (hx : x.exact = .number a)
    (hy : y.exact = .number b) : (x + y).isFinite = true ↔ |a + b| < f.limit := by
  obtain ⟨negative, hadd⟩ := exists_add_eq_ofRatio hx hy
  rw [hadd, isFinite_ofRatio, f.nearestRank_lt_iff hb, ← scaled_div_one hx, ← scaled_div_one hy,
    ← add_div, ← Int.cast_add]
  generalize x.scaled + y.scaled = total
  have hone : (0 : ℚ) < f.one := by exact_mod_cast f.one_pos
  have hsteps : 1 ≤ 4 * f.binade := by
    have hB := f.binade_pos
    omega
  rw [Format.limit, abs_div, abs_of_pos hone, div_lt_div_iff_of_pos_right hone,
    lt_div_iff₀ two_pos, ← Nat.cast_lt (α := ℚ)]
  push_cast [Nat.cast_sub hsteps]
  rw [mul_comm, Nat.cast_natAbs, Int.cast_abs]

theorem add_of_not_isFinite (hx : x.exact = .number a) (hy : y.exact = .number b)
    (h : ¬(x + y).isFinite = true) : ∃ negative, x + y = infinite negative := by
  obtain ⟨negative, hadd⟩ := exists_add_eq_ofRatio hx hy
  rw [hadd] at h ⊢
  exact ⟨negative, ofRatio_of_not_isFinite h⟩

/-! ## Zero parts -/

theorem exact_zero_mul (hb : 0 < f.binades) (hx : x.exact = .number a) :
    (zero false * x).exact = .number 0 := by
  have hpos : 0 < f.infinityRank := Nat.mul_pos hb f.binade_pos
  obtain ⟨negative, rank, rfl, -⟩ := exists_finite hx
  have hmul : zero false * finite negative rank =
      ofRatio (false ^^ negative) (f.magnitude 0 * f.magnitude rank) f.one := by
    rw [zero_eq hpos]
    rfl
  have hzero : f.magnitude 0 * f.magnitude rank = f.magnitude 0 * f.one := by
    rw [f.magnitude_zero, Nat.zero_mul, Nat.zero_mul]
  rw [hmul, ofRatio_magnitude _ ⟨0, hpos⟩ f.one_pos hzero, exact_finite, f.magnitude_zero]
  simp

theorem zero_mul_infinite (hb : 0 < f.binades) (negative : Bool) :
    (zero false * infinite negative : Binary f) = nan := by
  have hpos : 0 < f.infinityRank := Nat.mul_pos hb f.binade_pos
  rw [zero_eq hpos]
  exact if_pos f.magnitude_zero

theorem add_nan (x : Binary f) : x + nan = nan := by cases x <;> rfl

/-- Zero parts of the way from one number to another. They are nothing,
unless the way is too long for the format. -/
theorem exact_add_zero_mul_sub (hb : 2 ≤ f.binades) (hx : x.exact = .number a)
    (hy : y.exact = .number b) :
    (x + zero false * (y - x)).exact = if |b - a| < f.limit then .number a else .nan := by
  have hfinite := isFinite_add_iff hb hy (exact_neg hx)
  rw [← sub_eq_add_neg] at hfinite
  by_cases hlimit : |b - a| < f.limit
  · obtain ⟨width, hwidth⟩ := exists_exact (hfinite.2 hlimit)
    have hzero := exact_zero_mul (by omega) hwidth
    have hsum := exact_add (by omega) hx hzero
    rw [add_zero] at hsum
    rw [if_pos hlimit]
    exact hsum ⟨x, hx⟩
  · obtain ⟨negative, hinfinite⟩ := add_of_not_isFinite hy (exact_neg hx) (mt hfinite.1 hlimit)
    have hsub : y - x = infinite negative := hinfinite
    rw [if_neg hlimit, hsub, zero_mul_infinite (by omega), add_nan]
    rfl

end Binary

end SceneMask
