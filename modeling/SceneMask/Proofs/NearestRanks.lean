-- The law of rounding. A number goes to the nearest magnitude of the format,
-- and from half way between two of them to the one of even rank. No number
-- is around two ranks at once, so this says which rank rounding gives.
import Mathlib
import SceneMask.Proofs.ExactNumbers

namespace SceneMask

/-! ## Quotients -/

/-- The nearest quotient is no further from the number than a half, and, if it
is odd, less than that. -/
theorem nearestQuotient_near (num : Nat) {den : Nat} (hden : 0 < den) :
    2 * nearestQuotient num den * den ≤ 2 * num + den ∧
      2 * num ≤ 2 * nearestQuotient num den * den + den ∧
      (nearestQuotient num den % 2 = 1 →
        2 * nearestQuotient num den * den < 2 * num + den ∧
          2 * num < 2 * nearestQuotient num den * den + den) := by
  have hnum : num / den * den + num % den = num := Nat.div_add_mod' num den
  have hrest : num % den < den := Nat.mod_lt num hden
  have hdown : 2 * (num / den) * den = 2 * (num / den * den) := Nat.mul_assoc _ _ _
  have hup : 2 * (num / den + 1) * den = 2 * (num / den * den) + 2 * den := by ring
  unfold nearestQuotient
  dsimp only
  split
  · rw [hdown]
    omega
  split
  · rw [hup]
    omega
  · -- half way: an odd quotient gives way to the next one
    rcases Nat.mod_two_eq_zero_or_one (num / den) with heven | hodd
    · rw [heven, Nat.add_zero, hdown]
      omega
    · rw [hodd, hup]
      omega

/-- The same for a number of steps, each of them so many smallest ones. -/
theorem nearestQuotient_near_steps (num : Nat) {den step : Nat} (hden : 0 < den)
    (hstep : 0 < step) :
    (2 * nearestQuotient num (den * step) * step - step : ℚ) ≤ 2 * (num / den) ∧
      2 * (num / den) ≤ (2 * nearestQuotient num (den * step) * step + step : ℚ) ∧
      (nearestQuotient num (den * step) % 2 = 1 →
        (2 * nearestQuotient num (den * step) * step - step : ℚ) < 2 * (num / den) ∧
          2 * (num / den) < (2 * nearestQuotient num (den * step) * step + step : ℚ)) := by
  obtain ⟨hdown, hup, hodd⟩ := nearestQuotient_near num (Nat.mul_pos hden hstep)
  generalize nearestQuotient num (den * step) = s at *
  have hpos : (0 : ℚ) < den := by exact_mod_cast hden
  have hsteps : (2 * s * (den * step) : ℚ) = 2 * s * step * den := by ring
  rw [← mul_div_assoc, le_div_iff₀ hpos, div_le_iff₀ hpos, lt_div_iff₀ hpos, div_lt_iff₀ hpos]
  qify at hdown hup
  refine ⟨by linarith, by linarith, fun h => ?_⟩
  obtain ⟨hdown, hup⟩ := hodd h
  qify at hdown hup
  exact ⟨by linarith, by linarith⟩

namespace Format

variable (f : Format)

/-- Rounding finds a step for each number. The significand is at most two
binades long, and as long as one unless the step is the smallest one. -/
theorem nearestRank_cases (num : Nat) {den : Nat} (hden : 0 < den) :
    ∃ d, f.nearestRank num den = d * f.binade + nearestQuotient num (den * 2 ^ d) ∧
      num < 2 * f.binade * (den * 2 ^ d) ∧ (d = 0 ∨ f.binade * (den * 2 ^ d) ≤ num) := by
  refine ⟨Nat.log2 (num / den) - (f.precision - 1), rfl, ?_, ?_⟩
  · have hhigh : num / den < 2 * f.binade * 2 ^ (Nat.log2 (num / den) - (f.precision - 1)) :=
      calc num / den < 2 ^ (Nat.log2 (num / den) + 1) := Nat.lt_log2_self
        _ ≤ 2 ^ (f.precision - 1 + 1 + (Nat.log2 (num / den) - (f.precision - 1))) :=
          Nat.pow_le_pow_right (by decide) (by omega)
        _ = 2 * f.binade * 2 ^ (Nat.log2 (num / den) - (f.precision - 1)) := by
          rw [pow_add, two_mul_binade]
    rw [Nat.div_lt_iff_lt_mul hden] at hhigh
    rwa [Nat.mul_comm den, ← Nat.mul_assoc]
  · rcases Nat.eq_zero_or_pos (Nat.log2 (num / den) - (f.precision - 1)) with hzero | hpos
    · exact Or.inl hzero
    · right
      have hne : num / den ≠ 0 := by
        intro hzero
        simp [hzero] at hpos
      have hlow : f.binade * 2 ^ (Nat.log2 (num / den) - (f.precision - 1)) ≤ num / den := by
        rw [binade_eq, ← pow_add, ← Nat.le_log2 hne]
        omega
      rw [Nat.le_div_iff_mul_le hden] at hlow
      rwa [Nat.mul_comm den, ← Nat.mul_assoc]

/-- A rank is as even as its significand, since a binade has an even length. -/
theorem rank_mod_two (hprecision : 2 ≤ f.precision) (d s : Nat) :
    (d * f.binade + s) % 2 = s % 2 := by
  obtain ⟨half, hhalf⟩ : 2 ∣ f.binade := dvd_pow_self 2 (by omega)
  rw [hhalf, show d * (2 * half) + s = s + 2 * (d * half) by ring, Nat.add_mul_mod_self_left]

/-! ## Numbers around a rank -/

/-- A number of smallest steps is around a rank: it is no further from the
magnitude than half way to the next ones, and, if the rank is odd, nearer. -/
structure RoundsTo (q : ℚ) (rank : Nat) : Prop where
  low : (f.magnitude (rank - 1) + f.magnitude rank : ℚ) ≤ 2 * q
  high : 2 * q ≤ (f.magnitude rank + f.magnitude (rank + 1) : ℚ)
  strict : rank % 2 = 1 → (f.magnitude (rank - 1) + f.magnitude rank : ℚ) < 2 * q ∧
    2 * q < (f.magnitude rank + f.magnitude (rank + 1) : ℚ)

variable {f} {q : ℚ} {rank rank' : Nat}

theorem magnitude_le (h : rank ≤ rank') : (f.magnitude rank : ℚ) ≤ f.magnitude rank' := by
  exact_mod_cast f.magnitude_strictMono.monotone h

theorem RoundsTo.not_lt (h : f.RoundsTo q rank) (h' : f.RoundsTo q rank') : ¬ rank < rank' := by
  intro hlt
  have hlow := magnitude_le (f := f) (show rank ≤ rank' - 1 by omega)
  have hhigh := magnitude_le (f := f) (show rank + 1 ≤ rank' by omega)
  -- both ranks reach the number, so it is half way between neighbours
  have hsame : (f.magnitude rank : ℚ) = f.magnitude (rank' - 1) := by
    have := h.high
    have := h'.low
    linarith
  have hnext : rank = rank' - 1 := f.magnitude_strictMono.injective (by exact_mod_cast hsame)
  rcases Nat.mod_two_eq_zero_or_one rank with heven | hodd
  · have := (h'.strict (by omega)).1
    have := h.high
    linarith
  · have := (h.strict hodd).2
    have := h'.low
    linarith

theorem RoundsTo.unique (h : f.RoundsTo q rank) (h' : f.RoundsTo q rank') : rank = rank' :=
  Nat.le_antisymm (Nat.not_lt.1 (h'.not_lt h)) (Nat.not_lt.1 (h.not_lt h'))

theorem roundsTo_magnitude (f : Format) (rank : Nat) : f.RoundsTo (f.magnitude rank) rank := by
  have hlow := magnitude_le (f := f) (show rank - 1 ≤ rank by omega)
  have hhigh : (f.magnitude rank : ℚ) < f.magnitude (rank + 1) := by
    exact_mod_cast f.magnitude_strictMono rank.lt_succ_self
  refine ⟨by linarith, by linarith, fun hodd => ⟨?_, by linarith⟩⟩
  have hlt : (f.magnitude (rank - 1) : ℚ) < f.magnitude rank := by
    exact_mod_cast f.magnitude_strictMono (show rank - 1 < rank by omega)
  linarith

/-- Less than half a smallest step is around zero. -/
theorem roundsTo_zero (hq : 0 ≤ q) (hlt : 2 * q < 1) : f.RoundsTo q 0 := by
  have hone : (1 : ℚ) ≤ f.magnitude 1 := by
    have hpos := f.magnitude_strictMono Nat.zero_lt_one
    exact_mod_cast Nat.succ_le_of_lt (Nat.zero_lt_of_lt hpos)
  refine ⟨?_, ?_, fun hodd => by cases hodd⟩
  · rw [Nat.zero_sub, f.magnitude_zero]
    push_cast
    linarith
  · rw [f.magnitude_zero]
    push_cast
    linarith

/-- The next magnitude is at least one step away. -/
theorem le_magnitude_succ {d s : Nat} (hlow : d = 0 ∨ f.binade ≤ s) (hhigh : s ≤ 2 * f.binade) :
    (s + 1) * 2 ^ d ≤ f.magnitude (d * f.binade + s + 1) := by
  have hB := f.binade_pos
  rcases Nat.lt_or_eq_of_le hhigh with hlt | rfl
  · rw [Nat.add_assoc, f.magnitude_rank (hlow.imp_right Nat.le_succ_of_le) hlt]
  · -- two binades of significands end where the steps of twice the length begin
    have hnext : d * f.binade + 2 * f.binade + 1 = (d + 1) * f.binade + (f.binade + 1) := by ring
    rw [hnext, f.magnitude_rank (Or.inr (by omega)) (by omega), pow_succ]
    calc (2 * f.binade + 1) * 2 ^ d ≤ (2 * f.binade + 2) * 2 ^ d :=
          Nat.mul_le_mul_right _ (by omega)
      _ = (f.binade + 1) * (2 ^ d * 2) := by ring

/-! ## The law -/

/-- Rounding gives the rank that the number is around. -/
theorem roundsTo_nearestRank (hprecision : 2 ≤ f.precision) (num : Nat) {den : Nat}
    (hden : 0 < den) : f.RoundsTo (num / den) (f.nearestRank num den) := by
  obtain ⟨d, hrank, hhigh, hlow⟩ := f.nearestRank_cases num hden
  have hstep : 0 < den * 2 ^ d := Nat.mul_pos hden (Nat.two_pow_pos d)
  obtain ⟨hdown, hup, hodd⟩ := nearestQuotient_near_steps num hden (Nat.two_pow_pos d)
  have hquotient := nearestQuotient_cases num (den * 2 ^ d)
  have hbelow : num / (den * 2 ^ d) < 2 * f.binade := (Nat.div_lt_iff_lt_mul hstep).2 hhigh
  have habove : d = 0 ∨ f.binade ≤ num / (den * 2 ^ d) :=
    hlow.imp_right (Nat.le_div_iff_mul_le hstep).2
  have hfloor : num / (den * 2 ^ d) * (den * 2 ^ d) ≤ num := Nat.div_mul_le_self _ _
  rw [hrank]
  generalize nearestQuotient num (den * 2 ^ d) = s at *
  have hparity := f.rank_mod_two hprecision d s
  have hlead : d = 0 ∨ f.binade ≤ s := habove.imp_right (by omega)
  have hmagnitude := f.magnitude_rank hlead (by omega)
  have hnext := le_magnitude_succ (f := f) hlead (by omega)
  have hupper : ((2 * s + 1) * 2 ^ d : ℚ) ≤
      f.magnitude (d * f.binade + s) + f.magnitude (d * f.binade + s + 1) := by
    rw [hmagnitude]
    qify at hnext
    push_cast
    linarith
  push_cast at hdown hup hodd
  have hsum : (f.magnitude (d * f.binade + s - 1) + f.magnitude (d * f.binade + s) : ℚ) =
      2 * s * 2 ^ d - 2 ^ d ∨ (f.magnitude (d * f.binade + s) : ℚ) ≤ num / den := by
    rcases hquotient with hfloored | hraised
    · right
      rw [hmagnitude, le_div_iff₀ (by exact_mod_cast hden)]
      rw [← hfloored] at hfloor
      qify at hfloor
      push_cast
      linarith
    · left
      have hbefore := f.magnitude_rank habove hbelow.le
      rw [hmagnitude, hraised, ← Nat.add_assoc, Nat.add_sub_cancel, hbefore]
      push_cast
      ring
  have hbefore := magnitude_le (f := f) (Nat.sub_le (d * f.binade + s) 1)
  refine ⟨?_, ?_, fun hrankodd => ⟨?_, ?_⟩⟩
  · rcases hsum with hsum | hsum <;> linarith
  · linarith
  · have hlt := f.magnitude_strictMono (show d * f.binade + s - 1 < d * f.binade + s by omega)
    qify at hlt
    have := (hodd (by omega)).1
    rcases hsum with hsum | hsum <;> linarith
  · have := (hodd (by omega)).2
    linarith

end Format

namespace Binary

variable {f : Format}

/-- The number of a rank; what is beyond the ranks of the format is infinite. -/
def ofRank (negative : Bool) (rank : Nat) : Binary f :=
  if h : rank < f.infinityRank then finite negative ⟨rank, h⟩ else infinite negative

theorem ofRatio_eq_ofRank (hprecision : 2 ≤ f.precision) (negative : Bool) {num den rank : Nat}
    (hden : 0 < den) (h : f.RoundsTo (num / den) rank) :
    (ofRatio negative num den : Binary f) = ofRank negative rank := by
  rw [← (Format.roundsTo_nearestRank hprecision num hden).unique h]
  rfl

end Binary

end SceneMask
