-- The values of decimals. The text of a decimal with a point is read as a
-- decimal of the same value, and a decimal becomes the binary number of the
-- rank that its value is around. The bounds that keep huge powers of ten away
-- never change the result.
import Mathlib
import SceneMask.Proofs.NearestRanks
import SceneMask.Proofs.Numerals

namespace SceneMask

/-! ## Digits -/

theorem lt_pow_length_digits (n : Nat) : n < 10 ^ (digits n).length :=
  (Nat.length_toDigits_le_iff (by decide) Nat.length_toDigits_pos).1 (Nat.le_refl _)

theorem pow_length_digits_le {n : Nat} (h : n ≠ 0) : 10 ^ ((digits n).length - 1) ≤ n := by
  rcases Nat.eq_zero_or_pos ((digits n).length - 1) with hzero | hpos
  · rw [hzero]
    omega
  · rw [← not_lt, ← Nat.length_toDigits_le_iff (by decide) hpos]
    show ¬ (digits n).length ≤ (digits n).length - 1
    omega

theorem ofDigits_append_zeros (cs : List Char) (n : Nat) :
    ofDigits (cs ++ List.replicate n '0') = ofDigits cs * 10 ^ n := by
  rw [ofDigits, Nat.ofDigitChars_append, Nat.ofDigitChars_replicate_zero, Nat.mul_comm]
  rfl

theorem ofDigits_zeros_append (n : Nat) (cs : List Char) :
    ofDigits (List.replicate n '0' ++ cs) = ofDigits cs := by
  rw [ofDigits, Nat.ofDigitChars_append, Nat.ofDigitChars_replicate_zero, Nat.mul_zero]
  rfl

theorem AllDigits.append_zeros {cs : List Char} (h : AllDigits cs) (n : Nat) :
    AllDigits (cs ++ List.replicate n '0') := by
  refine ⟨List.append_ne_nil_of_left_ne_nil h.nonempty _, fun c hc => ?_⟩
  rcases List.mem_append.1 hc with hc | hc
  · exact h.digit c hc
  · rw [List.eq_of_mem_replicate hc]
    decide

theorem AllDigits.zeros_append {cs : List Char} (h : AllDigits cs) (n : Nat) :
    AllDigits (List.replicate n '0' ++ cs) := by
  refine ⟨List.append_ne_nil_of_right_ne_nil _ h.nonempty, fun c hc => ?_⟩
  rcases List.mem_append.1 hc with hc | hc
  · rw [List.eq_of_mem_replicate hc]
    decide
  · exact h.digit c hc

namespace Decimal

/-! ## Values -/

/-- The number that a decimal is. -/
def value (d : Decimal) : ℚ := d.coefficient * 10 ^ d.exponent

theorem value_nonneg (d : Decimal) : 0 ≤ d.value := by
  unfold value
  positivity

theorem value_of_nonneg {d : Decimal} (h : 0 ≤ d.exponent) :
    d.value = d.coefficient * 10 ^ d.exponent.natAbs := by
  rw [value, ← zpow_natCast, Int.natAbs_of_nonneg h]

theorem value_of_neg {d : Decimal} (h : d.exponent < 0) :
    d.value = d.coefficient / 10 ^ d.exponent.natAbs := by
  rw [value, ← zpow_natCast, Int.ofNat_natAbs_of_nonpos h.le, zpow_neg, div_inv_eq_mul]

/-- The places of the digits bound the value. -/
theorem value_lt (d : Decimal) : d.value < 10 ^ ((digits d.coefficient).length + d.exponent) := by
  rw [value, zpow_add₀ (by norm_num), zpow_natCast]
  have hdigits := lt_pow_length_digits d.coefficient
  exact mul_lt_mul_of_pos_right (by exact_mod_cast hdigits) (by positivity)

theorem le_value {d : Decimal} (h : d.coefficient ≠ 0) :
    (10 : ℚ) ^ ((digits d.coefficient).length + d.exponent - 1) ≤ d.value := by
  have hlength : 0 < (digits d.coefficient).length := Nat.length_toDigits_pos
  have hplace : (digits d.coefficient).length + d.exponent - 1 =
      ((digits d.coefficient).length - 1 : Nat) + d.exponent := by omega
  rw [value, hplace, zpow_add₀ (by norm_num), zpow_natCast]
  have hdigits := pow_length_digits_le h
  exact mul_le_mul_of_nonneg_right (by exact_mod_cast hdigits) (by positivity)

/-! ## Texts -/

/-- The decimal that digits with a point among them write. -/
def ofPoint (whole fraction : List Char) : Decimal :=
  ⟨ofDigits (whole ++ fraction), -fraction.length⟩

theorem read?_point {whole fraction : List Char} (hwhole : AllDigits whole)
    (hfraction : AllDigits fraction) :
    read? (whole ++ '.' :: fraction) = some (ofPoint whole fraction) := by
  have hpoint : Char.isDigit '.' = false := by decide
  have htail := List.dropWhile_eq_nil_iff.2 hfraction.digit
  unfold read?
  simp only [List.takeWhile_append_of_pos hwhole.digit, List.dropWhile_append_of_pos hwhole.digit,
    List.takeWhile_cons, List.dropWhile_cons, hpoint, Bool.false_eq_true, if_false,
    List.append_nil, List.takeWhile_eq_self_iff.2 hfraction.digit, htail,
    List.isEmpty_eq_false_iff.2 hwhole.nonempty, Bool.false_and]
  simp [readExponent?, ofPoint]

/-- Digits alone write a whole number. -/
theorem read?_digits {ds : List Char} (h : AllDigits ds) : read? ds = some ⟨ofDigits ds, 0⟩ := by
  unfold read?
  simp only [List.takeWhile_eq_self_iff.2 h.digit, List.dropWhile_eq_nil_iff.2 h.digit,
    List.isEmpty_eq_false_iff.2 h.nonempty, List.takeWhile_nil, List.append_nil, Bool.false_and,
    Bool.false_eq_true, if_false]
  rfl

/-- A text writes a decimal with a point: digits stand on both sides of it. -/
def WritesPoint (text : List Char) (d : Decimal) : Prop :=
  ∃ whole fraction, AllDigits whole ∧ AllDigits fraction ∧ text = whole ++ '.' :: fraction ∧
    (ofPoint whole fraction).value = d.value

theorem value_ofPoint (whole fraction : List Char) :
    (ofPoint whole fraction).value = ofDigits (whole ++ fraction) / 10 ^ fraction.length := by
  rw [value, ofPoint, zpow_neg, zpow_natCast, div_eq_mul_inv]

/-- A decimal without places after the point is written without a point. -/
theorem positional_of_nonneg {d : Decimal} (h : 0 ≤ d.exponent) :
    AllDigits d.positional ∧ ofDigits d.positional = d.value := by
  have htext : d.positional = digits d.coefficient ++ List.replicate d.exponent.natAbs '0' :=
    if_pos h
  rw [htext, ofDigits_append_zeros, ofDigits_digits, value_of_nonneg h]
  exact ⟨(allDigits_digits _).append_zeros _, by push_cast; rfl⟩

theorem writesPoint_of_nonneg {d : Decimal} (h : 0 ≤ d.exponent) :
    WritesPoint (d.positional ++ ['.', '0']) d := by
  obtain ⟨hdigits, hvalue⟩ := positional_of_nonneg h
  refine ⟨d.positional, ['0'], hdigits, allDigits_digits 0, rfl, ?_⟩
  rw [value_ofPoint, show ['0'] = List.replicate 1 '0' from rfl, ofDigits_append_zeros, ← hvalue]
  simp

theorem writesPoint_of_neg {d : Decimal} (h : d.exponent < 0) : WritesPoint d.positional d := by
  have hdigits := allDigits_digits d.coefficient
  have hplaces : 0 < d.exponent.natAbs := by omega
  have hlength : 0 < (digits d.coefficient).length := Nat.length_toDigits_pos
  unfold positional
  simp only [if_neg (Int.not_le.2 h)]
  split
  · -- the point stands among the digits
    rename_i hlt
    refine ⟨_, _, ⟨?_, ?_⟩, ⟨?_, ?_⟩, rfl, ?_⟩
    · rw [← List.length_pos_iff, List.length_take]
      omega
    · exact fun c hc => hdigits.digit c (List.mem_of_mem_take hc)
    · rw [← List.length_pos_iff, List.length_drop]
      omega
    · exact fun c hc => hdigits.digit c (List.mem_of_mem_drop hc)
    · rw [value_ofPoint, List.take_append_drop, ofDigits_digits, List.length_drop,
        Nat.sub_sub_self hlt.le, value_of_neg h]
  · -- zeros stand between the point and the digits
    rename_i hge
    refine ⟨['0'], _, allDigits_digits 0, hdigits.zeros_append _, rfl, ?_⟩
    rw [value_ofPoint, ← List.append_assoc, show ['0'] = List.replicate 1 '0' from rfl,
      List.replicate_append_replicate, ofDigits_zeros_append, ofDigits_digits, List.length_append,
      List.length_replicate, Nat.sub_add_cancel (Nat.not_lt.1 hge), value_of_neg h]

end Decimal

/-! ## Ranks of decimals -/

namespace Format

variable {f : Format} {q : ℚ} {rank : Nat}

theorem magnitude_infinityRank (hb : 2 ≤ f.binades) : f.magnitude f.infinityRank = 2 ^ f.top := by
  obtain ⟨e, he⟩ : ∃ e, f.binades = e + 2 := ⟨f.binades - 2, by omega⟩
  have hrank : f.infinityRank = e * f.binade + 2 * f.binade := by
    rw [infinityRank, he]
    ring
  have hB := f.binade_pos
  rw [hrank, f.magnitude_rank (Or.inr (by omega)) le_rfl, two_mul_binade, ← pow_add, top, he]
  congr 1
  omega

/-- A number is beyond the ranks of the format from the first power of two
above them. -/
theorem RoundsTo.infinityRank_le (h : f.RoundsTo q rank) (hb : 2 ≤ f.binades)
    (hq : 2 ^ f.top < q) : f.infinityRank ≤ rank := by
  by_contra hlt
  have hnext := magnitude_le (f := f) (show rank ≤ f.infinityRank by omega)
  have hlast := magnitude_le (f := f) (show rank + 1 ≤ f.infinityRank by omega)
  rw [magnitude_infinityRank hb] at hnext hlast
  push_cast at hnext hlast
  have := h.high
  linarith

end Format

namespace Binary

variable {f : Format} {d : Decimal} {rank : Nat}

/-- A decimal that is cut off above is beyond the format. -/
theorem le_rank_of_cut_above (hscale : f.precision ≤ f.scale) (hb : 2 ≤ f.binades)
    (h : f.RoundsTo (d.value * f.one) rank) (hd : d.coefficient ≠ 0)
    (hcut : (f.binades : Int) ≤ 3 * ((digits d.coefficient).length + d.exponent - 1)) :
    f.infinityRank ≤ rank := by
  apply h.infinityRank_le hb
  obtain ⟨t, ht⟩ : ∃ t : Nat, ((digits d.coefficient).length + d.exponent - 1 : Int) = t :=
    ⟨((digits d.coefficient).length + d.exponent - 1).toNat, by omega⟩
  have hvalue := Decimal.le_value hd
  rw [ht, zpow_natCast] at hvalue
  calc (2 : ℚ) ^ f.top < 2 ^ (3 * t + f.scale) :=
        pow_lt_pow_right₀ one_lt_two (by unfold Format.top; omega)
    _ = 8 ^ t * f.one := by
        rw [pow_add, pow_mul, f.one_eq]
        norm_num
    _ ≤ 10 ^ t * f.one := by gcongr; norm_num
    _ ≤ d.value * f.one := by gcongr

/-- A decimal that is cut off below is around zero. -/
theorem rank_of_cut_below (h : f.RoundsTo (d.value * f.one) rank)
    (hcut : (f.scale : Int) + 1 ≤ 3 * -((digits d.coefficient).length + d.exponent)) :
    rank = 0 := by
  refine h.unique (Format.roundsTo_zero (mul_nonneg d.value_nonneg (Nat.cast_nonneg _)) ?_)
  obtain ⟨t, ht⟩ : ∃ t : Nat, ((digits d.coefficient).length + d.exponent : Int) = -t :=
    ⟨(-((digits d.coefficient).length + d.exponent)).toNat, by omega⟩
  have hvalue := d.value_lt
  rw [ht, zpow_neg, zpow_natCast] at hvalue
  calc 2 * (d.value * f.one) = d.value * 2 ^ (f.scale + 1) := by
        rw [f.one_eq, pow_succ]
        push_cast
        ring
    _ ≤ d.value * 2 ^ (3 * t) := by
        gcongr
        · exact d.value_nonneg
        · exact one_le_two
        · omega
    _ = d.value * 8 ^ t := by
        rw [pow_mul]
        norm_num
    _ ≤ d.value * 10 ^ t := by
        gcongr
        · exact d.value_nonneg
        · norm_num
    _ < (10 ^ t)⁻¹ * 10 ^ t := by gcongr
    _ = 1 := inv_mul_cancel₀ (by positivity)

/-- A decimal becomes the number of the rank that its value is around. -/
theorem ofDecimal_eq_ofRank (hprecision : 2 ≤ f.precision) (hscale : f.precision ≤ f.scale)
    (hb : 2 ≤ f.binades) (negative : Bool) (h : f.RoundsTo (d.value * f.one) rank) :
    (ofDecimal negative d : Binary f) = ofRank negative rank := by
  have hpos : 0 < f.infinityRank := Nat.mul_pos (by omega) f.binade_pos
  unfold ofDecimal
  dsimp only
  split
  · rename_i hzero
    have hvalue : d.value * f.one = f.magnitude 0 := by
      rw [Decimal.value, hzero, f.magnitude_zero]
      simp
    rw [hvalue] at h
    rw [h.unique (f.roundsTo_magnitude 0), zero_eq hpos, ofRank, dif_pos hpos]
  rename_i hd
  split
  · rename_i hcut
    have hrank := le_rank_of_cut_above hscale hb h hd hcut
    rw [ofRank, dif_neg (Nat.not_lt.2 hrank)]
  split
  · rename_i hcut
    rw [rank_of_cut_below h hcut, zero_eq hpos, ofRank, dif_pos hpos]
  split
  · rename_i hexponent
    apply ofRatio_eq_ofRank hprecision _ Nat.one_pos
    rw [Decimal.value_of_nonneg hexponent] at h
    push_cast
    simpa using h
  · rename_i hexponent
    apply ofRatio_eq_ofRank hprecision _ (by simp)
    rw [Decimal.value_of_neg (Int.not_le.1 hexponent), div_mul_eq_mul_div] at h
    push_cast
    simpa using h

end Binary

end SceneMask
