-- The laws of binary numbers as exact numbers. Rounding keeps every number
-- that a format has, so a conversion loses something only where the
-- format of the result does not have the number.
import Mathlib
import SceneMask.Number.Arithmetic

namespace SceneMask

/-! ## Exact numbers -/

/-- What a number stands for: a rational, an infinity, or nothing. -/
inductive Exact where
  | nan
  | infinite (negative : Bool)
  | number (value : ℚ)
deriving DecidableEq

namespace Binary

variable {f : Format}

def exact : Binary f → Exact
  | nan => .nan
  | infinite negative => .infinite negative
  | x@(finite ..) => .number (x.scaled / f.one)

def sign (negative : Bool) : ℚ := if negative then -1 else 1

theorem abs_sign (negative : Bool) : |sign negative| = 1 := by cases negative <;> simp [sign]

theorem exact_finite (negative : Bool) (rank : Fin f.infinityRank) :
    (finite negative rank).exact = .number (sign negative * f.magnitude rank / f.one) := by
  cases negative <;> simp [exact, scaled, units, sign]

end Binary

/-- The format has the number, so nothing of it is lost there. -/
def Format.Has (f : Format) (x : Exact) : Prop := ∃ y : Binary f, y.exact = x

/-! ## Ranks and magnitudes -/

namespace Format

variable (f : Format)

theorem binade_eq : f.binade = 2 ^ (f.precision - 1) := rfl

theorem one_eq : f.one = 2 ^ f.scale := rfl

theorem binade_pos : 0 < f.binade := Nat.two_pow_pos _

theorem one_pos : 0 < f.one := Nat.two_pow_pos _

theorem cast_one_ne_zero : (f.one : ℚ) ≠ 0 := by exact_mod_cast f.one_pos.ne'

theorem two_mul_binade : 2 * f.binade = 2 ^ (f.precision - 1 + 1) := by
  rw [binade_eq, pow_succ]
  ring

/-- The significand may be as large as two binades: that is the first rank
of the next binade. -/
theorem magnitude_rank {d q : Nat} (hlow : d = 0 ∨ f.binade ≤ q) (hhigh : q ≤ 2 * f.binade) :
    f.magnitude (d * f.binade + q) = q * 2 ^ d := by
  have hB := f.binade_pos
  unfold magnitude
  rw [Nat.mul_comm d, Nat.mul_add_div hB]
  rcases Nat.lt_or_ge q f.binade with hq | hq
  · obtain rfl : d = 0 := by omega
    simp [Nat.div_eq_of_lt hq]
  rcases Nat.lt_or_ge q (2 * f.binade) with hq2 | hq2
  · have h1 : q / f.binade = 1 := Nat.div_eq_of_lt_le (by omega) (by omega)
    simp [h1, Nat.mul_comm d]
  · obtain rfl : q = 2 * f.binade := by omega
    have h2 : 2 * f.binade / f.binade = 2 := Nat.mul_div_cancel _ hB
    have hsub : f.binade * d + 2 * f.binade - (d + 1) * f.binade = f.binade := by
      have : (d + 1) * f.binade = f.binade * d + f.binade := by ring
      omega
    simp only [h2, show d + 2 - 1 = d + 1 by omega, hsub, Nat.pow_eq]
    rw [pow_succ]
    ring

theorem magnitude_zero : f.magnitude 0 = 0 := by
  simpa using f.magnitude_rank (d := 0) (q := 0) (Or.inl rfl) (by omega)

/-- The binade and the significand of a rank. -/
theorem rank_cases (rank : Nat) :
    ∃ d q, rank = d * f.binade + q ∧ (d = 0 ∨ f.binade ≤ q) ∧ q < 2 * f.binade := by
  have hdiv := Nat.div_add_mod rank f.binade
  have hmod := Nat.mod_lt rank f.binade_pos
  rcases h : rank / f.binade with _ | d
  · rw [h] at hdiv
    exact ⟨0, rank, by simp, Or.inl rfl, by omega⟩
  · refine ⟨d, f.binade + rank % f.binade, ?_, Or.inr (by omega), by omega⟩
    calc rank = f.binade * (d + 1) + rank % f.binade := by rw [← h, hdiv]
      _ = d * f.binade + (f.binade + rank % f.binade) := by ring

/-- The doublings that rounding finds for a magnitude are its own. -/
theorem doublings_magnitude {d q : Nat} (hlow : d = 0 ∨ f.binade ≤ q)
    (hhigh : q < 2 * f.binade) : Nat.log2 (q * 2 ^ d) - (f.precision - 1) = d := by
  rcases Nat.eq_zero_or_pos q with rfl | hq
  · have hB := f.binade_pos
    obtain rfl : d = 0 := by omega
    simp
  have hne : q * 2 ^ d ≠ 0 := by positivity
  have hlt : Nat.log2 (q * 2 ^ d) < f.precision - 1 + 1 + d := by
    rw [Nat.log2_lt hne, pow_add, ← two_mul_binade]
    exact Nat.mul_lt_mul_of_pos_right hhigh (by positivity)
  rcases hlow with rfl | hle
  · omega
  · have hge : f.precision - 1 + d ≤ Nat.log2 (q * 2 ^ d) := by
      rw [Nat.le_log2 hne, pow_add, ← binade_eq]
      exact Nat.mul_le_mul_right _ hle
    omega

theorem nearestQuotient_mul {q den : Nat} (hden : 0 < den) :
    nearestQuotient (q * den) den = q := by
  simp [nearestQuotient, hden]

theorem nearestQuotient_cases (num den : Nat) :
    nearestQuotient num den = num / den ∨ nearestQuotient num den = num / den + 1 := by
  unfold nearestQuotient
  dsimp only
  split
  · exact Or.inl rfl
  split
  · exact Or.inr rfl
  · omega

/-- Rounding a magnitude of the format gives its own rank. -/
theorem nearestRank_magnitude (rank : Nat) {den : Nat} (hden : 0 < den) :
    f.nearestRank (f.magnitude rank * den) den = rank := by
  obtain ⟨d, q, rfl, hlow, hhigh⟩ := f.rank_cases rank
  rw [f.magnitude_rank hlow (by omega)]
  unfold nearestRank
  simp only [Nat.mul_div_cancel _ hden, f.doublings_magnitude hlow hhigh, Nat.pow_eq]
  have hmul : q * 2 ^ d * den = q * (den * 2 ^ d) := by ring
  rw [hmul, nearestQuotient_mul (by positivity)]

/-- Magnitudes grow with their rank: by one significand of the same binade. -/
theorem magnitude_strictMono : StrictMono f.magnitude := by
  apply strictMono_nat_of_lt_succ
  intro rank
  obtain ⟨d, q, rfl, hlow, hhigh⟩ := f.rank_cases rank
  rw [Nat.add_assoc, f.magnitude_rank hlow hhigh.le,
    f.magnitude_rank (hlow.imp_right Nat.le_succ_of_le) hhigh]
  exact Nat.mul_lt_mul_of_pos_right q.lt_succ_self (Nat.two_pow_pos d)

/-! ## The magnitudes of a format -/

/-- A count of smallest steps that fits into a significand. -/
def Fits (n : Nat) : Prop := ∃ s k, s < 2 * f.binade ∧ n = s * 2 ^ k

/-- The exponent of the first power of two above every finite magnitude,
counted in smallest steps. -/
def top : Nat := f.precision - 1 + (f.binades - 1)

theorem fits_magnitude (rank : Nat) : f.Fits (f.magnitude rank) := by
  obtain ⟨d, q, rfl, hlow, hhigh⟩ := f.rank_cases rank
  exact ⟨q, d, hhigh, f.magnitude_rank hlow (by omega)⟩

/-- A small significand is doubled until the step below it is used up. -/
theorem exists_magnitude_of_fits {n : Nat} (h : f.Fits n) : ∃ rank, f.magnitude rank = n := by
  obtain ⟨s, k, hs, rfl⟩ := h
  induction k generalizing s with
  | zero => exact ⟨s, by simpa using f.magnitude_rank (d := 0) (Or.inl rfl) (by omega)⟩
  | succ k ih =>
    rcases Nat.lt_or_ge s f.binade with hlt | hge
    · obtain ⟨rank, hrank⟩ := ih (s * 2) (by omega)
      exact ⟨rank, by rw [hrank, pow_succ]; ring⟩
    · exact ⟨_, f.magnitude_rank (Or.inr hge) (by omega)⟩

theorem lt_infinityRank_of_magnitude_lt {rank : Nat} (hb : 0 < f.binades)
    (h : f.magnitude rank < 2 ^ f.top) : rank < f.infinityRank := by
  obtain ⟨d, q, rfl, hlow, hhigh⟩ := f.rank_cases rank
  rw [f.magnitude_rank hlow (by omega)] at h
  rcases Nat.lt_or_ge q f.binade with hq | hq
  · obtain rfl : d = 0 := by omega
    calc 0 * f.binade + q < 1 * f.binade := by omega
      _ ≤ f.binades * f.binade := Nat.mul_le_mul_right _ hb
  · have hpow : 2 ^ (f.precision - 1 + d) < 2 ^ f.top := by
      rw [pow_add, ← binade_eq]
      exact Nat.lt_of_le_of_lt (Nat.mul_le_mul_right _ hq) h
    have hd : f.precision - 1 + d < f.top := (Nat.pow_lt_pow_iff_right (by omega)).1 hpow
    unfold top at hd
    calc d * f.binade + q < d * f.binade + 2 * f.binade := by omega
      _ = (d + 2) * f.binade := by ring
      _ ≤ f.binades * f.binade := Nat.mul_le_mul_right _ (by omega)

theorem magnitude_lt {rank : Nat} (h : rank < f.infinityRank) : f.magnitude rank < 2 ^ f.top := by
  obtain ⟨d, q, rfl, hlow, hhigh⟩ := f.rank_cases rank
  rw [f.magnitude_rank hlow (by omega)]
  unfold infinityRank at h
  have hd : d = 0 ∧ q < f.binade ∨ d + 1 ≤ f.binades - 1 := by
    rcases Nat.lt_or_ge q f.binade with hq | hq
    · exact Or.inl ⟨by omega, hq⟩
    · right
      have hlt : (d + 1) * f.binade < f.binades * f.binade := by
        have : (d + 1) * f.binade = d * f.binade + f.binade := by ring
        omega
      have := Nat.lt_of_mul_lt_mul_right hlt
      omega
  unfold top
  rw [pow_add, ← binade_eq]
  rcases hd with ⟨rfl, hq⟩ | hd
  · calc q * 2 ^ 0 < f.binade * 1 := by omega
      _ ≤ f.binade * 2 ^ (f.binades - 1) := Nat.mul_le_mul_left _ Nat.one_le_two_pow
  · calc q * 2 ^ d < 2 * f.binade * 2 ^ d := Nat.mul_lt_mul_of_pos_right hhigh (by positivity)
      _ = f.binade * 2 ^ (d + 1) := by rw [pow_succ]; ring
      _ ≤ f.binade * 2 ^ (f.binades - 1) :=
        Nat.mul_le_mul_left _ (Nat.pow_le_pow_right (by omega) hd)

end Format

/-! ## Rounding keeps what a format has -/

namespace Binary

variable {f g : Format}

theorem ofRatio_magnitude (negative : Bool) (rank : Fin f.infinityRank) {num den : Nat}
    (hden : 0 < den) (h : num = f.magnitude rank * den) :
    (ofRatio negative num den : Binary f) = finite negative rank := by
  unfold ofRatio
  rw [h]
  simp [f.nearestRank_magnitude rank.val hden]

theorem sign_mul_inj {a b : Bool} {m n : Nat} (h : sign a * m = sign b * n) : m = n := by
  have habs := congrArg abs h
  rw [abs_mul, abs_mul, abs_sign, abs_sign] at habs
  simpa using habs

/-- Numbers of two formats are compared in steps of both at once. -/
theorem exact_eq_finite_iff {a b : Bool} {m : Fin f.infinityRank} {n : Fin g.infinityRank} :
    (finite a m).exact = (finite b n).exact ↔
      sign a * (f.magnitude m * g.one : Nat) = sign b * (g.magnitude n * f.one : Nat) := by
  rw [exact_finite, exact_finite, Exact.number.injEq,
    div_eq_div_iff f.cast_one_ne_zero g.cast_one_ne_zero]
  push_cast
  rw [mul_assoc, mul_assoc]

/-- A finite number that a format has is converted to the number of the same
magnitude. -/
theorem convert_finite {negative : Bool} {rank : Fin f.infinityRank}
    (h : g.Has (finite negative rank).exact) :
    ∃ rank' : Fin g.infinityRank, (finite negative rank).convert g = finite negative rank' ∧
      f.magnitude rank * g.one = g.magnitude rank' * f.one := by
  obtain ⟨y, hy⟩ := h
  cases y with
  | nan => simp [exact] at hy
  | infinite negative' => simp [exact] at hy
  | finite negative' rank' =>
    have hm := sign_mul_inj (exact_eq_finite_iff.1 hy)
    exact ⟨rank', ofRatio_magnitude negative rank' f.one_pos hm.symm, hm.symm⟩

/-- A number that a format has does not change when it is converted to it. -/
theorem exact_convert {x : Binary f} (h : g.Has x.exact) : (x.convert g).exact = x.exact := by
  cases x with
  | nan => rfl
  | infinite negative => rfl
  | finite negative rank =>
    obtain ⟨rank', hconv, hm⟩ := convert_finite h
    rw [hconv, exact_eq_finite_iff, hm]

/-- The way to a format that has the number leads back to the number, with
its sign. -/
theorem convert_convert {x : Binary f} (h : g.Has x.exact) : (x.convert g).convert f = x := by
  cases x with
  | nan => rfl
  | infinite negative => rfl
  | finite negative rank =>
    obtain ⟨rank', hconv, hm⟩ := convert_finite h
    rw [hconv]
    exact ofRatio_magnitude negative rank g.one_pos hm.symm

theorem sign_mul_natAbs (n : Int) : sign (decide (n < 0)) * n.natAbs = n := by
  rw [Nat.cast_natAbs]
  rcases lt_or_ge n 0 with h | h
  · simp [sign, h, abs_of_neg h]
  · simp [sign, not_lt.2 h, abs_of_nonneg h]

/-- A whole number that a format has is exact in it. -/
theorem exact_ofInt {n : Int} (h : f.Has (.number n)) :
    (ofInt n : Binary f).exact = .number n := by
  obtain ⟨y, hy⟩ := h
  cases y with
  | nan => simp [exact] at hy
  | infinite negative => simp [exact] at hy
  | finite negative rank =>
    rw [exact_finite, Exact.number.injEq, div_eq_iff f.cast_one_ne_zero, ← sign_mul_natAbs,
      mul_assoc, ← Nat.cast_mul] at hy
    have hm : n.natAbs * f.one = f.magnitude rank := (sign_mul_inj hy).symm
    have hof : (ofInt n : Binary f) = finite (decide (n < 0)) rank :=
      ofRatio_magnitude _ rank Nat.one_pos (by rw [hm, Nat.mul_one])
    rw [hof, exact_finite, Exact.number.injEq, div_eq_iff f.cast_one_ne_zero, ← hm,
      Nat.cast_mul, ← mul_assoc, sign_mul_natAbs]

theorem zero_eq (hpos : 0 < f.infinityRank) (negative : Bool) :
    (zero negative : Binary f) = finite negative ⟨0, hpos⟩ :=
  ofRatio_magnitude negative ⟨0, hpos⟩ Nat.one_pos (by simp [f.magnitude_zero])

theorem exact_zero (hb : 0 < f.binades) (negative : Bool) :
    (zero negative : Binary f).exact = .number 0 := by
  rw [zero_eq (Nat.mul_pos hb f.binade_pos), exact_finite]
  simp [f.magnitude_zero]

end Binary

/-! ## Numbers that a format has -/

namespace Format

variable {f g : Format}

theorem has_of_fits {n : Nat} {q : ℚ} (hb : 0 < f.binades) (hfits : f.Fits n)
    (htop : n < 2 ^ f.top) (hq : |q| * f.one = n) : f.Has (.number q) := by
  obtain ⟨rank, rfl⟩ := f.exists_magnitude_of_fits hfits
  refine ⟨.finite (decide (q < 0)) ⟨rank, f.lt_infinityRank_of_magnitude_lt hb htop⟩, ?_⟩
  rw [Binary.exact_finite, Exact.number.injEq, div_eq_iff f.cast_one_ne_zero, ← hq, ← mul_assoc]
  congr 1
  rcases lt_or_ge q 0 with h | h
  · simp [Binary.sign, h, abs_of_neg h]
  · simp [Binary.sign, not_lt.2 h, abs_of_nonneg h]

/-- A whole number of no more bits than a significand has. -/
theorem has_int {n : Int} (hb : 0 < f.binades) (hn : n.natAbs < 2 ^ (f.precision - 1 + 1))
    (htop : f.precision - 1 + 1 + f.scale ≤ f.top) : f.Has (.number n) := by
  refine has_of_fits hb ⟨n.natAbs, f.scale, f.two_mul_binade ▸ hn, rfl⟩ ?_ ?_
  · calc n.natAbs * 2 ^ f.scale < 2 ^ (f.precision - 1 + 1) * 2 ^ f.scale :=
        Nat.mul_lt_mul_of_pos_right hn (by positivity)
      _ = 2 ^ (f.precision - 1 + 1 + f.scale) := (pow_add ..).symm
      _ ≤ 2 ^ f.top := Nat.pow_le_pow_right (by omega) htop
  · rw [← Int.cast_abs, Int.abs_eq_natAbs, Int.cast_natCast, f.one_eq]
    push_cast
    rfl

/-- A format with longer significands, finer steps and no less room above
has every number of the other one. -/
theorem Has.widen {x : Exact} (h : f.Has x) (hb : 0 < g.binades)
    (hprecision : f.precision ≤ g.precision) (hscale : f.scale ≤ g.scale)
    (htop : f.top + (g.scale - f.scale) ≤ g.top) : g.Has x := by
  obtain ⟨y, rfl⟩ := h
  cases y with
  | nan => exact ⟨.nan, rfl⟩
  | infinite negative => exact ⟨.infinite negative, rfl⟩
  | finite negative rank =>
    obtain ⟨s, k, hs, hsk⟩ := f.fits_magnitude rank
    have hone : g.one = f.one * 2 ^ (g.scale - f.scale) := by
      rw [one_eq, one_eq, ← pow_add]
      congr 1
      omega
    have hbinade : 2 * f.binade ≤ 2 * g.binade :=
      Nat.mul_le_mul_left _ (Nat.pow_le_pow_right (by omega) (by omega))
    rw [Binary.exact_finite]
    refine has_of_fits hb (n := f.magnitude rank * 2 ^ (g.scale - f.scale)) ?_ ?_ ?_
    · exact ⟨s, k + (g.scale - f.scale), by omega, by rw [hsk, pow_add]; ring⟩
    · calc f.magnitude rank * 2 ^ (g.scale - f.scale) < 2 ^ f.top * 2 ^ (g.scale - f.scale) :=
          Nat.mul_lt_mul_of_pos_right (f.magnitude_lt rank.isLt) (by positivity)
        _ = 2 ^ (f.top + (g.scale - f.scale)) := (pow_add ..).symm
        _ ≤ 2 ^ g.top := Nat.pow_le_pow_right (by omega) htop
    · have hf := f.cast_one_ne_zero
      rw [abs_div, abs_mul, Binary.abs_sign, hone, one_mul, Nat.abs_cast, Nat.abs_cast]
      push_cast
      field_simp

theorem Has.double_of_single {x : Exact} (h : single.Has x) : double.Has x :=
  h.widen (by decide) (by decide) (by decide) (by decide)

theorem double_has_int {n : Int} (h : n.natAbs < 2 ^ 53) : double.Has (.number n) :=
  has_int (by decide) h (by decide)

theorem single_has_int {n : Int} (h : n.natAbs < 2 ^ 24) : single.Has (.number n) :=
  has_int (by decide) h (by decide)

/-! ## Whole numbers -/

/-- Rounding a whole number gives a whole number: a number too long for a
significand is above all steps of less than one. -/
theorem one_dvd_magnitude_nearestRank (f : Format) (m : Nat) :
    f.one ∣ f.magnitude (f.nearestRank (m * f.one) 1) := by
  rcases Nat.lt_or_ge m (2 * f.binade) with hm | hm
  · obtain ⟨rank, hrank⟩ := f.exists_magnitude_of_fits ⟨m, f.scale, hm, rfl⟩
    have hround := f.nearestRank_magnitude rank Nat.one_pos
    rw [Nat.mul_one, hrank] at hround
    rw [f.one_eq, hround, hrank]
    exact Dvd.intro_left _ rfl
  have hne : m * f.one ≠ 0 := by
    have := f.binade_pos
    exact Nat.mul_ne_zero (by omega) f.one_pos.ne'
  obtain ⟨d, hd⟩ : ∃ d, Nat.log2 (m * f.one) = f.precision - 1 + (f.scale + 1 + d) := by
    have hlog : f.precision - 1 + 1 + f.scale ≤ Nat.log2 (m * f.one) := by
      rw [Nat.le_log2 hne, pow_add, ← two_mul_binade, one_eq]
      exact Nat.mul_le_mul_right _ hm
    exact ⟨Nat.log2 (m * f.one) - (f.precision - 1 + 1 + f.scale), by omega⟩
  generalize hdoublings : f.scale + 1 + d = doublings at hd
  have hlow : f.binade ≤ m * f.one / 2 ^ doublings := by
    rw [Nat.le_div_iff_mul_le (by positivity), binade_eq, ← pow_add, ← hd]
    exact Nat.log2_self_le hne
  have hhigh : m * f.one / 2 ^ doublings < 2 * f.binade := by
    rw [Nat.div_lt_iff_lt_mul (by positivity), two_mul_binade, ← pow_add,
      show f.precision - 1 + 1 + doublings = Nat.log2 (m * f.one) + 1 by omega]
    exact Nat.lt_log2_self
  have hrank : f.nearestRank (m * f.one) 1
      = doublings * f.binade + nearestQuotient (m * f.one) (2 ^ doublings) := by
    unfold nearestRank
    simp [hd]
  have hq := nearestQuotient_cases (m * f.one) (2 ^ doublings)
  rw [hrank, f.magnitude_rank (Or.inr (by omega)) (by omega), f.one_eq]
  exact Dvd.dvd.mul_left (pow_dvd_pow 2 (by omega)) _

end Format

namespace Binary

variable {f : Format}

theorem exact_eq_int_iff {x : Binary f} {n : Int} :
    x.exact = .number n ↔ x.isWhole = true ∧ x.truncate = n := by
  cases x with
  | nan => simp [exact, isWhole, isFinite]
  | infinite negative => simp [exact, isWhole, isFinite]
  | finite negative rank =>
    have hone : (f.one : Int) ≠ 0 := by exact_mod_cast f.one_pos.ne'
    have hsign : sign negative = ((if negative then -1 else 1 : Int) : ℚ) := by
      cases negative <;> simp [sign]
    rw [exact_finite, Exact.number.injEq, div_eq_iff f.cast_one_ne_zero, hsign]
    simp only [isWhole, isFinite, units, truncate, isNegative, Bool.true_and, beq_iff_eq]
    constructor
    · intro h
      have hz : (if negative then -1 else 1 : Int) * f.magnitude rank = n * f.one := by
        exact_mod_cast h
      have hdvd : (f.one : Int) ∣ f.magnitude rank := by
        cases negative
        · exact ⟨n, by simp at hz; linarith⟩
        · exact ⟨-n, by simp at hz; linarith⟩
      obtain ⟨w, hw⟩ : f.one ∣ f.magnitude rank := by exact_mod_cast hdvd
      rw [hw] at hz ⊢
      refine ⟨Nat.mul_mod_right _ _, Int.eq_of_mul_eq_mul_right hone ?_⟩
      rw [Nat.mul_div_cancel_left _ f.one_pos, ← hz]
      cases negative <;> simp <;> ring
    · rintro ⟨hmod, rfl⟩
      obtain ⟨w, hw⟩ := Nat.dvd_of_mod_eq_zero hmod
      rw [hw, Nat.mul_div_cancel_left _ f.one_pos]
      cases negative <;> simp <;> ring

/-- The whole part of a rounded whole number tells whether the format has
the number. -/
theorem has_int_iff (hb : 0 < f.binades) {n : Int} :
    f.Has (.number n) ↔ (ofInt n : Binary f).truncate = n := by
  constructor
  · intro h
    exact (exact_eq_int_iff.1 (exact_ofInt h)).2
  · intro h
    by_cases hr : f.nearestRank (n.natAbs * f.one) 1 < f.infinityRank
    · have hof : (ofInt n : Binary f) = finite (decide (n < 0)) ⟨_, hr⟩ := by
        simp [ofInt, ofRatio, hr]
      refine ⟨ofInt n, exact_eq_int_iff.2 ⟨?_, h⟩⟩
      rw [hof]
      simpa [isWhole, isFinite, units] using
        Nat.mod_eq_zero_of_dvd (f.one_dvd_magnitude_nearestRank n.natAbs)
    · have hof : (ofInt n : Binary f) = infinite (decide (n < 0)) := by
        simp [ofInt, ofRatio, hr]
      rw [hof] at h
      obtain rfl : n = 0 := by simpa [truncate, units] using h.symm
      exact ⟨zero false, by simpa using exact_zero hb false⟩

/-! ## Equality of values -/

/-- Signed magnitudes are in the order of the places. -/
theorem sign_mul_magnitude_le_iff {a b : Bool} {m n : Nat} :
    sign a * f.magnitude m ≤ sign b * f.magnitude n ↔
      (if a then -(m : Int) else m) ≤ if b then -(n : Int) else n := by
  have hrank : ∀ k l : Nat, (f.magnitude k : ℚ) ≤ f.magnitude l ↔ k ≤ l := by
    intro k l
    rw [Nat.cast_le, f.magnitude_strictMono.le_iff_le]
  have hm := hrank m 0
  have hn := hrank n 0
  rw [f.magnitude_zero, Nat.cast_zero] at hm hn
  have hm' : (0 : ℚ) ≤ f.magnitude m := Nat.cast_nonneg _
  have hn' : (0 : ℚ) ≤ f.magnitude n := Nat.cast_nonneg _
  cases a with
  | false =>
    cases b with
    | false => simp [sign, hrank]
    | true =>
      have hzero : (f.magnitude m : ℚ) ≤ -f.magnitude n ↔ m ≤ 0 ∧ n ≤ 0 := by
        rw [← hm, ← hn]
        constructor
        · intro h
          exact ⟨by linarith, by linarith⟩
        · rintro ⟨h, h'⟩
          linarith
      simp only [sign, Bool.false_eq_true, if_true, if_false, one_mul, neg_one_mul]
      rw [hzero]
      omega
  | true =>
    cases b with
    | false =>
      simp only [sign, Bool.false_eq_true, if_true, if_false, one_mul, neg_one_mul]
      exact iff_of_true (by linarith) (by omega)
    | true => simp [sign, hrank]

theorem exact_finite_inj {a b : Bool} {m n : Fin f.infinityRank} :
    (finite a m).exact = (finite b n).exact ↔
      (if a then -(m.val : Int) else m.val) = if b then -(n.val : Int) else n.val := by
  rw [exact_finite, exact_finite, Exact.number.injEq, div_left_inj' f.cast_one_ne_zero,
    le_antisymm_iff, sign_mul_magnitude_le_iff, sign_mul_magnitude_le_iff, ← le_antisymm_iff]

/-- Two values are equal if they are the same number; the zeros are one
number, and NaN equals nothing. -/
theorem eqv_iff (hb : 0 < f.binades) {x y : Binary f} :
    x.eqv y = true ↔ x.exact = y.exact ∧ x ≠ nan := by
  have hpos : 0 < f.infinityRank := Nat.mul_pos hb f.binade_pos
  unfold eqv compareBy
  cases x with
  | nan => simp [place?]
  | infinite a =>
    cases y with
    | nan => simp [place?, exact]
    | infinite b => cases a <;> cases b <;> simp [place?, exact] <;> omega
    | finite b n =>
      have := n.isLt
      simp only [place?, exact, decide_eq_true_eq, reduceCtorEq, false_and, iff_false]
      cases a <;> cases b <;> simp only [Bool.false_eq_true, if_true, if_false] <;> omega
  | finite a m =>
    cases y with
    | nan => simp [place?, exact]
    | infinite b =>
      have := m.isLt
      simp only [place?, exact, decide_eq_true_eq, reduceCtorEq, false_and, iff_false]
      cases a <;> cases b <;> simp only [Bool.false_eq_true, if_true, if_false] <;> omega
    | finite b n =>
      rw [exact_finite_inj]
      simp [place?]

end Binary

end SceneMask
