-- The law of shortest decimals. The search for a short decimal ends with one
-- that is around the rank of the number, at the latest on the grid of the
-- smallest steps, which holds the number itself. So the plain text of a number
-- is read as this number, with its sign.
import Mathlib
import SceneMask.Number.Shortest
import SceneMask.Proofs.DecimalValues

namespace SceneMask

namespace Shortest

variable {f : Format} {rank : Nat} {d : Decimal}

/-! ## The test -/

theorem atMost_iff {bound : Nat} {strict : Bool} :
    atMost f bound d strict = true ↔
      if strict then 2 * (d.value * f.one) < bound else 2 * (d.value * f.one) ≤ bound := by
  have hsteps : ((d.coefficient * (2 * f.one) : Nat) : ℚ) = 2 * (d.coefficient * f.one) := by
    push_cast
    ring
  have hpow : ((Nat.pow 10 d.exponent.natAbs : Nat) : ℚ) = 10 ^ d.exponent.natAbs := by
    rw [Nat.pow_eq]
    push_cast
    rfl
  unfold atMost
  dsimp only
  rcases le_or_gt 0 d.exponent with h | h
  · have hvalue : 2 * (d.value * f.one) =
        (d.coefficient * (2 * f.one) * Nat.pow 10 d.exponent.natAbs : Nat) := by
      rw [Decimal.value_of_nonneg h, Nat.cast_mul, hsteps, hpow]
      ring
    simp only [if_pos h, hvalue, Nat.cast_lt, Nat.cast_le]
    cases strict <;> simp
  · have hvalue : 2 * (d.value * f.one) =
        (d.coefficient * (2 * f.one) : Nat) / (Nat.pow 10 d.exponent.natAbs : Nat) := by
      rw [Decimal.value_of_neg h, hsteps, hpow]
      ring
    have hden : (0 : ℚ) < (Nat.pow 10 d.exponent.natAbs : Nat) := by
      rw [hpow]
      positivity
    simp only [if_neg (not_le.2 h), hvalue, div_lt_iff₀ hden, div_le_iff₀ hden, ← Nat.cast_mul,
      Nat.cast_lt, Nat.cast_le]
    cases strict <;> simp

theorem atLeast_iff {bound : Nat} {strict : Bool} :
    atLeast f bound d strict = true ↔
      if strict then bound < 2 * (d.value * f.one) else bound ≤ 2 * (d.value * f.one) := by
  rw [atLeast, Bool.not_eq_true', Bool.eq_false_iff, ne_eq, atMost_iff]
  cases strict <;> simp

/-- The test finds the decimals that are around the rank. -/
theorem readsBack_iff : readsBack f rank d = true ↔ f.RoundsTo (d.value * f.one) rank := by
  unfold readsBack
  dsimp only
  rw [Bool.and_eq_true, atLeast_iff, atMost_iff]
  push_cast
  rcases Nat.mod_two_eq_zero_or_one rank with heven | hodd
  · rw [heven]
    constructor
    · rintro ⟨hlow, hhigh⟩
      exact ⟨hlow, hhigh, fun hodd => absurd hodd (by omega)⟩
    · intro h
      exact ⟨h.low, h.high⟩
  · rw [hodd]
    constructor
    · rintro ⟨hlow, hhigh⟩
      exact ⟨le_of_lt hlow, le_of_lt hhigh, fun _ => ⟨hlow, hhigh⟩⟩
    · intro h
      exact h.strict hodd

/-! ## The search -/

theorem readsBack_of_onGrid? {tie : TieRule} {exponent : Int}
    (h : onGrid? tie f rank exponent = some d) : readsBack f rank d = true := by
  unfold onGrid? at h
  dsimp only at h
  -- the fraction is cut, and either neighbour has to read back to be taken
  generalize (if 0 ≤ exponent then _ else _ : Nat × Nat) = fraction at h
  cases hbelow : readsBack f rank ⟨fraction.1 / fraction.2, exponent⟩ <;>
    cases habove : readsBack f rank ⟨fraction.1 / fraction.2 + 1, exponent⟩ <;>
    simp only [hbelow, habove] at h
  · contradiction
  · cases h
    exact habove
  · cases h
    exact hbelow
  · split_ifs at h <;> cases tie <;> cases h <;> assumption

theorem roundsTo_search (tie : TieRule) (f : Format) (rank n : Nat) :
    f.RoundsTo ((search tie f rank n).value * f.one) rank := by
  induction n with
  | zero =>
    have hvalue : (search tie f rank 0).value * f.one = f.magnitude rank := by
      rw [search, Decimal.value, f.one_eq, zpow_neg, zpow_natCast,
        show Nat.pow 5 f.scale = 5 ^ f.scale from rfl]
      push_cast
      rw [show (10 : ℚ) = 5 * 2 by norm_num, mul_pow]
      field_simp
    rw [hvalue]
    exact f.roundsTo_magnitude rank
  | succ n ih =>
    rw [search]
    split
    · rename_i d hd
      exact readsBack_iff.1 (readsBack_of_onGrid? hd)
    · exact ih

end Shortest

namespace Binary

variable {f : Format} {text : List Char} {d : Decimal} {rank : Nat}

/-! ## Texts of numbers -/

/-- The sign before the digits of a number; a plus is not written. -/
def signText (negative : Bool) : List Char := if negative then ['-'] else []

/-- A decimal is around the rank of a finite number, and the plain text writes
it after the sign. Zero has no shortest decimal of its own, and is written as
the decimal zero. -/
theorem exists_plain_decimal (negative : Bool) (rank : Fin f.infinityRank) :
    ∃ d : Decimal, f.RoundsTo (d.value * f.one) rank ∧
      (finite negative rank).plain = signText negative ++ d.positional := by
  have hsign : ∀ text, (finite negative rank).plain = (if negative then '-' :: text else text) →
      (finite negative rank).plain = signText negative ++ text := by
    intro text htext
    rw [htext, signText]
    cases negative <;> rfl
  by_cases hzero : rank.val = 0
  · refine ⟨⟨0, 0⟩, ?_, hsign _ ?_⟩
    · have hvalue : (⟨0, 0⟩ : Decimal).value * f.one = f.magnitude 0 := by
        rw [f.magnitude_zero]
        simp [Decimal.value]
      rw [hzero, hvalue]
      exact f.roundsTo_magnitude 0
    · simp only [plain, if_pos hzero]
      rfl
  · refine ⟨f.shortest .up rank, Shortest.roundsTo_search .up f rank _, hsign _ ?_⟩
    simp only [plain, if_neg hzero]

theorem read?_of_no_sign {c : Char} {cs : List Char} (hminus : c ≠ '-') (hplus : c ≠ '+') :
    (read? (c :: cs) : Option (Binary f)) = readUnsigned? false (c :: cs) := by
  unfold read?
  split
  · simp_all
  · simp_all
  · rfl

theorem read?_signText {negative : Bool} {c : Char} {cs : List Char} (hminus : c ≠ '-')
    (hplus : c ≠ '+') :
    (read? (signText negative ++ c :: cs) : Option (Binary f)) =
      readUnsigned? negative (c :: cs) := by
  cases negative with
  | true => rfl
  | false => exact read?_of_no_sign hminus hplus

/-- Digits with a point among them, after the sign, are read as the number of
the rank that the decimal is around. -/
theorem read?_writesPoint (hprecision : 2 ≤ f.precision) (hscale : f.precision ≤ f.scale)
    (hb : 2 ≤ f.binades) (negative : Bool) (htext : d.WritesPoint text)
    (h : f.RoundsTo (d.value * f.one) rank) :
    read? (signText negative ++ text) = some (ofRank negative rank : Binary f) := by
  obtain ⟨whole, fraction, hwhole, hfraction, rfl, hvalue⟩ := htext
  rw [← hvalue] at h
  obtain ⟨c, cs, rfl⟩ := List.exists_cons_of_ne_nil hwhole.nonempty
  obtain ⟨hminus, hplus⟩ := hwhole.head
  have hdecimal := Decimal.read?_point hwhole hfraction
  rw [List.cons_append] at hdecimal ⊢
  rw [read?_signText hminus hplus, readUnsigned?, hdecimal]
  exact congrArg some (ofDecimal_eq_ofRank hprecision hscale hb negative h)

end Binary

end SceneMask
