-- Fills that are written as whole numbers. A whole number that fits a word is
-- the fill itself. One that does not fit is read as a real number, so the fill
-- is this number exactly if double precision has it, and the nearest one
-- otherwise.
import Mathlib
import SceneMask.Proofs.Decoding
import SceneMask.Proofs.FillTexts

namespace SceneMask

/-! ## Whole numbers as real numbers -/

namespace Binary

variable {f : Format}

theorem ofDecimal_whole (hprecision : 2 ≤ f.precision) (hscale : f.precision ≤ f.scale)
    (hb : 2 ≤ f.binades) (negative : Bool) (m : Nat) :
    (ofDecimal negative ⟨m, 0⟩ : Binary f) = ofRatio negative (m * f.one) 1 := by
  have hvalue : (⟨m, 0⟩ : Decimal).value * f.one = (m * f.one : Nat) / (1 : Nat) := by
    simp [Decimal.value]
  apply ofDecimal_eq_ofRank hprecision hscale hb
  rw [hvalue]
  exact Format.roundsTo_nearestRank hprecision _ Nat.one_pos

theorem readUnsigned?_digits (hprecision : 2 ≤ f.precision) (hscale : f.precision ≤ f.scale)
    (hb : 2 ≤ f.binades) (negative : Bool) {ds : List Char} (h : AllDigits ds) :
    (readUnsigned? negative ds : Option (Binary f)) =
      some (ofRatio negative (ofDigits ds * f.one) 1) := by
  rw [readUnsigned?, Decimal.read?_digits h]
  exact congrArg some (ofDecimal_whole hprecision hscale hb negative _)

/-- A whole number is read as the nearest number of the format. Only a zero
can have a sign that the number itself does not have. -/
theorem read?_writesInt (hprecision : 2 ≤ f.precision) (hscale : f.precision ≤ f.scale)
    (hb : 2 ≤ f.binades) {cs : List Char} {n : Int} (h : WritesInt cs n) (hn : n ≠ 0) :
    (read? cs : Option (Binary f)) = some (ofInt n) := by
  have hdigits := fun negative (ds : List Char) (hds : AllDigits ds) =>
    readUnsigned?_digits hprecision hscale hb negative hds
  cases h with
  | @unsigned ds h =>
    obtain ⟨c, cs, rfl⟩ := List.exists_cons_of_ne_nil h.nonempty
    rw [read?_of_no_sign h.head.1 h.head.2, hdigits false _ h, ofInt, Int.natAbs_natCast,
      decide_eq_false (by omega)]
  | @plus ds h =>
    rw [read?, hdigits false ds h, ofInt, Int.natAbs_natCast, decide_eq_false (by omega)]
  | @minus ds h =>
    rw [read?, hdigits true ds h, ofInt, Int.natAbs_neg, Int.natAbs_natCast,
      decide_eq_true (by omega)]

end Binary

theorem Crop.fill_of_decode {crop : Crop} {fill : Fill} {raster : Raster}
    (h : crop.decode (some fill) = .ok raster) : raster.fill = fill := by
  obtain ⟨_, _, _, _, _, _, _, _, rfl⟩ := decode_eq_ok_iff.1 h
  rfl

namespace Fill

/-! ## Words -/

/-- The whole numbers of a signed word. -/
def InWord (n : Int) : Prop := -2 ^ 63 ≤ n ∧ n < 2 ^ 63

theorem word?_of_inWord {n : Int} (h : InWord n) : ∃ w, word? n = some w ∧ w.toInt = n := by
  unfold InWord at h
  refine ⟨Int64.ofInt n, if_pos (by omega), Int64.toInt_ofInt_of_le (by omega) (by omega)⟩

theorem word?_of_not_inWord {n : Int} (h : ¬ InWord n) : word? n = none := by
  unfold InWord at h
  exact if_neg (by omega)

variable {text : String} {n : Int}

theorem parse_of_inWord (h : WritesInt text.toList n) (hn : InWord n) :
    ∃ w : Int64, parse text = .ok (int w) ∧ w.toInt = n := by
  obtain ⟨w, hword, hw⟩ := word?_of_inWord hn
  refine ⟨w, ?_, hw⟩
  simp only [parse, trimBlanks_of_writesInt h, readInt?_eq_some_iff.2 h, Option.bind_some, hword]

theorem parse_of_not_inWord (h : WritesInt text.toList n) (hn : ¬ InWord n) :
    parse text = .ok (float (.ofInt n)) := by
  have hzero : n ≠ 0 := by
    rintro rfl
    exact hn ⟨by decide, by decide⟩
  have hread : (Binary.read? text.toList : Option Double) = some (.ofInt n) :=
    Binary.read?_writesInt (by decide) (by decide) (by decide) h hzero
  simp only [parse, trimBlanks_of_writesInt h, readInt?_eq_some_iff.2 h, Option.bind_some,
    word?_of_not_inWord hn, hread]

/-! ## The law -/

/-- A whole number is never refused as a fill. The fill is the number itself
exactly if a word or double precision has it, and otherwise the nearest number
of double precision. A raster keeps just this fill. The text of the fill writes
a word digit by digit, and is read as the fill again if it is finite. -/
theorem whole_numbers_are_kept_where_they_fit (h : WritesInt text.toList n) :
    ∃ fill, parse text = .ok fill ∧
      (fill.exact = .number n ↔ InWord n ∨ Format.double.Has (.number n)) ∧
      (¬ InWord n → fill = float (.ofInt n)) ∧
      (∀ (crop : Crop) (raster : Raster),
        crop.decode (some fill) = .ok raster → raster.fill = fill) ∧
      (InWord n → WritesInt fill.text.toList n) ∧
      (fill.isFinite = true → parse fill.text = .ok fill) := by
  by_cases hn : InWord n
  · obtain ⟨w, hparse, rfl⟩ := parse_of_inWord h hn
    refine ⟨int w, hparse, iff_of_true rfl (Or.inl hn), fun hnot => absurd hn hnot,
      fun _ _ => Crop.fill_of_decode, fun _ => ?_, parse_text⟩
    rw [toList_text]
    exact writesInt_showInt w.toInt
  · refine ⟨_, parse_of_not_inWord h hn, ?_, fun _ => rfl, fun _ _ => Crop.fill_of_decode,
      fun hin => absurd hin hn, parse_text⟩
    rw [or_iff_right hn]
    exact ⟨fun hexact => ⟨_, hexact⟩, Binary.exact_ofInt⟩

/-- The first number above the words is a power of two. -/
theorem the_first_number_above_the_words_is_kept :
    WritesInt "+9223372036854775808".toList (2 ^ 63) ∧
      ∃ fill, parse "+9223372036854775808" = .ok fill ∧ fill.exact = .number (2 ^ 63 : Int) := by
  have hwrites : WritesInt "+9223372036854775808".toList (2 ^ 63) :=
    readInt?_eq_some_iff.1 (by decide +kernel)
  have hhas : Format.double.Has (.number (2 ^ 63 : Int)) :=
    (Binary.has_int_iff (by decide)).2 (by decide +kernel)
  obtain ⟨fill, hparse, hexact, -⟩ := whole_numbers_are_kept_where_they_fit hwrites
  exact ⟨hwrites, fill, hparse, hexact.2 (Or.inr hhas)⟩

/-- The next number is rounded to it. -/
theorem the_second_number_above_the_words_is_rounded :
    WritesInt "9223372036854775809".toList 9223372036854775809 ∧
      ∃ fill, parse "9223372036854775809" = .ok fill ∧
        fill.exact = .number (9223372036854775808 : Int) ∧
        fill.exact ≠ .number (9223372036854775809 : Int) := by
  have hwrites : WritesInt "9223372036854775809".toList 9223372036854775809 :=
    readInt?_eq_some_iff.1 (by decide +kernel)
  have hparse := parse_of_not_inWord hwrites fun hin => absurd hin.2 (by decide)
  have hrounded : (.ofInt 9223372036854775809 : Double) = .ofInt 9223372036854775808 := by
    decide +kernel
  have hhas : Format.double.Has (.number (9223372036854775808 : Int)) :=
    (Binary.has_int_iff (by decide)).2 (by decide +kernel)
  have hexact : (.ofInt 9223372036854775808 : Double).exact = .number (9223372036854775808 : Int) :=
    Binary.exact_ofInt hhas
  rw [hrounded] at hparse
  refine ⟨hwrites, float (.ofInt 9223372036854775808), hparse, hexact, ?_⟩
  rw [exact, hexact]
  simp

end Fill

end SceneMask
