-- The texts of fills. A finite fill is written as a plain decimal, and the
-- decimal of a real number always has a point. So the text is read as the fill
-- that it was written for, a whole number as a whole number and a real number
-- as the same real number, and no two fills share a text.
import Mathlib
import SceneMask.Proofs.ShortestDecimals
import SceneMask.Proofs.Trimming

namespace SceneMask

/-! ## Whole numbers and points -/

theorem mem_of_writesInt {cs : List Char} {n : Int} (h : WritesInt cs n) {c : Char} (hc : c ∈ cs) :
    c.isDigit = true ∨ c = '+' ∨ c = '-' := by
  cases h with
  | unsigned h => exact Or.inl (h.digit c hc)
  | plus h =>
    rcases List.mem_cons.1 hc with rfl | hc
    · exact Or.inr (Or.inl rfl)
    · exact Or.inl (h.digit c hc)
  | minus h =>
    rcases List.mem_cons.1 hc with rfl | hc
    · exact Or.inr (Or.inr rfl)
    · exact Or.inl (h.digit c hc)

/-- No whole number is written with a point. -/
theorem readInt?_eq_none_of_point {cs : List Char} (h : '.' ∈ cs) : readInt? cs = none := by
  rw [Option.eq_none_iff_forall_ne_some]
  intro n hn
  have hpoint := mem_of_writesInt (readInt?_eq_some_iff.1 hn) h
  revert hpoint
  decide

theorem trimBlanks_of_writesInt {cs : List Char} {n : Int} (h : WritesInt cs n) :
    trimBlanks cs = cs := by
  apply trimBlanks_of_no_blank
  intro c hc
  rcases mem_of_writesInt h hc with hdigit | rfl | rfl
  · exact isBlank_of_isDigit hdigit
  · decide
  · decide

theorem trimBlanks_of_numeric {cs : List Char} (h : Numeric cs) : trimBlanks cs = cs := by
  apply trimBlanks_of_no_blank
  intro c hc
  rcases h c hc with hdigit | rfl | rfl
  · exact isBlank_of_isDigit hdigit
  · decide
  · decide

namespace Fill

/-! ## Shapes -/

/-- A plain decimal for a fill: digits after an optional minus, and for a real
number a point with digits on both sides of it. -/
inductive PlainText : Fill → List Char → Prop
  | int {n : Int64} {ds : List Char} (negative : Bool) (h : AllDigits ds) :
      PlainText (int n) (Binary.signText negative ++ ds)
  | float {x : Double} {whole fraction : List Char} (negative : Bool) (hwhole : AllDigits whole)
      (hfraction : AllDigits fraction) :
      PlainText (float x) (Binary.signText negative ++ (whole ++ '.' :: fraction))

theorem toList_text (fill : Fill) : fill.text.toList = fill.chars := String.toList_ofList

theorem plainText_int (n : Int64) : PlainText (int n) (int n).chars := by
  unfold chars showInt
  dsimp only
  split
  · exact .int true (allDigits_digits _)
  · exact .int false (allDigits_digits _)

/-- The text of a finite real number, as a decimal that is around its rank. A
decimal without a point in it gets one. -/
theorem exists_decimal (negative : Bool) (rank : Fin Format.double.infinityRank) :
    ∃ (d : Decimal) (text : List Char), Format.double.RoundsTo (d.value * Format.double.one) rank ∧
      d.WritesPoint text ∧
      (float (.finite negative rank)).chars = Binary.signText negative ++ text := by
  obtain ⟨d, hrounds, hplain⟩ := Binary.exists_plain_decimal negative rank
  have hchars : (float (.finite negative rank)).chars =
      if (Binary.signText negative ++ d.positional).contains '.' then
        Binary.signText negative ++ d.positional
      else Binary.signText negative ++ d.positional ++ ['.', '0'] := by
    simp only [chars, hplain, Binary.isFinite, Bool.true_and]
    cases (Binary.signText negative ++ d.positional).contains '.' <;> rfl
  rcases le_or_gt 0 d.exponent with hexponent | hexponent
  · refine ⟨d, d.positional ++ ['.', '0'], hrounds, Decimal.writesPoint_of_nonneg hexponent, ?_⟩
    have hnone : ¬ (Binary.signText negative ++ d.positional).contains '.' = true := by
      rw [List.contains_iff_mem, List.mem_append, not_or]
      refine ⟨?_, fun hmem => ?_⟩
      · cases negative <;> simp [Binary.signText]
      · exact absurd ((Decimal.positional_of_nonneg hexponent).1.digit _ hmem) (by decide)
    rw [hchars, if_neg hnone, List.append_assoc]
  · have htext := Decimal.writesPoint_of_neg hexponent
    refine ⟨d, d.positional, hrounds, htext, ?_⟩
    obtain ⟨whole, fraction, -, -, hpositional, -⟩ := htext
    rw [hchars, if_pos]
    rw [List.contains_iff_mem, hpositional]
    simp

theorem plainText_chars {fill : Fill} (h : fill.isFinite = true) : PlainText fill fill.chars := by
  cases fill with
  | int n => exact plainText_int n
  | float x =>
    cases x with
    | nan => contradiction
    | infinite negative => contradiction
    | finite negative rank =>
      obtain ⟨d, text, -, ⟨whole, fraction, hwhole, hfraction, rfl, -⟩, hchars⟩ :=
        exists_decimal negative rank
      rw [hchars]
      exact .float negative hwhole hfraction

/-! ## Reading -/

theorem parse_of_trimmed {s : String} {fill : Fill} (h : fill.isFinite = true)
    (hs : trimBlanks s.toList = fill.chars) : parse s = .ok fill := by
  unfold parse
  rw [hs]
  cases fill with
  | int n =>
    have hread : readInt? (int n).chars = some n.toInt :=
      readInt?_eq_some_iff.2 (writesInt_showInt n.toInt)
    simp only [hread, Option.bind_some, word?_toInt]
  | float x =>
    cases x with
    | nan => contradiction
    | infinite negative => contradiction
    | finite negative rank =>
      obtain ⟨d, text, hrounds, htext, hchars⟩ := exists_decimal negative rank
      have hread : Binary.read? (float (.finite negative rank)).chars =
          some (.finite negative rank : Double) := by
        rw [hchars, Binary.read?_writesPoint (by decide) (by decide) (by decide) negative htext
          hrounds, Binary.ofRank, dif_pos rank.isLt]
      have hpoint : '.' ∈ (float (.finite negative rank)).chars := by
        obtain ⟨whole, fraction, -, -, rfl, -⟩ := htext
        simp [hchars]
      simp only [readInt?_eq_none_of_point hpoint, Option.bind_none, hread]

theorem parse_text {fill : Fill} (h : fill.isFinite = true) : parse fill.text = .ok fill := by
  apply parse_of_trimmed h
  rw [toList_text, trimBlanks_of_numeric (numeric_chars h)]

theorem parse_between {fill : Fill} (h : fill.isFinite = true) {left right : String}
    (hleft : AllBlank left.toList) (hright : AllBlank right.toList) :
    parse (left ++ fill.text ++ right) = .ok fill := by
  apply parse_of_trimmed h
  rw [String.toList_append, String.toList_append, toList_text, trimBlanks_between hleft hright,
    trimBlanks_of_numeric (numeric_chars h)]

/-! ## The law -/

/-- A finite fill is written as a plain decimal, without anything that the
grammar of masks could take for more than a number. Its text is read as this
fill, whatever blanks stand around it: the kind of number and the sign of a
zero come back too. So different fills have different texts. -/
theorem a_finite_fill_is_read_from_its_text {fill : Fill} (h : fill.isFinite = true) :
    fill.PlainText fill.text.toList ∧
      (∀ c ∈ fill.text.toList, c ∉ ['e', 'E', ',', ';', '(', ')']) ∧
      (∀ left right : String, AllBlank left.toList → AllBlank right.toList →
        parse (left ++ fill.text ++ right) = .ok fill) ∧
      ∀ other : Fill, other.isFinite = true → other.text = fill.text → other = fill := by
  refine ⟨?_, ?_, fun left right => parse_between h, ?_⟩
  · rw [toList_text]
    exact plainText_chars h
  · intro c hc hother
    rw [toList_text] at hc
    have hnumeric := numeric_chars h c hc
    fin_cases hother <;> revert hnumeric <;> decide
  · intro other hother hsame
    have hread := parse_text hother
    rw [hsame, parse_text h] at hread
    exact (Except.ok.inj hread).symm

/-- The negative zero between blanks. -/
theorem negative_zero_is_read_from_its_text :
    (float (.zero true)).isFinite = true ∧ parse " -0.0\t" = .ok (float (.zero true)) ∧
      (float (.zero true)).text ≠ (float (.zero false)).text := by
  have hzero : (float (.zero true)).isFinite = true := by decide
  refine ⟨hzero, ?_, ?_⟩
  · have hleft : AllBlank " ".toList := by simp [AllBlank, isBlank, blankRanges]
    have hright : AllBlank "\t".toList := by simp [AllBlank, isBlank, blankRanges]
    have hread := (a_finite_fill_is_read_from_its_text hzero).2.2.1 " " "\t" hleft hright
    have htext : " " ++ (float (.zero true)).text ++ "\t" = " -0.0\t" := by decide
    rwa [htext] at hread
  · intro hsame
    have hfills := (a_finite_fill_is_read_from_its_text hzero).2.2.2 _ (by decide) hsame.symm
    revert hfills
    decide

end Fill

end SceneMask
