-- The laws of numerals: digits read back as the number they write, and a
-- finite number is written with digits, points and minus signs only, so
-- its text never looks like anything but a number.
import Mathlib
import SceneMask.Fill
import SceneMask.Number.Shortest

namespace SceneMask

/-! ## Digits -/

theorem isDigit_of_mem_digits {n : Nat} {c : Char} (h : c ∈ digits n) : c.isDigit = true :=
  Nat.isDigit_of_mem_toDigits (by decide) (by decide) h

theorem digits_ne_nil (n : Nat) : digits n ≠ [] := Nat.toDigits_ne_nil

/-- Digits and nothing else, at least one of them. -/
structure AllDigits (cs : List Char) : Prop where
  nonempty : cs ≠ []
  digit : ∀ c ∈ cs, c.isDigit = true

theorem allDigits_digits (n : Nat) : AllDigits (digits n) :=
  ⟨digits_ne_nil n, fun _ hc => isDigit_of_mem_digits hc⟩

theorem readDigits?_eq_some_iff {cs : List Char} {n : Nat} :
    readDigits? cs = some n ↔ AllDigits cs ∧ ofDigits cs = n := by
  unfold readDigits?
  constructor
  · intro h
    obtain ⟨hdigits, hn⟩ := Option.ite_none_left_eq_some.1 h
    simp only [Bool.or_eq_true, Bool.not_eq_true', not_or, List.isEmpty_iff,
      Bool.not_eq_false, List.all_eq_true] at hdigits
    exact ⟨⟨hdigits.1, hdigits.2⟩, Option.some.inj hn⟩
  · rintro ⟨⟨hnonempty, hdigit⟩, rfl⟩
    rw [List.all_eq_true.2 hdigit, List.isEmpty_eq_false_iff.2 hnonempty]
    rfl

theorem ofDigits_digits (n : Nat) : ofDigits (digits n) = n := Nat.ofDigitChars_ten_toDigits

theorem readDigits?_digits (n : Nat) : readDigits? (digits n) = some n :=
  readDigits?_eq_some_iff.2 ⟨allDigits_digits n, ofDigits_digits n⟩

/-! ## Whole numbers -/

/-- A text writes a whole number: digits after an optional sign. -/
inductive WritesInt : List Char → Int → Prop
  | unsigned {ds : List Char} (h : AllDigits ds) : WritesInt ds (ofDigits ds)
  | plus {ds : List Char} (h : AllDigits ds) : WritesInt ('+' :: ds) (ofDigits ds)
  | minus {ds : List Char} (h : AllDigits ds) : WritesInt ('-' :: ds) (-(ofDigits ds : Int))

theorem AllDigits.head {c : Char} {cs : List Char} (h : AllDigits (c :: cs)) :
    c ≠ '-' ∧ c ≠ '+' := by
  have hc := h.digit c List.mem_cons_self
  refine ⟨?_, ?_⟩ <;> (rintro rfl; contradiction)

theorem readInt?_eq_some_iff {cs : List Char} {n : Int} :
    readInt? cs = some n ↔ WritesInt cs n := by
  constructor
  · intro h
    unfold readInt? at h
    split at h <;> obtain ⟨_, hread, rfl⟩ := Option.map_eq_some_iff.1 h <;>
      obtain ⟨m, hm, heq⟩ := Option.bind_eq_some_iff.1 hread <;> cases heq <;>
      obtain ⟨hdigits, rfl⟩ := readDigits?_eq_some_iff.1 hm
    · exact .minus hdigits
    · exact .plus hdigits
    · exact .unsigned hdigits
  · intro h
    cases h with
    | plus h => simp [readInt?, readDigits?_eq_some_iff.2 ⟨h, rfl⟩]
    | minus h => simp [readInt?, readDigits?_eq_some_iff.2 ⟨h, rfl⟩]
    | unsigned h =>
      unfold readInt?
      split
      · exact absurd rfl h.head.1
      · exact absurd rfl h.head.2
      · rw [readDigits?_eq_some_iff.2 ⟨h, rfl⟩]
        rfl

theorem readInt?_digits (n : Nat) : readInt? (digits n) = some (n : Int) := by
  have hwrites := WritesInt.unsigned (allDigits_digits n)
  rwa [ofDigits_digits, ← readInt?_eq_some_iff] at hwrites

theorem writesInt_showInt (n : Int) : WritesInt (showInt n) n := by
  unfold showInt
  split
  · have hwrites := WritesInt.minus (allDigits_digits n.natAbs)
    rwa [ofDigits_digits, show -(n.natAbs : Int) = n by omega] at hwrites
  · have hwrites := WritesInt.unsigned (allDigits_digits n.natAbs)
    rwa [ofDigits_digits, show (n.natAbs : Int) = n by omega] at hwrites

/-- A text writes a whole number that is not negative, without a minus sign. -/
theorem readNat?_eq_some_iff {limit n : Nat} {cs : List Char} :
    readNat? limit cs = some n ↔
      ∃ ds, AllDigits ds ∧ (cs = ds ∨ cs = '+' :: ds) ∧ ofDigits ds = n ∧ n ≤ limit := by
  unfold readNat?
  dsimp only
  rw [Option.filter_eq_some_iff]
  constructor
  · rintro ⟨hread, hlimit⟩
    obtain ⟨hdigits, rfl⟩ := readDigits?_eq_some_iff.1 hread
    refine ⟨_, hdigits, ?_, rfl, by simpa using hlimit⟩
    split
    · exact Or.inr rfl
    · exact Or.inl rfl
  · rintro ⟨ds, hdigits, hcs, rfl, hlimit⟩
    refine ⟨readDigits?_eq_some_iff.2 ?_, by simpa using hlimit⟩
    rcases hcs with rfl | rfl
    · split
      · exact absurd rfl hdigits.head.2
      · exact ⟨hdigits, rfl⟩
    · exact ⟨hdigits, rfl⟩

namespace Fill

theorem word?_toInt (n : Int64) : word? n.toInt = some n := by
  have hlow := n.le_toInt
  have hhigh := n.toInt_lt
  rw [word?, if_pos (by omega), Int64.ofInt_toInt]

end Fill

/-! ## Texts of numbers -/

/-- Only digits, points and minus signs. -/
def Numeric (cs : List Char) : Prop := ∀ c ∈ cs, c.isDigit = true ∨ c = '.' ∨ c = '-'

theorem numeric_digits (n : Nat) : Numeric (digits n) := by
  intro c hc
  exact Or.inl (isDigit_of_mem_digits hc)

theorem numeric_cons {c : Char} {cs : List Char} (hc : c.isDigit = true ∨ c = '.' ∨ c = '-')
    (hcs : Numeric cs) : Numeric (c :: cs) := List.forall_mem_cons.2 ⟨hc, hcs⟩

theorem numeric_append {cs ds : List Char} (hcs : Numeric cs) (hds : Numeric ds) :
    Numeric (cs ++ ds) := by
  intro c hc
  rcases List.mem_append.1 hc with hc | hc
  · exact hcs c hc
  · exact hds c hc

theorem numeric_zeros (n : Nat) : Numeric (List.replicate n '0') := by
  intro c hc
  rw [List.eq_of_mem_replicate hc]
  exact Or.inl (by decide)

theorem numeric_showInt (n : Int) : Numeric (showInt n) := by
  unfold showInt
  split
  · exact numeric_cons (by simp) (numeric_digits _)
  · exact numeric_digits _

theorem numeric_positional (d : Decimal) : Numeric d.positional := by
  have hdigits := numeric_digits d.coefficient
  unfold Decimal.positional
  simp only
  split
  · exact numeric_append hdigits (numeric_zeros _)
  split
  · apply numeric_append
    · exact fun c hc => hdigits c (List.mem_of_mem_take hc)
    · apply numeric_cons (by simp)
      exact fun c hc => hdigits c (List.mem_of_mem_drop hc)
  · apply numeric_cons (by decide)
    apply numeric_cons (by simp)
    exact numeric_append (numeric_zeros _) hdigits

theorem numeric_plain {f : Format} {x : Binary f} (h : x.isFinite = true) :
    Numeric x.plain := by
  cases x with
  | nan => contradiction
  | infinite negative => contradiction
  | finite negative rank =>
    have htext : Numeric (if rank.val = 0 then ['0']
        else (f.shortest .up rank).positional) := by
      split
      · exact numeric_zeros 1
      · exact numeric_positional _
    unfold Binary.plain
    simp only
    split
    · exact numeric_cons (by simp) htext
    · exact htext

/-- The text of a finite fill is the text of a number. -/
theorem Fill.numeric_chars {fill : Fill} (h : fill.isFinite = true) : Numeric fill.chars := by
  cases fill with
  | int n => exact numeric_showInt _
  | float x =>
    have hplain := numeric_plain h
    unfold Fill.chars
    simp only
    split
    · exact numeric_append hplain (numeric_cons (by simp) (numeric_zeros 1))
    · exact hplain

end SceneMask
