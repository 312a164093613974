-- Numerals in JSON texts. A numeral is read the same whatever follows it,
-- as long as that does not go on with the numeral, and a whole number is
-- written as a numeral that reads back as this number.
import Mathlib
import SceneMask.Json.Printer
import SceneMask.Json.Number
import SceneMask.Proofs.Numerals

namespace SceneMask

namespace Numeral

/-! ## What follows a numeral -/

/-- A text that no numeral goes on with. -/
def Ends (rest : List Char) : Prop :=
  ∀ c ∈ rest.head?, c.isDigit = false ∧ c ≠ '.' ∧ c ≠ 'e' ∧ c ≠ 'E'

theorem ends_nil : Ends [] := nofun

theorem ends_cons {c : Char} (rest : List Char)
    (h : c.isDigit = false ∧ c ≠ '.' ∧ c ≠ 'e' ∧ c ≠ 'E') : Ends (c :: rest) := by
  intro d hd
  cases hd
  exact h

section Append

variable {cs tail rest : List Char}

theorem span_digits_append (cs : List Char) (h : Ends rest) :
    (cs ++ rest).takeWhile Char.isDigit = cs.takeWhile Char.isDigit ∧
      (cs ++ rest).dropWhile Char.isDigit = cs.dropWhile Char.isDigit ++ rest := by
  induction cs with
  | nil =>
    cases rest with
    | nil => exact ⟨rfl, rfl⟩
    | cons c rest =>
      obtain ⟨hdigit, -⟩ := h c rfl
      simp [hdigit]
  | cons c cs ih =>
    rw [List.cons_append]
    cases hc : c.isDigit with
    | false => simp [hc]
    | true => simp [hc, ih]

theorem scanDigits?_append {ds : List Char} (h : Ends rest)
    (hscan : scanDigits? cs = some (ds, tail)) :
    scanDigits? (cs ++ rest) = some (ds, tail ++ rest) := by
  obtain ⟨htake, hdrop⟩ := span_digits_append cs h
  unfold scanDigits? at hscan ⊢
  simp only [htake, hdrop]
  by_cases hnone : (cs.takeWhile Char.isDigit).isEmpty = true
  · rw [if_pos hnone] at hscan
    cases hscan
  · rw [if_neg hnone] at hscan ⊢
    cases hscan
    rfl

theorem map_scanDigits?_append {β : Type} {f : List Char → β} {b : β} (h : Ends rest)
    (hscan : (scanDigits? cs).map (fun found => (f found.1, found.2)) = some (b, tail)) :
    (scanDigits? (cs ++ rest)).map (fun found => (f found.1, found.2)) =
      some (b, tail ++ rest) := by
  obtain ⟨⟨ds, left⟩, hds, heq⟩ := Option.map_eq_some_iff.1 hscan
  cases heq
  rw [scanDigits?_append h hds, Option.map_some]

theorem scanDigits?_eq_some {ds : List Char} (hscan : scanDigits? cs = some (ds, tail)) :
    ∃ c rest, cs = c :: rest ∧ c.isDigit = true := by
  cases cs with
  | nil => cases hscan
  | cons c rest =>
    cases hc : c.isDigit with
    | true => exact ⟨c, rest, rfl, hc⟩
    | false => simp [scanDigits?, hc] at hscan

theorem scanWhole?_append {ds : List Char} (h : Ends rest)
    (hscan : scanWhole? cs = some (ds, tail)) :
    scanWhole? (cs ++ rest) = some (ds, tail ++ rest) := by
  unfold scanWhole? at hscan
  split at hscan
  · rename_i c more
    split at hscan
    · cases hscan
    · rename_i hc
      cases hscan
      simp [scanWhole?, hc]
  · rename_i hlone
    have hdigits := scanDigits?_append h hscan
    obtain ⟨c, more, rfl, hc⟩ := scanDigits?_eq_some hscan
    unfold scanWhole?
    split
    · rename_i d after heq
      -- A lone zero: what follows is no digit.
      rw [List.cons_append, List.cons.injEq] at heq
      obtain ⟨rfl, hrest⟩ := heq
      cases more with
      | cons d' more => exact absurd rfl (hlone d' more)
      | nil =>
        rw [List.nil_append] at hrest
        subst hrest
        obtain ⟨hd, -⟩ := h d rfl
        cases hscan
        simp [hd]
    · exact hdigits

theorem scanFraction?_of_ne_point {c : Char} (h : c ≠ '.') (cs : List Char) :
    scanFraction? (c :: cs) = some (none, c :: cs) := by
  unfold scanFraction?
  split
  · rename_i heq
    cases heq
    exact absurd rfl h
  · rfl

theorem scanFraction?_append {fraction : Option (List Char)} (h : Ends rest)
    (hscan : scanFraction? cs = some (fraction, tail)) :
    scanFraction? (cs ++ rest) = some (fraction, tail ++ rest) := by
  cases cs with
  | nil =>
    cases hscan
    cases rest with
    | nil => rfl
    | cons c rest =>
      obtain ⟨-, hpoint, -⟩ := h c rfl
      exact scanFraction?_of_ne_point hpoint rest
  | cons c more =>
    by_cases hpoint : c = '.'
    · subst hpoint
      exact map_scanDigits?_append h hscan
    · rw [scanFraction?_of_ne_point hpoint] at hscan
      cases hscan
      exact scanFraction?_of_ne_point hpoint (more ++ rest)

theorem scanExponent?_append {exponent : Option Int} (h : Ends rest)
    (hscan : scanExponent? cs = some (exponent, tail)) :
    scanExponent? (cs ++ rest) = some (exponent, tail ++ rest) := by
  cases cs with
  | nil =>
    cases hscan
    cases rest with
    | nil => rfl
    | cons c rest =>
      obtain ⟨-, -, hlower, hupper⟩ := h c rfl
      simp [scanExponent?, hlower, hupper]
  | cons c more =>
    rw [List.cons_append]
    unfold scanExponent? at hscan ⊢
    by_cases hc : (c = 'e' || c = 'E') = true
    · simp only [hc, if_true] at hscan ⊢
      -- The sign is off before the digits, and digits there have to be.
      rcases more with _ | ⟨d, more⟩
      · cases hscan
      · rw [List.cons_append]
        split at hscan
        · rename_i heq
          cases heq
          exact map_scanDigits?_append (f := fun ds => some (-(ofDigits ds : Int))) h hscan
        · rename_i heq
          cases heq
          exact map_scanDigits?_append (f := fun ds => some (ofDigits ds : Int)) h hscan
        · rename_i hminus hplus
          split
          · rename_i heq
            cases heq
            exact absurd rfl (hminus more)
          · rename_i heq
            cases heq
            exact absurd rfl (hplus more)
          · exact map_scanDigits?_append (f := fun ds => some (ofDigits ds : Int)) h hscan
    · simp only [hc] at hscan ⊢
      cases hscan
      rfl

/-! ## The front of a numeral -/

/-- A numeral after its sign. -/
def scanUnsigned? (negative : Bool) (cs : List Char) : Option (Numeral × List Char) := do
  let (whole, rest) ← scanWhole? cs
  let (fraction, rest) ← scanFraction? rest
  let (exponent, rest) ← scanExponent? rest
  return (⟨negative, whole, fraction, exponent⟩, rest)

theorem scan?_minus (cs : List Char) : scan? ('-' :: cs) = scanUnsigned? true cs := rfl

theorem scan?_of_ne_minus {c : Char} (h : c ≠ '-') (cs : List Char) :
    scan? (c :: cs) = scanUnsigned? false (c :: cs) := by
  unfold scan?
  split
  rename_i heq
  split at heq
  · rename_i hminus
    cases hminus
    exact absurd rfl h
  · cases heq
    rfl

theorem scanUnsigned?_append {negative : Bool} {n : Numeral} (h : Ends rest)
    (hscan : scanUnsigned? negative cs = some (n, tail)) :
    scanUnsigned? negative (cs ++ rest) = some (n, tail ++ rest) := by
  unfold scanUnsigned? at hscan ⊢
  obtain ⟨⟨whole, afterWhole⟩, hwhole, hscan⟩ := Option.bind_eq_some_iff.1 hscan
  obtain ⟨⟨fraction, afterFraction⟩, hfraction, hscan⟩ := Option.bind_eq_some_iff.1 hscan
  obtain ⟨⟨exponent, afterExponent⟩, hexponent, hscan⟩ := Option.bind_eq_some_iff.1 hscan
  cases hscan
  simp only [scanWhole?_append h hwhole, scanFraction?_append h hfraction,
    scanExponent?_append h hexponent, Option.bind_eq_bind, Option.bind_some]
  rfl

theorem scanUnsigned?_eq_some {negative : Bool} {n : Numeral}
    (hscan : scanUnsigned? negative cs = some (n, tail)) :
    ∃ c rest, cs = c :: rest ∧ c.isDigit = true := by
  obtain ⟨⟨whole, afterWhole⟩, hwhole, -⟩ := Option.bind_eq_some_iff.1 hscan
  unfold scanWhole? at hwhole
  split at hwhole
  · exact ⟨_, _, rfl, by decide⟩
  · exact scanDigits?_eq_some hwhole

/-- A numeral starts with a minus sign or a digit. -/
theorem scan?_eq_some {n : Numeral} (hscan : scan? cs = some (n, tail)) :
    ∃ c rest, cs = c :: rest ∧ (c = '-' ∨ c.isDigit = true) := by
  cases cs with
  | nil => cases hscan
  | cons c more =>
    by_cases hminus : c = '-'
    · exact ⟨c, more, rfl, Or.inl hminus⟩
    · rw [scan?_of_ne_minus hminus] at hscan
      obtain ⟨d, rest, heq, hd⟩ := scanUnsigned?_eq_some hscan
      cases heq
      exact ⟨c, more, rfl, Or.inr hd⟩

/-- What follows a numeral stays as it is. -/
theorem scan?_append {n : Numeral} (h : Ends rest) (hscan : scan? cs = some (n, tail)) :
    scan? (cs ++ rest) = some (n, tail ++ rest) := by
  cases cs with
  | nil => cases hscan
  | cons c more =>
    by_cases hminus : c = '-'
    · subst hminus
      exact scanUnsigned?_append h hscan
    · rw [List.cons_append, scan?_of_ne_minus hminus, ← List.cons_append]
      rw [scan?_of_ne_minus hminus] at hscan
      exact scanUnsigned?_append h hscan

end Append

/-! ## Whole numbers -/

theorem le_ofDigitChars (ds : List Char) (n : Nat) : n ≤ Nat.ofDigitChars 10 ds n := by
  induction ds generalizing n with
  | nil => exact Nat.le_refl n
  | cons c rest ih =>
    rw [Nat.ofDigitChars_cons]
    exact Nat.le_trans (by omega) (ih _)

theorem appendDigits_eq {word : Nat} {ds : List Char}
    (h : Nat.ofDigitChars 10 ds word < 0x10000000000000000) :
    appendDigits word ds = (Nat.ofDigitChars 10 ds word, []) := by
  induction ds generalizing word with
  | nil => rfl
  | cons c rest ih =>
    rw [Nat.ofDigitChars_cons, Nat.mul_comm] at h ⊢
    have hfits := Nat.lt_of_le_of_lt (le_ofDigitChars rest _) h
    rw [appendDigits, if_pos hfits, ih h]

theorem digits_injective {m n : Nat} (h : digits m = digits n) : m = n := by
  have hread := readDigits?_digits m
  rw [h, readDigits?_digits n] at hread
  exact (Option.some.inj hread).symm

/-- Only zero is written with a leading zero. -/
theorem digits_eq_zero_cons {n : Nat} {rest : List Char} (h : digits n = '0' :: rest) :
    rest = [] := by
  induction n using Nat.strongRecOn generalizing rest with
  | ind n ih =>
    by_cases hsmall : n < 10
    · rw [digits, Nat.toDigits_of_lt_base hsmall] at h
      exact (List.cons.inj h).2.symm
    · have hstep : digits n = digits (n / 10) ++ [(n % 10).digitChar] :=
        Nat.toDigits_of_base_le (by omega) (by omega)
      rw [hstep] at h
      -- The digits of a tenth already lead with a zero, so it is zero.
      cases hlead : digits (n / 10) with
      | nil => exact absurd hlead (digits_ne_nil _)
      | cons c more =>
        rw [hlead, List.cons_append] at h
        obtain ⟨rfl, -⟩ := List.cons.inj h
        have hzero : digits (n / 10) = digits 0 := by
          rw [hlead, ih (n / 10) (by omega) hlead]
          rfl
        have := digits_injective hzero
        omega

theorem scanWhole?_digits (n : Nat) : scanWhole? (digits n) = some (digits n, []) := by
  have hall : ∀ c ∈ digits n, c.isDigit = true := fun c hc => isDigit_of_mem_digits hc
  have hspan : scanDigits? (digits n) = some (digits n, []) := by
    unfold scanDigits?
    simp only [List.takeWhile_eq_self_iff.2 hall, List.dropWhile_eq_nil_iff.2 hall,
      List.isEmpty_eq_false_iff.2 (digits_ne_nil n)]
    rfl
  unfold scanWhole?
  split
  · rename_i heq
    cases digits_eq_zero_cons heq
  · exact hspan

theorem scanUnsigned?_digits (negative : Bool) (n : Nat) :
    scanUnsigned? negative (digits n) = some (⟨negative, digits n, none, none⟩, []) := by
  unfold scanUnsigned?
  rw [scanWhole?_digits]
  rfl

theorem scan?_showInt (n : Int) :
    scan? (showInt n) = some (⟨decide (n < 0), digits n.natAbs, none, none⟩, []) := by
  unfold showInt
  split
  · rename_i hneg
    rw [scan?_minus, scanUnsigned?_digits, decide_eq_true hneg]
  · rename_i hpos
    rw [decide_eq_false hpos]
    cases hds : digits n.natAbs with
    | nil => exact absurd hds (digits_ne_nil _)
    | cons c more =>
      have hdigit : c.isDigit = true := isDigit_of_mem_digits (hds ▸ List.mem_cons_self)
      have hminus : c ≠ '-' := by
        rintro rfl
        cases hdigit
      rw [scan?_of_ne_minus hminus, ← hds, scanUnsigned?_digits]

theorem value?_whole {n : Int} (fits : FitsWord n) :
    value? ⟨decide (n < 0), digits n.natAbs, none, none⟩ = some (.whole n fits) := by
  have hword : Nat.ofDigitChars 10 (digits n.natAbs) 0 = n.natAbs := Nat.ofDigitChars_ten_toDigits
  have hfits : n.natAbs < 0x10000000000000000 := by
    unfold FitsWord at fits
    omega
  have happend : appendDigits 0 (digits n.natAbs) = (n.natAbs, []) := by
    rw [appendDigits_eq (hword.symm ▸ hfits), hword]
  have hsigned : (if decide (n < 0) = true then -(n.natAbs : Int) else n.natAbs) = n := by
    simp only [decide_eq_true_eq]
    split <;> omega
  have hzero : (decide (n < 0) && n.natAbs == 0) = false := by
    rw [Bool.and_eq_false_iff, decide_eq_false_iff_not, beq_eq_false_iff_ne]
    omega
  unfold value?
  simp only [happend, hsigned, hzero]
  exact dif_pos fits

/-! ## Texts of numbers -/

/-- The number that a text writes, with nothing around it. -/
def read? (cs : List Char) : Option JsonNumber :=
  match scan? cs with
  | some (n, []) => n.value?
  | _ => none

theorem read?_eq_some_iff {cs : List Char} {number : JsonNumber} :
    read? cs = some number ↔ ∃ n, scan? cs = some (n, []) ∧ n.value? = some number := by
  unfold read?
  constructor
  · intro h
    split at h
    · rename_i n hscan
      exact ⟨n, hscan, h⟩
    · cases h
  · rintro ⟨n, hscan, hvalue⟩
    rw [hscan]
    exact hvalue

/-! ## Kinds of numbers -/

theorem scanDigits?_eq_append {cs ds tail : List Char} (h : scanDigits? cs = some (ds, tail)) :
    cs = ds ++ tail ∧ ∀ c ∈ ds, c.isDigit = true := by
  obtain ⟨-, heq⟩ := Option.ite_none_left_eq_some.1 h
  cases heq
  exact ⟨List.takeWhile_append_dropWhile.symm, fun c hc => List.mem_takeWhile_imp hc⟩

theorem scanWhole?_eq_append {cs ds tail : List Char} (h : scanWhole? cs = some (ds, tail)) :
    cs = ds ++ tail ∧ ∀ c ∈ ds, c.isDigit = true := by
  unfold scanWhole? at h
  split at h
  · obtain ⟨-, heq⟩ := Option.ite_none_left_eq_some.1 h
    cases heq
    exact ⟨rfl, List.forall_mem_singleton.2 (by decide)⟩
  · exact scanDigits?_eq_append h

theorem scanFraction?_eq_none {cs tail : List Char} (h : scanFraction? cs = some (none, tail)) :
    tail = cs := by
  unfold scanFraction? at h
  split at h
  · obtain ⟨_, -, heq⟩ := Option.map_eq_some_iff.1 h
    cases heq
  · cases h
    rfl

theorem scanExponent?_eq_none {cs tail : List Char} (h : scanExponent? cs = some (none, tail)) :
    tail = cs := by
  unfold scanExponent? at h
  split at h
  · split at h
    · obtain ⟨_, -, heq⟩ := Option.map_eq_some_iff.1 h
      cases heq
    · cases h
      rfl
  · cases h
    rfl

/-- A numeral without point and exponent is a sign and digits. -/
theorem mem_of_scanUnsigned? {negative : Bool} {cs : List Char} {n : Numeral}
    (h : scanUnsigned? negative cs = some (n, [])) (hfraction : n.fraction = none)
    (hexponent : n.exponent = none) : ∀ c ∈ cs, c.isDigit = true := by
  obtain ⟨⟨whole, afterWhole⟩, hwhole, h⟩ := Option.bind_eq_some_iff.1 h
  obtain ⟨⟨fraction, afterFraction⟩, hscan, h⟩ := Option.bind_eq_some_iff.1 h
  obtain ⟨⟨exponent, afterExponent⟩, hlast, h⟩ := Option.bind_eq_some_iff.1 h
  cases h
  subst hfraction hexponent
  cases scanFraction?_eq_none hscan
  cases scanExponent?_eq_none hlast
  obtain ⟨rfl, hdigits⟩ := scanWhole?_eq_append hwhole
  rw [List.append_nil]
  exact hdigits

theorem mem_of_scan? {cs : List Char} {n : Numeral} (h : scan? cs = some (n, []))
    (hfraction : n.fraction = none) (hexponent : n.exponent = none) :
    ∀ c ∈ cs, c = '-' ∨ c.isDigit = true := by
  cases cs with
  | nil => cases h
  | cons c more =>
    intro d hd
    by_cases hminus : c = '-'
    · subst hminus
      refine (List.mem_cons.1 hd).imp_right ?_
      exact mem_of_scanUnsigned? h hfraction hexponent d
    · rw [scan?_of_ne_minus hminus] at h
      exact Or.inr (mem_of_scanUnsigned? h hfraction hexponent d hd)

theorem real?_ne_whole {negative : Bool} {word : Nat} {exponent n : Int} {fits : FitsWord n} :
    real? negative word exponent ≠ some (.whole n fits) := by
  intro h
  obtain ⟨magnitude, -, h⟩ := Option.bind_eq_some_iff.1 h
  dsimp only at h
  generalize (if negative = true then -magnitude else magnitude) = value at h
  obtain ⟨_, heq⟩ := Option.dite_none_right_eq_some.1 h
  cases heq

theorem value?_eq_whole {numeral : Numeral} {n : Int} {fits : FitsWord n}
    (h : numeral.value? = some (.whole n fits)) :
    numeral.fraction = none ∧ numeral.exponent = none := by
  unfold value? at h
  split at h
  split at h
  · exact ⟨‹_›, ‹_›⟩
  · exact absurd h real?_ne_whole

/-- A text that has more to it than a sign and digits is no whole number. -/
theorem read?_ne_whole {cs : List Char} (h : ∃ c ∈ cs, c ≠ '-' ∧ c.isDigit = false) {n : Int}
    {fits : FitsWord n} : read? cs ≠ some (.whole n fits) := by
  intro hread
  obtain ⟨numeral, hscan, hvalue⟩ := read?_eq_some_iff.1 hread
  obtain ⟨hfraction, hexponent⟩ := value?_eq_whole hvalue
  obtain ⟨c, hc, hminus, hdigit⟩ := h
  rcases mem_of_scan? hscan hfraction hexponent c hc with heq | heq
  · exact hminus heq
  · rw [hdigit] at heq
    cases heq

end Numeral

/-- The text of a number writes this number. -/
def JsonNumber.ReadsBack (number : JsonNumber) : Prop :=
  Numeral.read? (Json.numberText number) = some number

instance (number : JsonNumber) : Decidable number.ReadsBack :=
  inferInstanceAs (Decidable (_ = _))

theorem JsonNumber.readsBack_whole {n : Int} (fits : FitsWord n) : (whole n fits).ReadsBack :=
  Numeral.read?_eq_some_iff.2 ⟨_, Numeral.scan?_showInt n, Numeral.value?_whole fits⟩

/-! ## Texts of real numbers -/

theorem Json.real_eq_number {x : Double} (h : x.isFinite = true) :
    real x = .number (.real x h) := dif_pos h

theorem Decimal.point_mem_positional {d : Decimal} (h : d.exponent < 0) : '.' ∈ d.positional := by
  unfold positional
  simp only [if_neg (Int.not_le.2 h)]
  split <;> simp

/-- A real number is written with a point or an exponent. -/
theorem Json.mem_realText {x : Double} (h : x.isFinite = true) :
    ∃ c ∈ realText x, c = '.' ∨ c = 'e' := by
  have hdecimal : ∀ d, ∃ c ∈ decimalText d, c = '.' ∨ c = 'e' := by
    intro d
    unfold decimalText
    dsimp only
    split
    · split
      · exact ⟨'.', by simp, Or.inl rfl⟩
      · rename_i hneg
        exact ⟨'.', Decimal.point_mem_positional (Int.not_le.1 hneg), Or.inl rfl⟩
    · exact ⟨'e', by simp, Or.inr rfl⟩
  cases x with
  | nan => cases h
  | infinite negative => cases h
  | finite negative rank =>
    have hunsigned : ∃ c ∈ (if rank.val = 0 then ['0', '.', '0']
        else decimalText (Format.double.shortest .even rank)), c = '.' ∨ c = 'e' := by
      split
      · exact ⟨'.', by decide, Or.inl rfl⟩
      · exact hdecimal _
    obtain ⟨c, hc, hkind⟩ := hunsigned
    refine ⟨c, ?_, hkind⟩
    unfold realText
    dsimp only
    split
    · exact List.mem_cons_of_mem _ hc
    · exact hc

/-- The text of a real number has the value of this number, be it read as a
whole number or as a real one. -/
def Json.KeepsValue (x : Double) : Prop :=
  (Numeral.read? (realText x)).map JsonNumber.toDouble = some x

instance (x : Double) : Decidable (Json.KeepsValue x) := inferInstanceAs (Decidable (_ = _))

/-- A real number is not read as a whole one, so that its value reads back is
enough. -/
theorem JsonNumber.readsBack_real {x : Double} (finite : x.isFinite = true)
    (h : Json.KeepsValue x) : (real x finite).ReadsBack := by
  obtain ⟨number, hread, hvalue⟩ := Option.map_eq_some_iff.1 h
  show Numeral.read? (Json.realText x) = _
  cases number with
  | whole n fits =>
    obtain ⟨c, hc, hkind⟩ := Json.mem_realText finite
    refine absurd hread (Numeral.read?_ne_whole ⟨c, hc, ?_⟩)
    rcases hkind with rfl | rfl <;> decide
  | real y hy =>
    cases hvalue
    exact hread

end SceneMask
