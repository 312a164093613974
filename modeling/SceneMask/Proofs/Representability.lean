-- The laws of what a type can represent. Two short tests decide whether a
-- type contains another one and whether it holds a fill. They are exact:
-- each holds just when the conversions that are carried out give back every
-- number.
import Mathlib
import SceneMask.Proofs.ExactSamples

namespace SceneMask

/-! ## Numbers of a type -/

/-- The first whole number with a bit too many for a single. -/
theorem Format.not_single_has : ¬ single.Has (.number (16777217 : Int)) := by
  rw [Binary.has_int_iff (by decide)]
  decide +kernel

namespace IntegerType

theorem holds_least (t : IntegerType) : t.Holds t.least :=
  ⟨le_refl _, t.holds_zero.1.trans t.holds_zero.2⟩

theorem holds_greatest (t : IntegerType) : t.Holds t.greatest :=
  ⟨t.holds_zero.1.trans t.holds_zero.2, le_refl _⟩

end IntegerType

namespace SampleType

theorem integer_has_iff {t : IntegerType} {n : Int} :
    (integer t).Has (.number n) ↔ t.Holds n := by
  constructor
  · rintro ⟨v, hv⟩
    obtain rfl : v.val = n := by simpa [exact] using hv
    exact v.property
  · intro h
    exact ⟨⟨n, h⟩, rfl⟩

theorem not_integer_has_nan (t : IntegerType) : ¬ (integer t).Has .nan := by
  rintro ⟨v, hv⟩
  cases hv

/-! ## The tests -/

/-- A type holds a fill exactly if it has the number that the fill is. -/
theorem holds_iff_has {t : SampleType} {fill : Fill} :
    t.holds fill = true ↔ t.Has fill.exact := by
  refine ⟨has_of_holds, fun h => ?_⟩
  cases t with
  | integer t =>
    cases fill with
    | int n => simpa [holds] using integer_has_iff.1 h
    | float x =>
      obtain ⟨v, hv⟩ := h
      have hx : x.exact = .number (v.val : Int) := hv.symm
      obtain ⟨hwhole, htruncate⟩ := Binary.exact_eq_int_iff.1 hx
      simp [holds, hwhole, htruncate, v.property]
  | float32 =>
    cases fill with
    | int n =>
      have htruncate := (Binary.has_int_iff (f := .single) (by decide)).1 h
      simpa [holds] using htruncate
    | float x =>
      -- the way to single precision and back keeps a number that is a single
      have hnarrow : (x.convert .single).exact = x.exact := Binary.exact_convert h
      have hback : ((x.convert .single).convert .double).exact = x.exact :=
        (exact_toDouble float32 (x.convert .single)).trans hnarrow
      cases x with
      | nan => rfl
      | infinite negative => rfl
      | finite negative rank =>
        have heqv : (((Binary.finite negative rank).convert .single).convert .double).eqv
            (.finite negative rank) = true := by
          refine (Binary.eqv_iff (by decide)).2 ⟨hback, fun hnan => ?_⟩
          rw [hnan] at hback
          cases hback
        simp [holds, heqv]
  | float64 =>
    cases fill with
    | int n =>
      have htruncate := (Binary.has_int_iff (f := .double) (by decide)).1 h
      simpa [holds] using htruncate
    | float x => rfl

/-- A type contains another one exactly if it has all its numbers. -/
theorem contains_iff_has {t u : SampleType} :
    t.contains u = true ↔ ∀ v : u.Value, t.Has (u.exact v) := by
  refine ⟨has_of_contains, fun h => ?_⟩
  cases t with
  | integer t =>
    cases u with
    | integer u =>
      have hleast := integer_has_iff.1 (h ⟨u.least, u.holds_least⟩)
      have hgreatest := integer_has_iff.1 (h ⟨u.greatest, u.holds_greatest⟩)
      simp [contains, hleast.1, hgreatest.2]
    | float32 => exact absurd (h Binary.nan) (not_integer_has_nan t)
    | float64 => exact absurd (h Binary.nan) (not_integer_has_nan t)
  | float32 =>
    cases u with
    | integer u =>
      cases u with
      | uint8 => rfl
      | int8 => rfl
      | uint16 => rfl
      | int16 => rfl
      | uint32 => exact absurd (h ⟨16777217, by decide⟩) Format.not_single_has
      | int32 => exact absurd (h ⟨16777217, by decide⟩) Format.not_single_has
    | float32 => rfl
    | float64 =>
      obtain ⟨x, hx⟩ := Format.double_has_int (n := 16777217) (by decide)
      have hsingle : Format.single.Has (x : Double).exact := h x
      rw [hx] at hsingle
      exact absurd hsingle Format.not_single_has
  | float64 => rfl

end SampleType

/-! ## The conversions -/

namespace SampleType

/-- A fill is written without loss exactly if the type holds it. -/
theorem exact_ofDouble_fill_iff {t : SampleType} {fill : Fill} :
    t.exact (t.ofDouble fill.toDouble) = fill.exact ↔ t.holds fill = true :=
  ⟨fun h => holds_iff_has.2 ⟨_, h⟩, exact_ofDouble_fill⟩

theorem exact_injective_integer {t : IntegerType} {v w : (integer t).Value}
    (h : (integer t).exact v = (integer t).exact w) : v = w := by
  apply Subtype.ext
  simpa [exact] using h

/-- A sample that goes to a type that contains its own comes back as it was,
a negative zero included. -/
theorem ofDouble_ofDouble {t u : SampleType} (h : t.contains u = true) (v : u.Value) :
    u.ofDouble (t.toDouble (t.ofDouble (u.toDouble v))) = v := by
  have hwide : (u.toDouble v).exact = u.exact v := exact_toDouble u v
  cases u with
  | integer u =>
    have hthere : (t.toDouble (t.ofDouble ((integer u).toDouble v))).exact =
        (integer u).exact v := by
      rw [exact_toDouble, exact_ofDouble (hwide ▸ has_of_contains h v), hwide]
    exact exact_injective_integer ((exact_ofDouble ⟨v, hthere.symm⟩).trans hthere)
  | float32 =>
    have hsame : Binary.convert .single (Binary.convert .double v) = v :=
      Binary.convert_convert (Format.Has.double_of_single ⟨v, rfl⟩)
    cases t with
    | integer t => cases h
    | float32 =>
      show Binary.convert .single (Binary.convert .double
        (Binary.convert .single (Binary.convert .double v))) = v
      rw [hsame, hsame]
    | float64 => exact hsame
  | float64 =>
    cases t with
    | integer t => cases h
    | float32 => cases h
    | float64 => rfl

end SampleType

namespace Samples

theorem cast_cast {samples : Samples} {t : SampleType} (h : t.contains samples.type = true) :
    (samples.cast t).cast samples.type = samples := by
  by_cases hsame : samples.type = t
  · simp [cast, hsame]
  have hthere : samples.cast t = ofDoubles t samples.toDoubles := if_neg hsame
  have hback : (ofDoubles t samples.toDoubles).cast samples.type =
      ofDoubles samples.type (ofDoubles t samples.toDoubles).toDoubles :=
    if_neg (Ne.symm hsame)
  rw [hthere, hback]
  simp only [ofDoubles, toDoubles, List.map_map]
  have hvalues : samples.values.map
      (samples.type.ofDouble ∘ t.toDouble ∘ t.ofDouble ∘ samples.type.toDouble) =
        samples.values := by
    conv_rhs => rw [← List.map_id samples.values]
    apply List.map_congr_left
    intro v _
    exact SampleType.ofDouble_ofDouble h v
  exact congrArg (Samples.mk samples.type) hvalues

/-- A type that keeps every sequence of another type contains it. -/
theorem contains_of_exacts_cast {t u : SampleType}
    (h : ∀ samples : Samples, samples.type = u → (samples.cast t).exacts = samples.exacts) :
    t.contains u = true := by
  rw [SampleType.contains_iff_has]
  intro v
  by_cases hsame : u = t
  · subst hsame
    exact ⟨v, rfl⟩
  have hcast : (Samples.mk u [v]).cast t = ofDoubles t [u.toDouble v] := if_neg hsame
  have hexacts := h ⟨u, [v]⟩ rfl
  rw [hcast] at hexacts
  exact ⟨t.ofDouble (u.toDouble v), List.head_eq_of_cons_eq hexacts⟩

/-! ## The law -/

/-- The tests are exact. A type contains another one just when casting to it
keeps the number of every sample, and then the way back gives the samples
themselves. A type holds a fill just when a sample written from the fill is
read back as that number. -/
theorem the_tests_accept_just_what_conversions_keep (t u : SampleType) (fill : Fill) :
    (t.contains u = true ↔
      ∀ samples : Samples, samples.type = u → (samples.cast t).exacts = samples.exacts) ∧
    (t.contains u = true →
      ∀ samples : Samples, samples.type = u → (samples.cast t).cast u = samples) ∧
    (t.holds fill = true ↔
      ((ofDoubles t [fill.toDouble]).get? 0).map Binary.exact = some fill.exact) := by
  refine ⟨⟨?_, contains_of_exacts_cast⟩, ?_, ?_⟩
  · rintro h samples rfl
    exact exacts_cast h
  · rintro h samples rfl
    exact cast_cast h
  · have hread : ((ofDoubles t [fill.toDouble]).get? 0).map Binary.exact =
        some (t.exact (t.ofDouble fill.toDouble)) :=
      congrArg some (SampleType.exact_toDouble t _)
    rw [hread, Option.some.injEq, SampleType.exact_ofDouble_fill_iff]

end Samples

end SceneMask
