-- The laws of sample types: each type is a part of double precision, a
-- type that contains another one keeps its values, and a type that holds
-- a fill stores just that number.
import Mathlib
import SceneMask.Proofs.ExactNumbers
import SceneMask.Samples

namespace SceneMask

/-! ## Values of a type -/

namespace SampleType

/-- The number that a sample is. -/
def exact : (t : SampleType) → t.Value → Exact
  | integer _, n => .number n.val
  | float32, x => Binary.exact x
  | float64, x => Binary.exact x

/-- The type has the number, without rounding. -/
def Has (t : SampleType) (x : Exact) : Prop := ∃ v : t.Value, t.exact v = x

end SampleType

theorem IntegerType.natAbs_lt_of_holds {t : IntegerType} {n : Int} (h : t.Holds n) :
    n.natAbs < 2 ^ 53 := by
  unfold Holds at h
  cases t <;> simp only [least, greatest] at h <;> omega

theorem IntegerType.has_int {t : IntegerType} {n : Int} (h : t.Holds n) :
    Format.double.Has (.number n) :=
  Format.double_has_int (natAbs_lt_of_holds h)

theorem Binary.clampInt_of_exact {f : Format} {x : Binary f} {least greatest n : Int}
    (hx : x.exact = .number n) (hlow : least ≤ n) (hhigh : n ≤ greatest) :
    x.clampInt least greatest = n := by
  obtain ⟨hwhole, htrunc⟩ := exact_eq_int_iff.1 hx
  cases x with
  | nan => simp [isWhole, isFinite] at hwhole
  | infinite negative => simp [isWhole, isFinite] at hwhole
  | finite negative rank =>
    simp only [clampInt, htrunc]
    omega

namespace SampleType

theorem Has.double {t : SampleType} {x : Exact} (h : t.Has x) : Format.double.Has x := by
  obtain ⟨v, rfl⟩ := h
  cases t with
  | integer t => exact IntegerType.has_int v.property
  | float32 => exact Format.Has.double_of_single ⟨v, rfl⟩
  | float64 => exact ⟨v, rfl⟩

/-- Double precision loses no sample of any type. -/
theorem exact_toDouble (t : SampleType) (v : t.Value) : (t.toDouble v).exact = t.exact v := by
  have hv : t.Has (t.exact v) := ⟨v, rfl⟩
  cases t with
  | integer t => exact Binary.exact_ofInt hv.double
  | float32 => exact Binary.exact_convert hv.double
  | float64 => rfl

/-- A double that is a number of the type becomes that number in it. -/
theorem exact_ofDouble {t : SampleType} {x : Double} (h : t.Has x.exact) :
    t.exact (t.ofDouble x) = x.exact := by
  cases t with
  | integer t =>
    obtain ⟨n, hn⟩ := h
    have hx : x.exact = .number (n.val : Int) := hn.symm
    obtain ⟨hlow, hhigh⟩ := n.property
    have hclamp := Binary.clampInt_of_exact hx hlow hhigh
    simp only [exact, ofDouble, hclamp, hx]
  | float32 => exact Binary.exact_convert h
  | float64 => rfl

/-! ## Types and fills that are held -/

theorem has_of_contains {t u : SampleType} (h : t.contains u = true) (v : u.Value) :
    t.Has (u.exact v) := by
  cases t with
  | integer t =>
    cases u with
    | integer u =>
      simp only [contains, Bool.and_eq_true, decide_eq_true_eq] at h
      obtain ⟨hlow, hhigh⟩ := v.property
      exact ⟨⟨v.val, by omega, by omega⟩, rfl⟩
    | float32 => simp [contains] at h
    | float64 => simp [contains] at h
  | float32 =>
    cases u with
    | integer u =>
      refine Format.single_has_int ?_
      obtain ⟨hlow, hhigh⟩ := v.property
      cases u <;> simp only [contains, IntegerType.least, IntegerType.greatest] at * <;>
        first | omega | contradiction
    | float32 => exact ⟨v, rfl⟩
    | float64 => simp [contains] at h
  | float64 => exact Has.double ⟨v, rfl⟩

end SampleType

namespace Fill

/-- The number that a fill is. -/
def exact : Fill → Exact
  | int n => .number n.toInt
  | float x => x.exact

theorem exact_toDouble {fill : Fill} (h : Format.double.Has fill.exact) :
    fill.toDouble.exact = fill.exact := by
  cases fill with
  | int n => exact Binary.exact_ofInt h
  | float x => rfl

end Fill

namespace SampleType

theorem has_of_holds {t : SampleType} {fill : Fill} (h : t.holds fill = true) :
    t.Has fill.exact := by
  cases t with
  | integer t =>
    cases fill with
    | int n => exact ⟨⟨n.toInt, by simpa [holds] using h⟩, rfl⟩
    | float x =>
      simp only [holds, Bool.and_eq_true, decide_eq_true_eq] at h
      exact ⟨⟨x.truncate, h.2⟩, (Binary.exact_eq_int_iff.2 ⟨h.1, rfl⟩).symm⟩
  | float32 =>
    cases fill with
    | int n => exact (Binary.has_int_iff (by decide)).2 (by simpa [holds] using h)
    | float x =>
      simp only [holds, Bool.or_eq_true, Bool.not_eq_true'] at h
      cases x with
      | nan => exact ⟨.nan, rfl⟩
      | infinite negative => exact ⟨.infinite negative, rfl⟩
      | finite negative rank =>
        have heqv := h.resolve_left (by simp [Binary.isFinite])
        have hback := ((Binary.eqv_iff (f := .double) (by decide)).1 heqv).1
        have hwide := exact_toDouble float32 ((Binary.finite negative rank).convert .single)
        exact ⟨_, hwide.symm.trans hback⟩
  | float64 =>
    cases fill with
    | int n => exact (Binary.has_int_iff (by decide)).2 (by simpa [holds] using h)
    | float x => exact ⟨x, rfl⟩

/-- A type that holds a fill writes just that number. -/
theorem exact_ofDouble_fill {t : SampleType} {fill : Fill} (h : t.holds fill = true) :
    t.exact (t.ofDouble fill.toDouble) = fill.exact := by
  have hhas := has_of_holds h
  have hdouble := Fill.exact_toDouble hhas.double
  rw [← hdouble]
  exact exact_ofDouble (hdouble ▸ hhas)

end SampleType

/-! ## Sequences of samples -/

namespace Samples

/-- The numbers that the samples are. -/
def exacts (samples : Samples) : List Exact := samples.values.map samples.type.exact

@[simp] theorem length_exacts (samples : Samples) : samples.exacts.length = samples.size := by
  simp [exacts, size]

@[simp] theorem length_toDoubles (samples : Samples) : samples.toDoubles.length = samples.size := by
  simp [toDoubles, size]

@[simp] theorem getElem?_toDoubles (samples : Samples) (i : Nat) :
    samples.toDoubles[i]? = samples.get? i := by
  simp [toDoubles, get?]

theorem exists_get? {samples : Samples} {i : Nat} (h : i < samples.size) :
    ∃ x, samples.get? i = some x := by
  unfold size at h
  simp [get?, List.getElem?_eq_getElem h]

theorem map_exact_toDoubles (samples : Samples) :
    samples.toDoubles.map Binary.exact = samples.exacts := by
  simp [toDoubles, exacts, SampleType.exact_toDouble]

theorem exacts_slice (samples : Samples) (start stop : Nat) :
    (samples.slice start stop).exacts = (samples.exacts.take stop).drop start := by
  simp [slice, exacts]

/-- A cast to a type with all the values loses nothing. -/
theorem exacts_cast {samples : Samples} {t : SampleType} (h : t.contains samples.type = true) :
    (samples.cast t).exacts = samples.exacts := by
  unfold cast
  split
  · rfl
  · simp only [exacts, ofDoubles, toDoubles, List.map_map]
    apply List.map_congr_left
    intro v _
    have hv := SampleType.exact_toDouble samples.type v
    have hhas := SampleType.has_of_contains h v
    rw [← hv] at hhas
    exact (SampleType.exact_ofDouble hhas).trans hv

/-- A sample of a cast depends on nothing but the sample at its place. -/
theorem get?_cast (samples : Samples) (t : SampleType) (i : Nat) :
    (samples.cast t).get? i = (samples.get? i).map fun x =>
      if samples.type = t then x else t.toDouble (t.ofDouble x) := by
  by_cases h : samples.type = t
  · simp [cast, h]
  · have hcast : samples.cast t = ofDoubles t samples.toDoubles := if_neg h
    have hget : (ofDoubles t samples.toDoubles).get? i =
        (samples.toDoubles.map t.ofDouble)[i]?.map t.toDouble := rfl
    rw [hcast, hget, List.getElem?_map, getElem?_toDoubles]
    cases samples.get? i <;> simp [h]

theorem get?_slice (samples : Samples) (stop i : Nat) :
    (samples.slice 0 stop).get? i = if i < stop then samples.get? i else none := by
  have hget : (samples.slice 0 stop).get? i =
      (samples.values.take stop)[i]?.map samples.type.toDouble := rfl
  rw [hget, List.getElem?_take]
  split <;> rfl

@[simp] theorem type_cast (samples : Samples) (t : SampleType) : (samples.cast t).type = t := by
  unfold cast
  split
  · assumption
  · rfl

@[simp] theorem size_cast (samples : Samples) (t : SampleType) :
    (samples.cast t).size = samples.size := by
  unfold cast
  split
  · rfl
  · simp [ofDoubles, size, toDoubles]

end Samples

end SceneMask
