-- The law of the shape checks. Decoding ends for every crop, with a raster
-- or with a fault of compatibility. The same decoding in sizes of 64 bits,
-- which stops at a product that is no size and at a place without a sample,
-- always comes to its end.
import Mathlib
import SceneMask.Proofs.Decoding

namespace SceneMask

/-! ## Checked steps -/

namespace Samples

/-- The samples from `start` up to before `stop`, if all of them are there. -/
def slice? (samples : Samples) (start stop : Nat) : Option Samples :=
  if start ≤ stop ∧ stop ≤ samples.size then some (samples.slice start stop) else none

/-- The samples from `start` to the end, read one by one. -/
def scan? (samples : Samples) (start : Nat) : Option (List Double) :=
  (List.range' start (samples.size - start)).mapM samples.get?

theorem mapM_getElem?_range' {α : Type} {xs : List α} {start count : Nat}
    (h : start + count ≤ xs.length) :
    (List.range' start count).mapM (xs[·]?) = some ((xs.drop start).take count) := by
  induction count generalizing start with
  | zero => simp
  | succ count ih =>
    have hrest : (List.range' (start + 1) count).mapM (xs[·]?) =
        some ((xs.drop (start + 1)).take count) := ih (by omega)
    rw [List.range'_succ, List.mapM_cons, List.drop_eq_getElem_cons (by omega),
      List.take_succ_cons, List.getElem?_eq_getElem (by omega), hrest]
    rfl

theorem scan?_of_le {samples : Samples} {start : Nat} (h : start ≤ samples.size) :
    samples.scan? start = some (samples.toDoubles.drop start) := by
  have hlength : start + (samples.size - start) ≤ samples.toDoubles.length := by
    rw [length_toDoubles]
    omega
  have hread := mapM_getElem?_range' hlength
  simp only [getElem?_toDoubles] at hread
  unfold scan?
  rw [hread, List.take_of_length_le (by rw [List.length_drop, length_toDoubles])]

end Samples

namespace Crop

/-- A difference of sizes, if it is a size. -/
def difference? (a b : Nat) : Option Nat := if b ≤ a then some (a - b) else none

/-- Decoding with every step checked. -/
def decode? (crop : Crop) (declared : Option Fill) : Option (Except Fault Raster) :=
  match crop.shape with
  | [bands, height, width] =>
    if ((product? bands height).bind fun n => product? n width) ≠ some crop.samples.size then
      some (.error (.shapeMismatch crop.shape crop.samples.size))
    else if bands < 2 then some (.error (.tooFewBands bands))
    else do
      let plane ← product? height width
      let count ← difference? bands 1
      let split ← product? count plane
      let alpha ← crop.samples.scan? split
      let data ← crop.samples.slice? 0 split
      let fill := declared.getD .undeclared
      return (crop.samples.type.promote fill).map fun type => {
        samples := data.cast type
        outside := alpha.map fun a => a.eqv (.zero false)
        count
        height
        width
        fill
        bandNames := none }
  | shape => some (.error (.wrongRank shape.length))

/-! ## Shapes that fit -/

/-- With at least two bands, the alpha band and the data bands share all
samples, so the sizes of both are sizes of 64 bits. -/
theorem ShapeFits.split {crop : Crop} {bands height width : Nat}
    (h : crop.ShapeFits bands height width) (hbands : 2 ≤ bands) :
    (bands - 1) * (height * width) + height * width = crop.samples.size ∧
      crop.samples.size < 2 ^ 64 := by
  obtain ⟨-, hlt, hsize⟩ := shapeFits_iff_products.1 h
  refine ⟨?_, hsize ▸ hlt⟩
  obtain ⟨n, rfl⟩ : ∃ n, bands = n + 1 := ⟨bands - 1, by omega⟩
  rw [← hsize, Nat.add_sub_cancel]
  ring

theorem decode?_of_fits {crop : Crop} {bands height width : Nat} (declared : Option Fill)
    (hshape : crop.shape = [bands, height, width]) (hfits : crop.ShapeFits bands height width)
    (hbands : 2 ≤ bands) :
    crop.decode? declared = some
      ((crop.samples.type.promote (declared.getD .undeclared)).map
        (crop.raster declared bands height width)) := by
  obtain ⟨hsplit, hlt⟩ := hfits.split hbands
  have hplane : product? height width = some (height * width) := product?_of_lt (by omega)
  have hcount : difference? bands 1 = some (bands - 1) := if_pos (by omega)
  have hdata : product? (bands - 1) (height * width) = some ((bands - 1) * (height * width)) :=
    product?_of_lt (by omega)
  have hscan : crop.samples.scan? ((bands - 1) * (height * width)) =
      some (crop.samples.toDoubles.drop ((bands - 1) * (height * width))) :=
    Samples.scan?_of_le (by omega)
  have hslice : crop.samples.slice? 0 ((bands - 1) * (height * width)) =
      some (crop.samples.slice 0 ((bands - 1) * (height * width))) :=
    if_pos ⟨Nat.zero_le _, by omega⟩
  have hfew : ¬ bands < 2 := by omega
  unfold ShapeFits at hfits
  unfold decode?
  simp only [hshape, hfits, hfew, hplane, hcount, hdata, hscan, hslice, ne_eq, not_true, if_false,
    bind, Option.bind_some]
  rfl

/-- No check of a step ever fails. -/
theorem decode?_eq_some (crop : Crop) (declared : Option Fill) :
    crop.decode? declared = some (crop.decode declared) := by
  rcases hshape : crop.shape with _ | ⟨bands, _ | ⟨height, _ | ⟨width, _ | ⟨extra, rest⟩⟩⟩⟩
  case cons.cons.cons.nil =>
    by_cases hfits : crop.ShapeFits bands height width
    · by_cases hbands : 2 ≤ bands
      · rw [decode?_of_fits declared hshape hfits hbands,
          decode_of_fits declared hshape hfits hbands]
      · unfold ShapeFits at hfits
        simp [decode?, decode, hshape, hfits, Nat.not_le.1 hbands]
    · unfold ShapeFits at hfits
      simp [decode?, decode, hshape, hfits]
  -- every other shape is refused before any step
  all_goals simp [decode?, decode, hshape]

/-! ## The law -/

theorem exists_decode_iff {crop : Crop} {declared : Option Fill} :
    (∃ raster, crop.decode declared = .ok raster) ↔
      ∃ bands height width, crop.shape = [bands, height, width] ∧
        crop.ShapeFits bands height width ∧ 2 ≤ bands ∧
        SampleType.float64.holds (declared.getD .undeclared) = true := by
  simp only [decode_eq_ok_iff, ← SampleType.exists_promote_iff crop.samples.type]
  constructor
  · rintro ⟨raster, bands, height, width, type, hshape, hfits, hbands, hpromote, -⟩
    exact ⟨bands, height, width, hshape, hfits, hbands, type, hpromote⟩
  · rintro ⟨bands, height, width, hshape, hfits, hbands, type, hpromote⟩
    exact ⟨_, bands, height, width, type, hshape, hfits, hbands, hpromote, rfl⟩

/-- All faults of decoding are faults of compatibility. -/
theorem decode_eq_error {crop : Crop} {declared : Option Fill} {fault : Fault}
    (h : crop.decode declared = .error fault) : ∃ reason, fault = .typeCompatibility reason := by
  rcases crop.decode_cases declared with
    ⟨bands, height, width, hshape, hfits, hbands⟩ | ⟨reason, herror⟩
  · rw [decode_of_fits declared hshape hfits hbands] at h
    rcases hpromote : crop.samples.type.promote (declared.getD .undeclared) with cause | type
    · rw [hpromote] at h
      cases h
      obtain ⟨rfl, -⟩ := SampleType.promote_eq_error_iff.1 hpromote
      exact ⟨_, rfl⟩
    · rw [hpromote] at h
      cases h
  · rw [herror] at h
    cases h
    exact ⟨reason, rfl⟩

/-- Decoding is total. It succeeds exactly for three sizes whose products
are sizes of 64 bits and count the samples, with at least two bands and a
fill that is a double, and it fails with nothing but a fault of
compatibility. With every product, difference, scan and slice checked it is
the same decoding, so none of them leaves the sizes or the samples. -/
theorem decoding_is_total_and_stays_in_bounds (crop : Crop) (declared : Option Fill) :
    ((∃ raster, crop.decode declared = .ok raster) ↔
      ∃ bands height width, crop.shape = [bands, height, width] ∧
        bands * height < 2 ^ 64 ∧ bands * height * width < 2 ^ 64 ∧
        bands * height * width = crop.samples.size ∧ 2 ≤ bands ∧
        SampleType.float64.holds (declared.getD (.int 0)) = true) ∧
    (∀ fault, crop.decode declared = .error fault → ∃ reason, fault = .typeCompatibility reason) ∧
    crop.decode? declared = some (crop.decode declared) := by
  refine ⟨?_, fun fault h => decode_eq_error h, decode?_eq_some crop declared⟩
  rw [exists_decode_iff]
  simp only [shapeFits_iff_products, and_assoc]
  rfl

/-- A height of zero makes the product of the sizes fit whatever the width
is, and then there is still no plane that overflows. -/
example : (⟨⟨.float64, []⟩, [2, 0, 0xFFFFFFFFFFFFFFFF]⟩ : Crop).decode? none =
    some ((⟨⟨.float64, []⟩, [2, 0, 0xFFFFFFFFFFFFFFFF]⟩ : Crop).decode none) := by decide +kernel

end Crop

end SceneMask
