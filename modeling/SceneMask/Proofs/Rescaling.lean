-- The laws of rescaling. A band on its range is made of the visible samples
-- of the band alone, those inside the feature, and it stands in the result
-- at its own place. So neither masked samples nor other bands have any
-- influence on it.
import Mathlib
import SceneMask.Proofs.AccountCounts
import SceneMask.Rescale

namespace SceneMask

/-! ## Visible samples -/

namespace Raster

/-- The samples of a band as its mask shows them. -/
def visible (raster : Raster) (band : Nat) : List (Option Double) :=
  ((raster.bandValues band).zip (raster.bandMask band)).map fun (sample, masked) =>
    if masked then none else some sample

end Raster

namespace Range

/-- The visible samples of a band on the range. -/
def stretch (range : Range) (samples : List (Option Double)) : List Double :=
  let (least, greatest) := Raster.extremes samples.reduceOption
  samples.map fun sample => range.place least (greatest - least) (sample.getD .nan) sample.isNone

/-- The place of a masked sample does not depend on the sample. -/
theorem place_masked (range : Range) (least span sample other : Double) :
    range.place least span sample true = range.place least span other true := by
  simp [place]

@[simp] theorem length_stretch (range : Range) (samples : List (Option Double)) :
    (range.stretch samples).length = samples.length := by
  simp [stretch]

theorem getElem?_stretch (range : Range) (samples : List (Option Double)) (i : Nat) :
    (range.stretch samples)[i]? = samples[i]?.map fun sample =>
      range.place (Raster.extremes samples.reduceOption).1
        ((Raster.extremes samples.reduceOption).2 - (Raster.extremes samples.reduceOption).1)
        (sample.getD .nan) sample.isNone := by
  simp [stretch]

end Range

namespace Raster

variable {raster : Raster} {band : Nat}

theorem reduceOption_visible (raster : Raster) (band : Nat) :
    (raster.visible band).reduceOption = raster.insideSamples band := by
  unfold visible insideSamples samplesWhere
  induction (raster.bandValues band).zip (raster.bandMask band) with
  | nil => rfl
  | cons pixel rest ih =>
    obtain ⟨sample, masked⟩ := pixel
    cases masked with
    | false => simpa using ih
    | true => simpa using ih

theorem rescaleBand_eq_stretch (raster : Raster) (range : Range) (band : Nat) :
    raster.rescaleBand range band = range.stretch (raster.visible band) := by
  have hinside : (((raster.bandValues band).zip (raster.bandMask band)).filter
      fun pixel => !pixel.2).map Prod.fst = raster.insideSamples band := by
    unfold insideSamples samplesWhere
    congr 2
    funext pixel
    cases pixel.2 <;> rfl
  simp only [rescaleBand, Range.stretch, hinside, reduceOption_visible]
  rw [visible, List.map_map]
  apply List.map_congr_left
  rintro ⟨sample, masked⟩ -
  cases masked with
  | false => rfl
  | true => exact range.place_masked _ _ _ _

theorem length_visible (h : raster.Sized) (hband : band < raster.count) :
    (raster.visible band).length = raster.plane := by
  simp [visible, length_bandMask h hband, length_bandValues h hband]

theorem getElem?_bandValues (raster : Raster) (band : Nat) {pixel : Nat}
    (hpixel : pixel < raster.plane) :
    (raster.bandValues band)[pixel]? = raster.samples.get? (band * raster.plane + pixel) := by
  rw [bandValues, List.getElem?_take, if_pos hpixel, List.getElem?_drop,
    Samples.getElem?_toDoubles]

theorem getElem?_bandMask (h : raster.Sized) (hband : band < raster.count) {pixel : Nat}
    (hpixel : pixel < raster.plane) :
    (raster.bandMask band)[pixel]? = raster.mask[band * raster.plane + pixel]? := by
  rw [← slice_mask h hband, List.getElem?_take, if_pos hpixel, List.getElem?_drop]

/-- What is visible of a pixel is read off the samples and the mask at one
place. -/
theorem exists_getElem?_visible (h : raster.Sized) (hband : band < raster.count) {pixel : Nat}
    (hpixel : pixel < raster.plane) :
    ∃ sample masked, raster.samples.get? (band * raster.plane + pixel) = some sample ∧
      raster.mask[band * raster.plane + pixel]? = some masked ∧
      (raster.visible band)[pixel]? = some (if masked then none else some sample) := by
  have hplace := pixel_lt hband hpixel
  have hmask := hplace
  rw [← length_mask h] at hmask
  obtain ⟨sample, hsample⟩ := Samples.exists_get? (h.samples_size ▸ hplace)
  obtain ⟨masked, hmasked⟩ : ∃ masked, raster.mask[band * raster.plane + pixel]? = some masked :=
    ⟨_, List.getElem?_eq_getElem hmask⟩
  have hpair : ((raster.bandValues band).zip (raster.bandMask band))[pixel]? =
      some (sample, masked) := by
    rw [List.getElem?_zip_eq_some, getElem?_bandValues raster band hpixel,
      getElem?_bandMask h hband hpixel]
    exact ⟨hsample, hmasked⟩
  refine ⟨sample, masked, hsample, hmasked, ?_⟩
  rw [visible, List.getElem?_map, hpair]
  rfl

end Raster

/-! ## Bands of the result -/

/-- A number as a sample of the type. Integer samples are rounded. -/
def SampleType.settle (type : SampleType) (x : Double) : type.Value :=
  type.ofDouble (if type.isInteger then x.roundAway else x)

namespace Raster

variable {raster : Raster}

/-- One band on its range, as samples of a type. -/
def settledBand (raster : Raster) (type : SampleType) (range : Range) (band : Nat) :
    List type.Value :=
  (raster.rescaleBand range band).map type.settle

theorem rescale_of_length {ranges : List Range} (h : ranges.length = raster.count)
    (type : SampleType) :
    raster.rescale ranges type = .ok ⟨type,
      (ranges.zipIdx.map fun (range, band) => raster.settledBand type range band).flatten⟩ := by
  unfold rescale
  rw [if_neg (not_not.2 h)]
  unfold settledBand Samples.ofDoubles SampleType.settle
  rw [← List.flatMap_def]
  cases type.isInteger with
  | false => simp [List.map_flatMap]
  | true => simp [List.map_flatMap, Function.comp_def]

theorem rescale_of_other_length {ranges : List Range} (h : ranges.length ≠ raster.count)
    (type : SampleType) :
    raster.rescale ranges type = .error (.rangeCount ranges.length raster.count) := if_pos h

theorem length_settledBand (h : raster.Sized) (type : SampleType) (range : Range) {band : Nat}
    (hband : band < raster.count) :
    (raster.settledBand type range band).length = raster.plane := by
  rw [settledBand, List.length_map, rescaleBand_eq_stretch, Range.length_stretch,
    length_visible h hband]

/-- All bands of the result are as long as a plane. -/
theorem length_of_mem_settled (h : raster.Sized) {ranges : List Range}
    (hranges : ranges.length = raster.count) (type : SampleType) :
    ∀ block ∈ ranges.zipIdx.map fun (range, band) => raster.settledBand type range band,
      block.length = raster.plane := by
  intro block hblock
  obtain ⟨⟨range, band⟩, hmem, rfl⟩ := List.mem_map.1 hblock
  have hband := (List.mem_zipIdx hmem).2.1
  apply length_settledBand h
  omega

theorem size_rescale (h : raster.Sized) {ranges : List Range}
    (hranges : ranges.length = raster.count) {type : SampleType} {result : Samples}
    (hresult : raster.rescale ranges type = .ok result) :
    result.type = type ∧ result.size = raster.count * raster.plane := by
  rw [rescale_of_length hranges] at hresult
  cases hresult
  refine ⟨rfl, ?_⟩
  rw [Samples.size, List.length_flatten,
    List.map_eq_replicate_iff.2 (length_of_mem_settled h hranges type)]
  simp [hranges]

/-- A band of the result stands at its own place. -/
theorem slice_rescale (h : raster.Sized) {ranges : List Range}
    (hranges : ranges.length = raster.count) {type : SampleType} {result : Samples}
    (hresult : raster.rescale ranges type = .ok result) {band : Nat} {range : Range}
    (hrange : ranges[band]? = some range) :
    result.slice (band * raster.plane) ((band + 1) * raster.plane) =
      ⟨type, raster.settledBand type range band⟩ := by
  rw [rescale_of_length hranges] at hresult
  cases hresult
  have hblock : (ranges.zipIdx.map fun (range, band) => raster.settledBand type range band)[band]?
      = some (raster.settledBand type range band) := by
    simp [List.getElem?_map, List.getElem?_zipIdx, hrange]
  have hslice := slice_flatten_of_length (length_of_mem_settled h hranges type) hblock
  have hlength : (band + 1) * raster.plane - band * raster.plane = raster.plane := by
    rw [Nat.succ_mul]
    omega
  unfold Samples.slice
  rw [List.drop_take, hlength, hslice]

theorem getElem?_exacts_rescale (h : raster.Sized) {ranges : List Range}
    (hranges : ranges.length = raster.count) {type : SampleType} {result : Samples}
    (hresult : raster.rescale ranges type = .ok result) {band : Nat} {range : Range}
    (hrange : ranges[band]? = some range) {pixel : Nat} (hpixel : pixel < raster.plane) :
    result.exacts[band * raster.plane + pixel]? =
      (raster.settledBand type range band)[pixel]?.map type.exact := by
  have hslice := congrArg Samples.exacts (slice_rescale h hranges hresult hrange)
  have hstop : band * raster.plane + pixel < (band + 1) * raster.plane := by
    rw [Nat.succ_mul]
    omega
  rw [Samples.exacts_slice] at hslice
  rw [← List.getElem?_map, ← List.getElem?_take_of_lt hstop, ← List.getElem?_drop, hslice]
  rfl

/-! ## Samples without influence -/

/-- The other raster has the same sizes and the same mask, and the same
samples of one band in all pixels inside the feature. -/
structure AgreesInBand (raster other : Raster) (band : Nat) : Prop where
  count : other.count = raster.count
  height : other.height = raster.height
  width : other.width = raster.width
  mask : other.mask = raster.mask
  inside : ∀ i, band * raster.plane ≤ i → i < (band + 1) * raster.plane →
    raster.mask[i]? = some false → other.samples.get? i = raster.samples.get? i

theorem AgreesInBand.plane {other : Raster} {band : Nat} (h : raster.AgreesInBand other band) :
    other.plane = raster.plane := by
  unfold Raster.plane
  rw [h.height, h.width]

/-- Where no mask is both rasters have the same sample, and elsewhere none is
visible. -/
theorem AgreesInBand.visible {other : Raster} {band : Nat} (h : raster.AgreesInBand other band)
    (hsized : raster.Sized) (hother : other.Sized) (hband : band < raster.count) :
    other.visible band = raster.visible band := by
  have hband' : band < other.count := by rwa [h.count]
  have hlength := length_visible hsized hband
  have hlength' := length_visible hother hband'
  rw [h.plane] at hlength'
  apply List.ext_getElem?
  intro pixel
  by_cases hpixel : pixel < raster.plane
  · have hpixel' : pixel < other.plane := by rwa [h.plane]
    obtain ⟨sample, masked, hsample, hmasked, hvisible⟩ :=
      exists_getElem?_visible hsized hband hpixel
    obtain ⟨sample', masked', hsample', hmasked', hvisible'⟩ :=
      exists_getElem?_visible hother hband' hpixel'
    rw [h.mask, h.plane, hmasked, Option.some.injEq] at hmasked'
    subst hmasked'
    rw [hvisible, hvisible']
    cases masked with
    | true => rfl -- the samples may differ here, but neither of them is visible
    | false =>
      have hend : band * raster.plane + pixel < (band + 1) * raster.plane := by
        rw [Nat.succ_mul]
        omega
      have hsame := h.inside _ (Nat.le_add_right _ _) hend hmasked
      rw [h.plane, hsame, hsample] at hsample'
      simpa using hsample'.symm
  · rw [List.getElem?_eq_none (by omega), List.getElem?_eq_none (by omega)]

theorem AgreesInBand.settledBand {other : Raster} {band : Nat} (h : raster.AgreesInBand other band)
    (hsized : raster.Sized) (hother : other.Sized) (hband : band < raster.count)
    (type : SampleType) (range : Range) :
    other.settledBand type range band = raster.settledBand type range band := by
  unfold Raster.settledBand
  rw [rescaleBand_eq_stretch, rescaleBand_eq_stretch, h.visible hsized hother hband]

theorem rescale_eq_error_iff {ranges : List Range} {type : SampleType} {fault : Fault} :
    raster.rescale ranges type = .error fault ↔
      ranges.length ≠ raster.count ∧ fault = .rangeCount ranges.length raster.count := by
  by_cases hlength : ranges.length = raster.count
  · rw [rescale_of_length hlength]
    simp [hlength]
  · rw [rescale_of_other_length hlength]
    simp [hlength, eq_comm]

end Raster

/-! ## The law -/

namespace Crop

/-- Rescaling is refused just if there is not one range for each band, and
the fault names the ranges. Otherwise the result is of the type and has one
sample for each of the raster. A band of it depends on nothing but its own
range and its own samples inside the feature: with other samples outside,
other bands and other ranges for these, it is the same in every place. -/
theorem nothing_else_reaches_a_rescaled_band {crop : Crop} {declared : Option Fill}
    {raster : Raster} (h : crop.decode declared = .ok raster) (ranges : List Range)
    (type : SampleType) :
    ((∃ fault, raster.rescale ranges type = .error fault) ↔ ranges.length ≠ raster.count) ∧
      (∀ fault, raster.rescale ranges type = .error fault →
        ∃ reason, fault = .configuration "rescale" reason) ∧
      (∀ result, raster.rescale ranges type = .ok result → result.type = type ∧
        result.size = raster.count * (raster.height * raster.width)) ∧
      ∀ (crop' : Crop) (declared' : Option Fill) (other : Raster),
        crop'.decode declared' = .ok other → ∀ band < raster.count,
          raster.AgreesInBand other band → ∀ ranges' : List Range,
          ranges.length = raster.count → ranges'.length = raster.count →
          ranges'[band]? = ranges[band]? →
          ∃ result result', raster.rescale ranges type = .ok result ∧
            other.rescale ranges' type = .ok result' ∧
            result'.slice (band * raster.plane) ((band + 1) * raster.plane) =
              result.slice (band * raster.plane) ((band + 1) * raster.plane) := by
  have hsized := decode_sized h
  simp only [Raster.rescale_eq_error_iff]
  refine ⟨?_, ?_, ?_, ?_⟩
  · simp
  · rintro fault ⟨-, rfl⟩
    exact ⟨_, rfl⟩
  · intro result hresult
    apply Raster.size_rescale hsized _ hresult
    by_contra hlength
    rw [Raster.rescale_of_other_length hlength] at hresult
    cases hresult
  · intro crop' declared' other h' band hband hagrees ranges' hlength hlength' hrange
    have hother := decode_sized h'
    rw [← hagrees.count] at hlength'
    have hlt : band < ranges.length := by rwa [hlength]
    obtain ⟨range, hsome⟩ : ∃ range, ranges[band]? = some range :=
      ⟨_, List.getElem?_eq_getElem hlt⟩
    refine ⟨_, _, Raster.rescale_of_length hlength type, Raster.rescale_of_length hlength' type, ?_⟩
    have hslice := Raster.slice_rescale hsized hlength (Raster.rescale_of_length hlength type) hsome
    have hslice' := Raster.slice_rescale hother hlength' (Raster.rescale_of_length hlength' type)
      (hrange.trans hsome)
    rw [hagrees.plane] at hslice'
    rw [hslice, hslice', hagrees.settledBand hsized hother hband]

/-- Two bands of three pixels in one row, the last one outside the feature. -/
def twoRows (first second : List Nat) : Crop where
  samples := .ofDoubles (.integer .uint8) ((first ++ second ++ [255, 1, 0]).map .ofNat)
  shape := [3, 1, 3]

def twoRowsRaster (first second : List Nat) : Raster where
  samples := .ofDoubles (.integer .uint8) ((first ++ second).map .ofNat)
  outside := [false, false, true]
  count := 2
  height := 1
  width := 3
  fill := .int 0
  bandNames := none

theorem the_first_of_two_rows_keeps_its_place :
    (twoRows [10, 20, 99] [1, 2, 3]).decode none = .ok (twoRowsRaster [10, 20, 99] [1, 2, 3]) ∧
      (twoRows [10, 20, 0] [7, 7, 7]).decode none = .ok (twoRowsRaster [10, 20, 0] [7, 7, 7]) ∧
      ∃ result result',
        (twoRowsRaster [10, 20, 99] [1, 2, 3]).rescale [⟨.ofNat 0, .ofNat 255⟩,
          ⟨.ofNat 0, .ofNat 1⟩] .float64 = .ok result ∧
        (twoRowsRaster [10, 20, 0] [7, 7, 7]).rescale [⟨.ofNat 0, .ofNat 255⟩,
          ⟨.ofNat 5, .ofNat 6⟩] .float64 = .ok result' ∧
        result.size = 6 ∧ result'.slice 0 3 = result.slice 0 3 := by
  have hdecode : (twoRows [10, 20, 99] [1, 2, 3]).decode none =
      .ok (twoRowsRaster [10, 20, 99] [1, 2, 3]) := by decide +kernel
  have hdecode' : (twoRows [10, 20, 0] [7, 7, 7]).decode none =
      .ok (twoRowsRaster [10, 20, 0] [7, 7, 7]) := by decide +kernel
  have hagrees : (twoRowsRaster [10, 20, 99] [1, 2, 3]).AgreesInBand
      (twoRowsRaster [10, 20, 0] [7, 7, 7]) 0 := by
    refine ⟨by decide, by decide, by decide, by decide, ?_⟩
    decide +kernel
  obtain ⟨-, -, hsize, hslice⟩ := nothing_else_reaches_a_rescaled_band hdecode
    [⟨.ofNat 0, .ofNat 255⟩, ⟨.ofNat 0, .ofNat 1⟩] .float64
  obtain ⟨result, result', hresult, hresult', hsame⟩ := hslice _ none _ hdecode' 0 (by decide)
    hagrees [⟨.ofNat 0, .ofNat 255⟩, ⟨.ofNat 5, .ofNat 6⟩] (by decide) (by decide) (by simp)
  exact ⟨hdecode, hdecode', result, result', hresult, hresult', (hsize result hresult).2, hsame⟩

end Crop

end SceneMask
