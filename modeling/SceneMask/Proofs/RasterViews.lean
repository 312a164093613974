-- The views of a raster. Its mask and its samples are seen as a whole, band by
-- band and place by place, and all views show the same raster. Bands can be
-- named as often as one likes, with or without success, and only their names
-- change.
import Mathlib
import SceneMask.Proofs.BandAccounts
import SceneMask.Proofs.PixelPlaces
import SceneMask.Proofs.Rescaling
import SceneMask.Proofs.SafeDecoding

namespace SceneMask

namespace Raster

variable {raster : Raster}

/-! ## Well-formed rasters -/

/-- A raster has parts of the right sizes, a name for each band if it has any,
and no more samples than can be counted. -/
structure WellFormed (raster : Raster) : Prop extends raster.Sized where
  named : ∀ names ∈ raster.bandNames, names.length = raster.count
  countable : raster.count * raster.plane < 2 ^ 64

theorem wellFormed_of_decode {crop : Crop} {declared : Option Fill}
    (h : crop.decode declared = .ok raster) : raster.WellFormed := by
  obtain ⟨bands, height, width, type, -, hfits, hbands, -, rfl⟩ := Crop.decode_eq_ok_iff.1 h
  obtain ⟨hsplit, hlt⟩ := hfits.split hbands
  refine ⟨Crop.raster_sized declared type hfits hbands, nofun, ?_⟩
  show (bands - 1) * (height * width) < 2 ^ 64
  omega

/-! ## Names after names -/

/-- Names that are refused leave the raster as it is. -/
def tryNames (raster : Raster) (names : List String) : Raster :=
  (raster.nameBands names).toOption.getD raster

/-- Tries names in turn. -/
def tryAllNames (raster : Raster) (attempts : List (List String)) : Raster :=
  attempts.foldl tryNames raster

theorem tryNames_eq (raster : Raster) (names : List String) :
    raster.tryNames names =
      if names.length = raster.count then { raster with bandNames := some names } else raster := by
  unfold tryNames nameBands
  by_cases h : names.length = raster.count <;> simp [h, Except.toOption]

theorem WellFormed.tryNames (h : raster.WellFormed) (names : List String) :
    (raster.tryNames names).WellFormed := by
  rw [tryNames_eq]
  split
  · rename_i hlength
    refine ⟨⟨h.count_pos, h.outside_length, h.samples_size⟩, ?_, h.countable⟩
    rintro given ⟨⟩
    exact hlength
  · exact h

theorem WellFormed.tryAllNames (h : raster.WellFormed) (attempts : List (List String)) :
    (raster.tryAllNames attempts).WellFormed := by
  induction attempts generalizing raster with
  | nil => exact h
  | cons names rest ih => exact ih (h.tryNames names)

/-- Of all names that were tried the last fitting ones are there, and all else
is as before. -/
theorem tryAllNames_eq (raster : Raster) (attempts : List (List String)) :
    raster.tryAllNames attempts = { raster with
      bandNames := (attempts.reverse.find? fun names => names.length = raster.count).or
        raster.bandNames } := by
  induction attempts generalizing raster with
  | nil => rfl
  | cons names rest ih =>
    show (raster.tryNames names).tryAllNames rest = _
    rw [ih, tryNames_eq, List.reverse_cons, List.find?_append]
    by_cases h : names.length = raster.count <;> simp [h]

/-! ## Bands -/

theorem bandValues_of_beyond (h : raster.Sized) {band : Nat} (hband : raster.count ≤ band) :
    raster.bandValues band = [] := by
  have hstart : raster.samples.toDoubles.length ≤ band * raster.plane := by
    rw [Samples.length_toDoubles, h.samples_size]
    exact Nat.mul_le_mul_right _ hband
  rw [bandValues, List.drop_eq_nil_of_le hstart, List.take_nil]

theorem bandMask_of_beyond {band : Nat} (hband : raster.count ≤ band) :
    raster.bandMask band = [] := if_neg (Nat.not_lt.2 hband)

/-- The bands, one after the other, are all samples. -/
theorem flatMap_bandValues (h : raster.Sized) :
    (List.range raster.count).flatMap raster.bandValues = raster.samples.toDoubles := by
  unfold bandValues
  rw [flatMap_take_drop, ← h.samples_size, ← Samples.length_toDoubles, List.take_length]

/-- In a band there is a mask bit and a sample at every place of the plane. The
value at the place is the sample, unless the bit is set. -/
theorem exists_value? (h : raster.Sized) {band row column : Nat} (hband : band < raster.count)
    (hrow : row < raster.height) (hcolumn : column < raster.width) :
    ∃ masked sample,
      (raster.bandMask band)[row * raster.width + column]? = some masked ∧
      (raster.bandValues band)[row * raster.width + column]? = some sample ∧
      raster.value? band row column = if masked then none else some sample := by
  have hpixel : row * raster.width + column < raster.plane := pixel_lt hrow hcolumn
  have hmask : row * raster.width + column < (raster.bandMask band).length := by
    rwa [length_bandMask h hband]
  have hvalues : row * raster.width + column < (raster.bandValues band).length := by
    rwa [length_bandValues h hband]
  obtain ⟨masked, hmasked⟩ :
      ∃ masked, (raster.bandMask band)[row * raster.width + column]? = some masked :=
    ⟨_, List.getElem?_eq_getElem hmask⟩
  obtain ⟨sample, hsample⟩ :
      ∃ sample, (raster.bandValues band)[row * raster.width + column]? = some sample :=
    ⟨_, List.getElem?_eq_getElem hvalues⟩
  refine ⟨masked, sample, hmasked, hsample, ?_⟩
  rw [bandMask, if_pos hband] at hmasked
  rw [value?_of_inside hband hrow hcolumn hmasked, ← getElem?_bandValues raster band hpixel,
    hsample]

/-! ## Checked views -/

/-- A sum of sizes, if it is a size of 64 bits. -/
def sum? (a b : Nat) : Option Nat := if a + b < 2 ^ 64 then some (a + b) else none

/-- Where a band starts and stops in the samples of all bands, if these places
can be counted. -/
def bandRange? (raster : Raster) (band : Nat) : Option (Nat × Nat) := do
  let plane ← Crop.product? raster.height raster.width
  let start ← Crop.product? band plane
  let next ← sum? band 1
  let stop ← Crop.product? next plane
  return (start, stop)

/-- The mask of a band, cut out of the mask of all bands. There is none if the
mask ends before the band. -/
def bandMask? (raster : Raster) (band : Nat) : Option (List Bool) := do
  let (start, stop) ← raster.bandRange? band
  return if stop ≤ raster.mask.length then (raster.mask.take stop).drop start else []

/-- The samples at the places of a band, as far as there are any. -/
def bandValues? (raster : Raster) (band : Nat) : Option (List Double) := do
  let (start, stop) ← raster.bandRange? band
  return (List.range' start (stop - start)).filterMap raster.samples.get?

/-- The value at a place, found in the mask and the samples of all bands. The
mask has to have a bit for it. -/
def checkedValue? (raster : Raster) (band row column : Nat) : Option (Option Double) :=
  if band < raster.count ∧ row < raster.height ∧ column < raster.width then do
    let plane ← Crop.product? raster.height raster.width
    let start ← Crop.product? band plane
    let rows ← Crop.product? row raster.width
    let first ← sum? start rows
    let place ← sum? first column
    let masked ← raster.mask[place]?
    return if masked then none else raster.samples.get? place
  else some none

/-- The items at some places in a row, as far as there are any. -/
theorem filterMap_getElem?_range' {α : Type} (xs : List α) (start n : Nat) :
    (List.range' start n).filterMap (fun i => xs[i]?) = (xs.drop start).take n := by
  rw [List.range'_eq_map_range, List.filterMap_map, ← filterMap_getElem?_range]
  simp only [List.getElem?_drop, Function.comp_def]

theorem stop_sub_start (band plane : Nat) : (band + 1) * plane - band * plane = plane := by
  rw [Nat.succ_mul, Nat.add_sub_cancel_left]

theorem sum?_of_lt {a b : Nat} (h : a + b < 2 ^ 64) : sum? a b = some (a + b) := if_pos h

section Range

variable {band : Nat} (hband : band + 1 < 2 ^ 64) (hstop : (band + 1) * raster.plane < 2 ^ 64)

include hband hstop

theorem bandRange?_of_lt :
    raster.bandRange? band = some (band * raster.plane, (band + 1) * raster.plane) := by
  have hstart : band * raster.plane + raster.plane < 2 ^ 64 := by rwa [← Nat.succ_mul]
  have hplane : Crop.product? raster.height raster.width = some raster.plane :=
    Crop.product?_of_lt (show raster.plane < 2 ^ 64 by omega)
  have hfirst : Crop.product? band raster.plane = some (band * raster.plane) :=
    Crop.product?_of_lt (by omega)
  simp only [bandRange?, hplane, hfirst, sum?_of_lt hband, Crop.product?_of_lt hstop,
    Option.bind_eq_bind, Option.bind_some]
  rfl

theorem bandMask?_eq (h : raster.Sized) :
    raster.bandMask? band = some (raster.bandMask band) := by
  have hslice : (if (band + 1) * raster.plane ≤ raster.mask.length then
      (raster.mask.take ((band + 1) * raster.plane)).drop (band * raster.plane) else []) =
        raster.bandMask band := by
    rw [length_mask h]
    by_cases hlt : band < raster.count
    · rw [if_pos (Nat.mul_le_mul_right _ hlt), List.drop_take, stop_sub_start, slice_mask h hlt]
    · -- the mask ends before the band starts, also if its planes are empty
      have hstart : (raster.mask.take ((band + 1) * raster.plane)).length ≤
          band * raster.plane := by
        refine (List.length_take_le' _ _).trans ?_
        rw [length_mask h]
        exact Nat.mul_le_mul_right _ (Nat.not_lt.1 hlt)
      rw [List.drop_eq_nil_of_le hstart, ite_self, bandMask_of_beyond (Nat.not_lt.1 hlt)]
  simp only [bandMask?, bandRange?_of_lt hband hstop, Option.bind_eq_bind, Option.bind_some, hslice]
  rfl

theorem bandValues?_eq : raster.bandValues? band = some (raster.bandValues band) := by
  have hread : (List.range' (band * raster.plane) raster.plane).filterMap raster.samples.get? =
      raster.bandValues band := by
    simp only [← Samples.getElem?_toDoubles]
    exact filterMap_getElem?_range' _ _ _
  simp only [bandValues?, bandRange?_of_lt hband hstop, Option.bind_eq_bind, Option.bind_some,
    stop_sub_start, hread]
  rfl

end Range

/-- No size on the way to a place overflows, and the mask has a bit for it. -/
theorem checkedValue?_eq (h : raster.WellFormed) (band row column : Nat) :
    raster.checkedValue? band row column = some (raster.value? band row column) := by
  unfold checkedValue?
  split
  · rename_i hinside
    obtain ⟨hband, hrow, hcolumn⟩ := hinside
    have hpixel : row * raster.width + column < raster.plane := pixel_lt hrow hcolumn
    have hplace : band * raster.plane + (row * raster.width + column) <
        raster.count * raster.plane := pixel_lt hband hpixel
    have hcountable := h.countable
    have hle : raster.plane ≤ raster.count * raster.plane :=
      Nat.le_mul_of_pos_left _ h.count_pos
    have hplane : Crop.product? raster.height raster.width = some raster.plane :=
      Crop.product?_of_lt (show raster.plane < 2 ^ 64 by omega)
    have hstart : Crop.product? band raster.plane = some (band * raster.plane) :=
      Crop.product?_of_lt (by omega)
    have hrows : Crop.product? row raster.width = some (row * raster.width) :=
      Crop.product?_of_lt (by omega)
    obtain ⟨masked, sample, hmasked, hsample, hvalue⟩ := exists_value? h.toSized hband hrow hcolumn
    rw [getElem?_bandMask h.toSized hband hpixel] at hmasked
    rw [getElem?_bandValues raster band hpixel] at hsample
    have hfirst := sum?_of_lt (show band * raster.plane + row * raster.width < 2 ^ 64 by omega)
    have hplaced := sum?_of_lt
      (show band * raster.plane + row * raster.width + column < 2 ^ 64 by omega)
    simp only [hplane, hstart, hrows, hfirst, hplaced, Nat.add_assoc, hmasked, hsample, hvalue,
      Option.bind_eq_bind, Option.bind_some]
    rfl
  · rename_i hbeyond
    rw [value?_of_beyond hbeyond]

/-! ## The law -/

/-- All views of a raster show the same raster. -/
structure ViewsAgree (raster : Raster) : Prop where
  length_mask : raster.mask.length = raster.count * raster.height * raster.width
  size_samples : raster.samples.size = raster.count * raster.height * raster.width
  /-- The bands, one after the other, are all samples. -/
  bands : (List.range raster.count).flatMap raster.bandValues = raster.samples.toDoubles
  /-- All bands have one mask. -/
  bandMask : ∃ mask, mask.length = raster.height * raster.width ∧
    ∀ band < raster.count, raster.bandMask band = mask
  counts : ∀ band < raster.count,
    raster.validCount band + raster.maskedCount band = raster.height * raster.width
  /-- At every place there is a bit of the mask and a sample of the band, and the
  sample is the value unless the bit is set. -/
  value : ∀ band row column, band < raster.count → row < raster.height → column < raster.width →
    ∃ masked sample,
      (raster.bandMask band)[row * raster.width + column]? = some masked ∧
      (raster.bandValues band)[row * raster.width + column]? = some sample ∧
      raster.value? band row column = if masked then none else some sample
  noPlace : ∀ band row column,
    ¬(band < raster.count ∧ row < raster.height ∧ column < raster.width) →
      raster.value? band row column = none
  labels : raster.bandLabels.length = raster.count
  noBand : ∀ band, raster.count ≤ band → raster.bandMask band = [] ∧
    raster.bandValues band = [] ∧ raster.validCount band = 0 ∧ raster.maskedCount band = 0
  /-- A band is found at its place among all bands, if this can be counted. -/
  checkedBand : ∀ band, band + 1 < 2 ^ 64 →
    (band + 1) * (raster.height * raster.width) < 2 ^ 64 →
      raster.bandMask? band = some (raster.bandMask band) ∧
      raster.bandValues? band = some (raster.bandValues band)
  /-- No look-up of a value leaves the sizes or the mask. -/
  checkedValue : ∀ band row column,
    raster.checkedValue? band row column = some (raster.value? band row column)

theorem WellFormed.viewsAgree (h : raster.WellFormed) : raster.ViewsAgree := by
  have hsized := h.toSized
  constructor
  case length_mask =>
    rw [Raster.length_mask hsized, plane, Nat.mul_assoc]
  case size_samples =>
    rw [h.samples_size, plane, Nat.mul_assoc]
  case bands => exact flatMap_bandValues hsized
  case bandMask =>
    refine ⟨raster.bandMask 0, length_bandMask hsized h.count_pos, ?_⟩
    intro band hband
    exact bandMask_eq_first hsized hband
  case counts =>
    intro band hband
    exact validCount_add_maskedCount hsized hband
  case value =>
    intro band row column hband hrow hcolumn
    exact exists_value? hsized hband hrow hcolumn
  case noPlace =>
    intro band row column hplace
    exact value?_of_beyond hplace
  case labels => exact length_bandLabels h.named
  case noBand =>
    intro band hband
    have hmask := bandMask_of_beyond hband
    refine ⟨hmask, bandValues_of_beyond hsized hband, ?_, ?_⟩
    · rw [validCount, hmask, List.count_nil]
    · rw [maskedCount, hmask, List.count_nil]
  case checkedBand =>
    intro band hband hstop
    exact ⟨bandMask?_eq hband hstop hsized, bandValues?_eq hband hstop⟩
  case checkedValue => exact checkedValue?_eq h

/-- All views of a decoded raster show the same raster, before and after its
bands are named, or names for them are refused, any number of times: the mask
and the samples are as large as their sizes say, the bands make up the samples
and share one mask, and the value at a place is the sample of the band there,
unless the mask covers it. There is a label for each band, and nothing beyond
the last one. Naming changes nothing but the names, and the last fitting ones
stay. -/
theorem all_views_show_the_same_raster {crop : Crop} {declared : Option Fill}
    (h : crop.decode declared = .ok raster) (attempts : List (List String)) :
    (raster.tryAllNames attempts).ViewsAgree ∧
      raster.tryAllNames attempts = { raster with
        bandNames := attempts.reverse.find? fun names => names.length = raster.count } := by
  have hunnamed := (Crop.decode_shape h).2
  refine ⟨((wellFormed_of_decode h).tryAllNames attempts).viewsAgree, ?_⟩
  rw [tryAllNames_eq, hunnamed, Option.or_none]

/-- Two bands of two rows of three pixels. The last pixel is outside. -/
def twoPlanes : Crop where
  samples := .ofDoubles (.integer .uint8)
    ([1, 2, 3, 4, 5, 6, 11, 12, 13, 14, 15, 16, 9, 9, 9, 9, 9, 0].map .ofNat)
  shape := [3, 2, 3]

def twoPlanesRaster : Raster where
  samples := .ofDoubles (.integer .uint8)
    ([1, 2, 3, 4, 5, 6, 11, 12, 13, 14, 15, 16].map .ofNat)
  outside := [false, false, false, false, false, true]
  count := 2
  height := 2
  width := 3
  fill := .int 0
  bandNames := none

theorem the_second_names_stay :
    twoPlanes.decode none = .ok twoPlanesRaster ∧
      ∃ named, twoPlanesRaster.tryAllNames [["red", "nir"], ["nir", "red"], ["red"]] = named ∧
        named.bandLabels = ["nir", "red"] ∧
        named.value? 1 1 1 = some (.ofNat 15) ∧ named.value? 1 1 2 = none ∧
        named.value? 0 2 0 = none ∧ named.bandValues 2 = [] := by
  have hdecode : twoPlanes.decode none = .ok twoPlanesRaster := by decide +kernel
  obtain ⟨hviews, hnamed⟩ :=
    all_views_show_the_same_raster hdecode [["red", "nir"], ["nir", "red"], ["red"]]
  have hbeyond := hviews.noBand 2
  have hrow := hviews.noPlace 0 2 0
  rw [hnamed] at hbeyond hrow
  refine ⟨hdecode, _, hnamed, rfl, ?_, ?_, hrow ?_, (hbeyond ?_).2.1⟩
  all_goals decide +kernel

end Raster

end SceneMask
