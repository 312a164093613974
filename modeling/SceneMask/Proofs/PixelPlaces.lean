-- Where the samples of an image go. A file has the samples of a pixel side
-- by side, and a raster has its bands one after the other: no sample is lost
-- or doubled on the way, and each one is found under its band, row and
-- column.
import Mathlib
import SceneMask.Proofs.Decoding
import SceneMask.Tiff

namespace SceneMask

/-! ## Blocks of a list -/

theorem filterMap_getElem?_range {α : Type} (xs : List α) (n : Nat) :
    (List.range n).filterMap (fun i => xs[i]?) = xs.take n := by
  induction n with
  | zero => simp
  | succ n ih =>
    rw [List.range_succ, List.filterMap_append, ih, List.take_add_one]
    cases h : xs[n]? <;> simp [h]

/-- The blocks of a list, one after the other. -/
theorem flatMap_take_drop {α : Type} (xs : List α) (size n : Nat) :
    (List.range n).flatMap (fun block => (xs.drop (block * size)).take size) =
      xs.take (n * size) := by
  induction n with
  | zero => simp
  | succ n ih =>
    rw [List.range_succ, List.flatMap_append, ih, Nat.succ_mul, List.take_add]
    simp

namespace Tiff

variable {α : Type}

/-! ## Every item of one place -/

theorem getElem?_everyNth (step : Nat) (items : List α) (i : Nat) :
    (everyNth step items)[i]? = items[i * (step + 1)]? := by
  induction i generalizing items with
  | zero => cases items <;> simp [everyNth]
  | succ i ih =>
    cases items with
    | nil => simp [everyNth]
    | cons item rest =>
      rw [everyNth, List.getElem?_cons_succ, ih, List.getElem?_drop, Nat.succ_mul,
        ← Nat.add_assoc, List.getElem?_cons_succ, Nat.add_comm]

/-- Each pixel has one sample for a band. -/
theorem everyNth_drop_append {pixel rest : List α} {samples band : Nat}
    (hpixel : pixel.length = samples) (hband : band < samples) :
    everyNth (samples - 1) ((pixel ++ rest).drop band) =
      pixel[band]?.toList ++ everyNth (samples - 1) (rest.drop band) := by
  have hlt : band < pixel.length := by omega
  have hskip : ((pixel.drop (band + 1) ++ rest).drop (samples - 1)) = rest.drop band := by
    rw [List.drop_append, List.drop_drop, List.drop_eq_nil_of_le (by omega), List.length_drop,
      List.nil_append]
    congr 1
    omega
  rw [List.drop_append_of_le_length hlt.le, List.drop_eq_getElem_cons hlt, List.cons_append,
    everyNth, hskip, List.getElem?_eq_getElem hlt]
  rfl

/-- The samples of the first pixel, and those of the pixels after it. -/
theorem length_take_and_drop {pixels : List α} {samples n : Nat}
    (hlength : pixels.length = (n + 1) * samples) :
    (pixels.take samples).length = samples ∧ (pixels.drop samples).length = n * samples := by
  rw [Nat.succ_mul] at hlength
  simp [hlength]

theorem length_everyNth_drop {pixels : List α} {samples n band : Nat}
    (hlength : pixels.length = n * samples) (hband : band < samples) :
    (everyNth (samples - 1) (pixels.drop band)).length = n := by
  induction n generalizing pixels with
  | zero =>
    rw [Nat.zero_mul, List.length_eq_zero_iff] at hlength
    simp [hlength, everyNth]
  | succ n ih =>
    obtain ⟨hfirst, hrest⟩ := length_take_and_drop hlength
    rw [← List.take_append_drop samples pixels, everyNth_drop_append hfirst hband,
      List.length_append, ih hrest, List.getElem?_eq_getElem (by omega)]
    simp [Nat.add_comm]

/-! ## Bands and pixels -/

/-- Bands one after the other, each of `plane` samples, as pixels side by
side. -/
def interleave (samples plane : Nat) (bands : List α) : List α :=
  (List.range plane).flatMap fun pixel =>
    (List.range samples).filterMap fun band => bands[band * plane + pixel]?

section Bands

variable {pixels : List α} {samples plane : Nat}

/-- The sample of a pixel for a band. -/
theorem getElem?_deinterleave (hlength : pixels.length = plane * samples) {band pixel : Nat}
    (hband : band < samples) (hpixel : pixel < plane) :
    (deinterleave samples pixels)[band * plane + pixel]? = pixels[pixel * samples + band]? := by
  have hblocks : ∀ block ∈ (List.range samples).map
      (fun band => everyNth (samples - 1) (pixels.drop band)), block.length = plane := by
    intro block hmem
    obtain ⟨b, hb, rfl⟩ := List.mem_map.1 hmem
    exact length_everyNth_drop hlength (List.mem_range.1 hb)
  have hstep : samples - 1 + 1 = samples := by omega
  rw [deinterleave, List.flatMap, getElem?_flatten_of_length hblocks band hpixel,
    List.getElem?_map, List.getElem?_range hband]
  show (everyNth (samples - 1) (pixels.drop band))[pixel]? = _
  rw [getElem?_everyNth, hstep, List.getElem?_drop, Nat.add_comm]

/-- One pixel in front gives each band one sample in front. -/
theorem deinterleave_append_perm {pixel : List α} (hpixel : pixel.length = samples)
    (rest : List α) :
    (deinterleave samples (pixel ++ rest)).Perm (pixel ++ deinterleave samples rest) := by
  have hbands : deinterleave samples (pixel ++ rest) = (List.range samples).flatMap fun band =>
      pixel[band]?.toList ++ everyNth (samples - 1) (rest.drop band) :=
    List.flatMap_congr fun band hband => everyNth_drop_append hpixel (List.mem_range.1 hband)
  have hfirst : (List.range samples).flatMap (fun band => pixel[band]?.toList) = pixel := by
    rw [← List.filterMap_eq_flatMap_toList, filterMap_getElem?_range,
      List.take_of_length_le hpixel.le]
  have hperm := List.flatMap_append_perm (List.range samples)
    (fun band => pixel[band]?.toList) fun band => everyNth (samples - 1) (rest.drop band)
  rw [hfirst] at hperm
  rw [hbands]
  exact hperm.symm

/-- No sample is lost or doubled. -/
theorem deinterleave_perm (hlength : pixels.length = plane * samples) :
    (deinterleave samples pixels).Perm pixels := by
  induction plane generalizing pixels with
  | zero =>
    rw [Nat.zero_mul, List.length_eq_zero_iff] at hlength
    simp [hlength, deinterleave, everyNth]
  | succ plane ih =>
    obtain ⟨hfirst, hrest⟩ := length_take_and_drop hlength
    have hperm := (deinterleave_append_perm hfirst (pixels.drop samples)).trans
      ((ih hrest).append_left _)
    rwa [List.take_append_drop] at hperm

/-- The pixels can be put together again. -/
theorem interleave_deinterleave (hlength : pixels.length = plane * samples) :
    interleave samples plane (deinterleave samples pixels) = pixels := by
  have hpixel : ∀ pixel ∈ List.range plane, ((List.range samples).filterMap fun band =>
      (deinterleave samples pixels)[band * plane + pixel]?) =
        (pixels.drop (pixel * samples)).take samples := by
    intro pixel hmem
    rw [← filterMap_getElem?_range]
    apply List.filterMap_congr
    intro band hband
    rw [getElem?_deinterleave hlength (List.mem_range.1 hband) (List.mem_range.1 hmem),
      List.getElem?_drop]
  rw [interleave, List.flatMap_congr hpixel, flatMap_take_drop, ← hlength, List.take_length]

end Bands

end Tiff

/-! ## Places in a raster -/

theorem Samples.map_exact_get? (samples : Samples) (i : Nat) :
    (samples.get? i).map Binary.exact = samples.exacts[i]? := by
  rw [← samples.map_exact_toDoubles, List.getElem?_map, samples.getElem?_toDoubles]

namespace Raster

variable {raster : Raster} {band row column : Nat}

theorem value?_of_inside (hband : band < raster.count) (hrow : row < raster.height)
    (hcolumn : column < raster.width) {masked : Bool}
    (hmasked : raster.outside[row * raster.width + column]? = some masked) :
    raster.value? band row column =
      if masked then none
      else raster.samples.get? (band * raster.plane + (row * raster.width + column)) := by
  unfold value?
  rw [if_pos ⟨hband, hrow, hcolumn⟩]
  simp only [hmasked]
  cases masked <;> rfl

theorem value?_of_beyond
    (h : ¬(band < raster.count ∧ row < raster.height ∧ column < raster.width)) :
    raster.value? band row column = none := if_neg h

end Raster

namespace Crop

/-- The value at a place is the number of the crop at that place of its
band, unless the alpha sample of the pixel is zero. -/
theorem exact_value?_raster {crop : Crop} {declared : Option Fill} {bands height width : Nat}
    {type : SampleType} (hfits : crop.ShapeFits bands height width) (hbands : 2 ≤ bands)
    (hpromote : crop.samples.type.promote (declared.getD .undeclared) = .ok type)
    {band row column : Nat} (hband : band < bands - 1) (hrow : row < height)
    (hcolumn : column < width) :
    ∃ sample alpha,
      crop.samples.exacts[band * (height * width) + (row * width + column)]? = some sample ∧
      crop.samples.exacts[(bands - 1) * (height * width) + (row * width + column)]?
        = some alpha ∧
      ((crop.raster declared bands height width type).value? band row column).map Binary.exact =
        if alpha = .number 0 then none else some sample := by
  have hpixel := pixel_lt hrow hcolumn
  have hplace : band * (height * width) + (row * width + column) <
      (bands - 1) * (height * width) := pixel_lt hband hpixel
  obtain ⟨sample, alpha, hsample, halpha, hdata, -⟩ :=
    exacts_filled_raster hfits hbands hpromote hplace
  rw [Nat.mul_add_mod', Nat.mod_eq_of_lt hpixel] at halpha
  refine ⟨sample, alpha, hsample, halpha, ?_⟩
  have hmasked : (crop.raster declared bands height width type).outside[row * width + column]? =
      some (decide (alpha = .number 0)) := by
    rw [outside_raster, List.getElem?_map, List.getElem?_drop, halpha]
    rfl
  have hvalue : (crop.raster declared bands height width type).value? band row column = _ :=
    Raster.value?_of_inside hband hrow hcolumn hmasked
  have hsampleAt := Samples.map_exact_get?
    (crop.raster declared bands height width type).samples
    (band * (height * width) + (row * width + column))
  rw [hdata] at hsampleAt
  rw [hvalue]
  by_cases hzero : alpha = .number 0
  · simp [hzero]
  · simp only [hzero, decide_false, Bool.false_eq_true, if_false]
    exact hsampleAt

theorem shapeFits_iff {crop : Crop} {bands height width : Nat}
    (hsize : crop.samples.size = bands * height * width) :
    crop.ShapeFits bands height width ↔
      bands * height < 2 ^ 64 ∧ bands * height * width < 2 ^ 64 := by
  rw [shapeFits_iff_products, hsize]
  simp

/-- The crop of an image with its pixels side by side. -/
def ofPixels {type : SampleType} (samples height width : Nat) (pixels : List type.Value) :
    Crop where
  samples := ⟨type, Tiff.deinterleave samples pixels⟩
  shape := [samples, height, width]

section Pixels

variable {type : SampleType} {samples height width : Nat} {pixels : List type.Value}

theorem size_ofPixels (hlength : pixels.length = height * width * samples) :
    (ofPixels samples height width pixels).samples.size = samples * height * width := by
  show (Tiff.deinterleave samples pixels).length = _
  rw [(Tiff.deinterleave_perm hlength).length_eq, hlength, Nat.mul_comm, Nat.mul_assoc]

/-- The sample of a pixel is found in its band. -/
theorem getElem?_exacts_ofPixels (hlength : pixels.length = height * width * samples)
    {band pixel : Nat} (hband : band < samples) (hpixel : pixel < height * width) :
    (ofPixels samples height width pixels).samples.exacts[band * (height * width) + pixel]? =
      pixels[pixel * samples + band]?.map type.exact := by
  show ((Tiff.deinterleave samples pixels).map type.exact)[_]? = _
  rw [List.getElem?_map, Tiff.getElem?_deinterleave hlength hband hpixel]

/-- A crop of pixels is decoded just if its sizes can be counted and a type
holds its fill. -/
theorem decode_ofPixels_eq_ok_iff (hsamples : 2 ≤ samples)
    (hlength : pixels.length = height * width * samples) {declared : Option Fill}
    {raster : Raster} :
    (ofPixels samples height width pixels).decode declared = .ok raster ↔
      samples * height < 2 ^ 64 ∧ samples * height * width < 2 ^ 64 ∧
        ∃ t, type.promote (declared.getD .undeclared) = .ok t ∧
          (ofPixels samples height width pixels).raster declared samples height width t =
            raster := by
  rw [decode_eq_ok_iff, ← and_assoc, ← shapeFits_iff (size_ofPixels hlength)]
  constructor
  · rintro ⟨bands, rows, columns, t, hshape, hfits, -, hpromote, hraster⟩
    cases hshape
    exact ⟨hfits, t, hpromote, hraster⟩
  · rintro ⟨hfits, t, hpromote, hraster⟩
    exact ⟨samples, height, width, t, rfl, hfits, hsamples, hpromote, hraster⟩

end Pixels

end Crop

/-! ## The law -/

/-- The raster shows the pixels of an image. Their last sample is the alpha
sample: where it is zero there is no value, and else every other sample is
the value at its place. -/
structure Raster.Shows (raster : Raster) {type : SampleType} (samples height width : Nat)
    (pixels : List type.Value) : Prop where
  count_eq : raster.count = samples - 1
  height_eq : raster.height = height
  width_eq : raster.width = width
  inside : ∀ band row column, band < samples - 1 → row < height → column < width →
    ∃ sample alpha,
      pixels[(row * width + column) * samples + band]? = some sample ∧
      pixels[(row * width + column) * samples + (samples - 1)]? = some alpha ∧
      (raster.value? band row column).map Binary.exact =
        if type.exact alpha = .number 0 then none else some (type.exact sample)
  beyond : ∀ band row column, ¬(band < samples - 1 ∧ row < height ∧ column < width) →
    raster.value? band row column = none

namespace Crop

theorem shows_raster {type t : SampleType} {samples height width : Nat}
    {pixels : List type.Value} {declared : Option Fill} (hsamples : 2 ≤ samples)
    (hlength : pixels.length = height * width * samples)
    (hfits : (ofPixels samples height width pixels).ShapeFits samples height width)
    (hpromote : type.promote (declared.getD .undeclared) = .ok t) :
    ((ofPixels samples height width pixels).raster declared samples height width t).Shows
      samples height width pixels := by
  constructor
  case count_eq => rfl
  case height_eq => rfl
  case width_eq => rfl
  case inside =>
    intro band row column hband hrow hcolumn
    obtain ⟨sample, alpha, hsample, halpha, hvalue⟩ :=
      exact_value?_raster hfits hsamples hpromote hband hrow hcolumn
    have hpixel := pixel_lt hrow hcolumn
    rw [getElem?_exacts_ofPixels hlength (by omega) hpixel] at hsample halpha
    obtain ⟨v, hv, rfl⟩ := Option.map_eq_some_iff.1 hsample
    obtain ⟨a, ha, rfl⟩ := Option.map_eq_some_iff.1 halpha
    exact ⟨v, a, hv, ha, hvalue⟩
  case beyond =>
    intro band row column h
    exact Raster.value?_of_beyond h

/-- Every pixel of an image lands in its place, whatever its sizes, the type
of its samples and the fill. Rearranging the samples into bands loses none
and doubles none, and can be undone. The crop is decoded just if its sizes
can be counted and some type holds its samples and the fill, and then the
raster shows the pixels. -/
theorem every_pixel_lands_in_its_place {type : SampleType} {samples height width : Nat}
    {pixels : List type.Value} (hsamples : 2 ≤ samples)
    (hlength : pixels.length = height * width * samples) :
    (Tiff.deinterleave samples pixels).Perm pixels ∧
      Tiff.interleave samples (height * width) (Tiff.deinterleave samples pixels) = pixels ∧
      ∀ declared : Option Fill,
        ((∃ raster, (ofPixels samples height width pixels).decode declared = .ok raster) ↔
          samples * height < 2 ^ 64 ∧ samples * height * width < 2 ^ 64 ∧
            ∃ t, type.promote (declared.getD .undeclared) = .ok t) ∧
        ∀ raster, (ofPixels samples height width pixels).decode declared = .ok raster →
          raster.Shows samples height width pixels := by
  refine ⟨Tiff.deinterleave_perm hlength, Tiff.interleave_deinterleave hlength, ?_⟩
  intro declared
  simp only [decode_ofPixels_eq_ok_iff hsamples hlength]
  constructor
  · constructor
    · rintro ⟨_, hrows, hsize, t, hpromote, -⟩
      exact ⟨hrows, hsize, t, hpromote⟩
    · rintro ⟨hrows, hsize, t, hpromote⟩
      exact ⟨_, hrows, hsize, t, hpromote, rfl⟩
  · rintro raster ⟨hrows, hsize, t, hpromote, rfl⟩
    exact shows_raster hsamples hlength
      ((shapeFits_iff (size_ofPixels hlength)).2 ⟨hrows, hsize⟩) hpromote

/-- Three pixels of two bands in one row, the second one outside the
feature. -/
def threePixels : List (SampleType.integer .uint8).Value :=
  [⟨10, by decide⟩, ⟨20, by decide⟩, ⟨254, by decide⟩,
    ⟨11, by decide⟩, ⟨21, by decide⟩, ⟨0, IntegerType.holds_zero _⟩,
    ⟨12, by decide⟩, ⟨22, by decide⟩, ⟨1, by decide⟩]

/-- Bytes do not hold the fill -1, so they become words of 16 bits. -/
theorem the_second_of_three_pixels_has_no_value :
    2 ≤ 3 ∧ threePixels.length = 1 * 3 * 3 ∧
      ∃ raster, (ofPixels 3 1 3 threePixels).decode (some (.int (-1))) = .ok raster ∧
        (raster.value? 1 0 0).map Binary.exact = some (.number 20) ∧
        (raster.value? 1 0 1).map Binary.exact = none ∧
        (raster.value? 1 0 2).map Binary.exact = some (.number 22) ∧
        raster.value? 2 0 0 = none := by
  have hlength : threePixels.length = 1 * 3 * 3 := rfl
  have hsamples : 2 ≤ 3 := by decide
  obtain ⟨-, -, hdecode⟩ := every_pixel_lands_in_its_place hsamples hlength
  obtain ⟨haccepts, hshows⟩ := hdecode (some (.int (-1)))
  have hpromote : (SampleType.integer .uint8).promote (.int (-1)) = .ok (.integer .int16) := by
    decide +kernel
  obtain ⟨raster, hraster⟩ := haccepts.2 ⟨by decide, by decide, _, hpromote⟩
  have hraster' := hshows raster hraster
  refine ⟨hsamples, hlength, raster, hraster, ?_, ?_, ?_, ?_⟩
  · obtain ⟨sample, alpha, hsample, halpha, hvalue⟩ :=
      hraster'.inside 1 0 0 (by decide) (by decide) (by decide)
    cases hsample
    cases halpha
    rw [hvalue]
    decide
  · obtain ⟨sample, alpha, hsample, halpha, hvalue⟩ :=
      hraster'.inside 1 0 1 (by decide) (by decide) (by decide)
    cases hsample
    cases halpha
    rw [hvalue]
    decide
  · obtain ⟨sample, alpha, hsample, halpha, hvalue⟩ :=
      hraster'.inside 1 0 2 (by decide) (by decide) (by decide)
    cases hsample
    cases halpha
    rw [hvalue]
    decide
  · exact hraster'.beyond 2 0 0 (by decide)

end Crop

end SceneMask
