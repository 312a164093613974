-- The laws of the lower end of a range. Masked samples and bands of a single
-- number go there, by no part of the way to the upper end. The way itself is
-- too long for the format if the ends are far apart, and then they go nowhere.
import Mathlib
import SceneMask.Proofs.Overflow
import SceneMask.Proofs.Rescaling

namespace SceneMask

/-! ## Ranges as they are read -/

namespace Range

theorem exact_of_readBound {cs : List Char} {x : Double} (h : readBound cs = .ok x) :
    ∃ value : ℚ, x.exact = .number value := by
  unfold readBound at h
  dsimp only at h
  split at h
  · split at h
    · cases h
      exact Binary.exists_exact ‹_›
    · cases h
  · cases h

/-- Both ends of a range that was read are numbers, the lower one first. -/
theorem ends_of_parse {text : String} {range : Range} (h : parse text = .ok range) :
    ∃ low high : ℚ, range.low.exact = .number low ∧ range.high.exact = .number high ∧
      low < high := by
  unfold parse at h
  split at h
  · obtain ⟨x, hx, h⟩ := bind_eq_ok.1 h
    obtain ⟨y, hy, h⟩ := bind_eq_ok.1 h
    obtain ⟨low, hlow⟩ := exact_of_readBound hx
    obtain ⟨high, hhigh⟩ := exact_of_readBound hy
    split at h
    · cases h
    · rename_i hle
      cases h
      exact ⟨low, high, hlow, hhigh, not_le.1 (mt (Binary.le_iff hhigh hlow).2 hle)⟩
  · cases h

variable {range : Range} {low high : ℚ}

/-- What a sample without a part of the range becomes. -/
theorem exact_place (hlow : range.low.exact = .number low) (hhigh : range.high.exact = .number high)
    (hlt : low < high) {least span sample : Double} {masked : Bool}
    (h : masked = true ∨ span.le (.zero false) = true) :
    (range.place least span sample masked).exact =
      if high - low < 2 ^ 1024 - 2 ^ 970 then .number low else .nan := by
  have hpart : (masked || span.le (.zero false)) = true := by simpa using h
  unfold place
  rw [if_pos hpart, Binary.exact_add_zero_mul_sub (by decide) hlow hhigh, Format.double_limit,
    abs_of_pos (sub_pos.2 hlt)]

end Range

/-! ## Bands of a single number -/

namespace Binary

variable {f : Format} {x extreme : Binary f} {a : ℚ}

/-- A number takes the place of the infinity that a search starts with. -/
theorem exact_min_of_same (hx : x.exact = .number a)
    (h : extreme = .infinite false ∨ extreme.exact = .number a) :
    (extreme.min x).exact = .number a := by
  unfold Binary.min
  split
  · exact hx
  · split
    · exact hx
    · rename_i hlt
      apply h.resolve_left
      rintro rfl
      exact hlt (lt_infinite hx)

theorem exact_max_of_same (hx : x.exact = .number a)
    (h : extreme = .infinite true ∨ extreme.exact = .number a) :
    (extreme.max x).exact = .number a := by
  unfold Binary.max
  split
  · exact hx
  · split
    · exact hx
    · rename_i hlt
      apply h.resolve_left
      rintro rfl
      exact hlt (infinite_lt hx)

end Binary

namespace Raster

/-- The samples of the band inside the feature are all one number, if there
are any. -/
def IsConstant (raster : Raster) (band : Nat) : Prop :=
  ∃ value : ℚ, ∀ x ∈ raster.insideSamples band, x.exact = .number value

/-- Extremes start as infinities, and the first sample takes the place of
both. -/
theorem extremes_of_constant {samples : List Double} {value : ℚ}
    (h : ∀ x ∈ samples, x.exact = .number value) :
    extremes samples = (.infinite false, .infinite true) ∨
      (extremes samples).1.exact = .number value ∧ (extremes samples).2.exact = .number value := by
  induction samples using List.reverseRecOn with
  | nil => exact Or.inl rfl
  | append_singleton samples x ih =>
    rw [List.forall_mem_append, List.forall_mem_singleton] at h
    obtain ⟨hsamples, hx⟩ := h
    have hnext : extremes (samples ++ [x]) =
        ((extremes samples).1.min x, (extremes samples).2.max x) := by
      simp [extremes]
    right
    rw [hnext]
    rcases ih hsamples with hnone | ⟨hleast, hgreatest⟩
    · rw [hnone]
      exact ⟨Binary.exact_min_of_same hx (Or.inl rfl), Binary.exact_max_of_same hx (Or.inl rfl)⟩
    · exact ⟨Binary.exact_min_of_same hx (Or.inr hleast),
        Binary.exact_max_of_same hx (Or.inr hgreatest)⟩

/-- A single number leaves no span, and no sample leaves less than that. -/
theorem span_of_constant {samples : List Double} {value : ℚ}
    (h : ∀ x ∈ samples, x.exact = .number value) :
    ((extremes samples).2 - (extremes samples).1).le (.zero false) = true := by
  rcases extremes_of_constant h with hnone | ⟨hleast, hgreatest⟩
  · rw [hnone]
    rfl
  · have hspan := Binary.exact_sub (by decide) hgreatest hleast
    rw [sub_self] at hspan
    have hzero : (Binary.zero false : Double).exact = .number 0 :=
      Binary.exact_zero (by decide) false
    exact (Binary.le_iff (hspan ⟨_, hzero⟩) hzero).2 le_rfl

/-! ## Samples of the result -/

/-- A masked sample, and every sample of a band of a single number, has no
part of the range. -/
theorem exact_lower {raster : Raster} (h : raster.Sized) {ranges : List Range}
    (hranges : ranges.length = raster.count) {result : Samples}
    (hresult : raster.rescale ranges .float64 = .ok result) {band : Nat} {range : Range}
    (hrange : ranges[band]? = some range) {low high : ℚ} (hlow : range.low.exact = .number low)
    (hhigh : range.high.exact = .number high) (hlt : low < high) {pixel : Nat}
    (hpixel : pixel < raster.plane)
    (hlower : raster.mask[band * raster.plane + pixel]? = some true ∨ raster.IsConstant band) :
    result.exacts[band * raster.plane + pixel]? =
      some (if high - low < 2 ^ 1024 - 2 ^ 970 then .number low else .nan) := by
  obtain ⟨hsome, -⟩ := List.getElem?_eq_some_iff.1 hrange
  have hband : band < raster.count := by rwa [← hranges]
  obtain ⟨sample, masked, -, hmasked, hvisible⟩ := exists_getElem?_visible h hband hpixel
  rw [getElem?_exacts_rescale h hranges hresult hrange hpixel, settledBand, List.getElem?_map,
    rescaleBand_eq_stretch, Range.getElem?_stretch, hvisible, reduceOption_visible]
  refine congrArg some (Range.exact_place hlow hhigh hlt ?_)
  -- the mask sets the part to zero, or else the span of the band does
  rcases hlower with htrue | ⟨value, hvalue⟩
  · left
    rw [htrue, Option.some.injEq] at hmasked
    rw [← hmasked]
    rfl
  · exact Or.inr (span_of_constant hvalue)

end Raster

/-! ## The law -/

namespace Crop

/-- Masked samples and bands of a single number, or of none, get the lower
end of their range as long as the way to the upper end is a number of the
format. Beyond the limit of the format the way is infinite, no part of it is
no number, and nor are these samples. -/
theorem lower_ends_of_ranges_within_the_format {crop : Crop} {declared : Option Fill}
    {raster : Raster} (h : crop.decode declared = .ok raster) {ranges : List Range}
    (hranges : ranges.length = raster.count)
    (hparsed : ∀ range ∈ ranges, ∃ text, Range.parse text = .ok range) :
    ∃ result, raster.rescale ranges .float64 = .ok result ∧ result.type = .float64 ∧
      result.size = raster.count * raster.plane ∧
      ∀ band range, ranges[band]? = some range → ∃ low high : ℚ,
        range.low.exact = .number low ∧ range.high.exact = .number high ∧ low < high ∧
        ∀ pixel < raster.plane,
          raster.mask[band * raster.plane + pixel]? = some true ∨ raster.IsConstant band →
          result.exacts[band * raster.plane + pixel]? =
            some (if high - low < 2 ^ 1024 - 2 ^ 970 then .number low else .nan) := by
  have hsized := decode_sized h
  have hresult := Raster.rescale_of_length hranges .float64
  obtain ⟨htype, hsize⟩ := Raster.size_rescale hsized hranges hresult
  refine ⟨_, hresult, htype, hsize, ?_⟩
  intro band range hrange
  obtain ⟨text, htext⟩ := hparsed range (List.mem_of_getElem? hrange)
  obtain ⟨low, high, hlow, hhigh, hlt⟩ := Range.ends_of_parse htext
  refine ⟨low, high, hlow, hhigh, hlt, ?_⟩
  intro pixel hpixel hlower
  exact Raster.exact_lower hsized hranges hresult hrange hlow hhigh hlt hpixel hlower

/-- One band of two pixels, the second one outside the feature. -/
def sevenAndNine : Crop where
  samples := .ofDoubles (.integer .uint8) ([7, 9, 9, 0].map .ofNat)
  shape := [2, 1, 2]

def sevenAndNineRaster : Raster where
  samples := .ofDoubles (.integer .uint8) ([7, 9].map .ofNat)
  outside := [false, true]
  count := 1
  height := 1
  width := 2
  fill := .int 0
  bandNames := none

theorem sevenAndNineRaster_isConstant : sevenAndNineRaster.IsConstant 0 := by
  refine ⟨7, ?_⟩
  decide +kernel

theorem seven_and_nine_go_to_minus_five :
    sevenAndNine.decode none = .ok sevenAndNineRaster ∧
      Range.parse "-5,5" = .ok ⟨.ofInt (-5), .ofInt 5⟩ ∧
      ∃ result, sevenAndNineRaster.rescale [⟨.ofInt (-5), .ofInt 5⟩] .float64 = .ok result ∧
        result.exacts = [.number (-5), .number (-5)] := by
  have hdecode : sevenAndNine.decode none = .ok sevenAndNineRaster := by decide +kernel
  have hparse : Range.parse "-5,5" = .ok ⟨.ofInt (-5), .ofInt 5⟩ := by decide +kernel
  have hparsed : ∀ range ∈ [(⟨.ofInt (-5), .ofInt 5⟩ : Range)],
      ∃ text, Range.parse text = .ok range := by
    rintro range hrange
    rw [List.mem_singleton.1 hrange]
    exact ⟨_, hparse⟩
  obtain ⟨result, hresult, -, hsize, hends⟩ :=
    lower_ends_of_ranges_within_the_format hdecode (by decide) hparsed
  obtain ⟨low, high, hlow, hhigh, -, hlower⟩ := hends 0 _ rfl
  have hfive : (Binary.ofInt (-5) : Double).exact = .number (-5) := by decide +kernel
  have hfive' : (Binary.ofInt 5 : Double).exact = .number 5 := by decide +kernel
  dsimp only at hlow hhigh
  rw [hfive, Exact.number.injEq] at hlow
  rw [hfive', Exact.number.injEq] at hhigh
  subst hlow hhigh
  have hlimit : (5 : ℚ) - -5 < 2 ^ 1024 - 2 ^ 970 := by decide +kernel
  simp only [if_pos hlimit] at hlower
  have hfirst := hlower 0 (by decide) (Or.inr sevenAndNineRaster_isConstant)
  have hsecond := hlower 1 (by decide) (Or.inl (by decide))
  refine ⟨hdecode, hparse, result, hresult, ?_⟩
  rw [← Samples.length_exacts] at hsize
  obtain ⟨first, second, hexacts⟩ := List.length_eq_two.1 hsize
  rw [hexacts] at hfirst hsecond ⊢
  cases hfirst
  cases hsecond
  rfl

/-- The ends that the numerals -1e308 and 1e308 are rounded to. -/
def wideRange : Range :=
  ⟨.finite true ⟨0x7fe1ccf385ebc8a0, by decide⟩, .finite false ⟨0x7fe1ccf385ebc8a0, by decide⟩⟩

theorem a_wide_range_leaves_no_number :
    sevenAndNine.decode none = .ok sevenAndNineRaster ∧
      Range.parse "-1e308,1e308" = .ok wideRange ∧
      sevenAndNineRaster.mask[1]? = some true ∧ sevenAndNineRaster.IsConstant 0 ∧
      ∃ result, sevenAndNineRaster.rescale [wideRange] .float64 = .ok result ∧
        result.exacts = [.nan, .nan] := by
  refine ⟨?_, ?_, ?_, sevenAndNineRaster_isConstant, ?_⟩
  · decide +kernel
  · decide +kernel
  · decide +kernel
  · refine ⟨.ofDoubles .float64 [.nan, .nan], ?_, rfl⟩
    decide +kernel

end Crop

end SceneMask
