-- The laws of accounts. An account never looks at a sample and its mask
-- together: it counts whole bands, takes the pixels outside off the class
-- of no data, and works in words. In whole numbers this is the count of
-- the pixels inside the feature, sample by sample.
import Mathlib
import SceneMask.Account
import SceneMask.Proofs.Decoding
import SceneMask.Proofs.HistogramCounts

namespace SceneMask

/-! ## Words as whole numbers -/

section Words

theorem toInt_toInt64 {n : UInt64} (h : n.toNat < 2 ^ 63) : n.toInt64.toInt = n.toNat := by
  have hn : n.toInt64 = Int64.ofNat n.toNat := by
    rw [← UInt64.toInt64_ofNat', UInt64.ofNat_toNat]
  rw [hn, Int64.toInt_ofNat_of_lt h]

theorem toInt_add_of_bounds {a b : Int64} (hlow : -2 ^ 63 ≤ a.toInt + b.toInt)
    (hhigh : a.toInt + b.toInt < 2 ^ 63) : (a + b).toInt = a.toInt + b.toInt := by
  rw [Int64.toInt_add]
  apply Int.bmod_eq_of_le <;> omega

theorem toInt_sub_of_bounds {a b : Int64} (hlow : -2 ^ 63 ≤ a.toInt - b.toInt)
    (hhigh : a.toInt - b.toInt < 2 ^ 63) : (a - b).toInt = a.toInt - b.toInt := by
  rw [Int64.toInt_sub]
  apply Int.bmod_eq_of_le <;> omega

theorem toInt_max (a b : Int64) : (max a b).toInt = max a.toInt b.toInt := by
  show (if a ≤ b then b else a).toInt = _
  have hle := Int64.le_iff_toInt_le (x := a) (y := b)
  split
  · rename_i h
    rw [max_eq_right (hle.1 h)]
  · rename_i h
    rw [max_eq_left (not_le.1 (mt hle.2 h)).le]

theorem toInt_min (a b : Int64) : (min a b).toInt = min a.toInt b.toInt := by
  show (if a ≤ b then a else b).toInt = _
  have hle := Int64.le_iff_toInt_le (x := a) (y := b)
  split
  · rename_i h
    rw [min_eq_left (hle.1 h)]
  · rename_i h
    rw [min_eq_right (not_le.1 (mt hle.2 h)).le]

theorem toNat_toUInt64 {a : Int64} (h : 0 ≤ a.toInt) : (a.toUInt64.toNat : Int) = a.toInt := by
  have ha : (0 : Int64) ≤ a := Int64.le_iff_toInt_le.2 h
  rw [Int64.toNat_toUInt64_of_le ha]
  exact Int.toNat_of_nonneg h

/-- Holding a number between 0 and a word that is not negative. -/
theorem toNat_clamp (a : Int64) {most : UInt64} (h : most.toNat < 2 ^ 63) :
    ((max 0 (min a most.toInt64)).toUInt64.toNat : Int) = max 0 (min a.toInt most.toNat) := by
  rw [toNat_toUInt64] <;> rw [toInt_max, toInt_min, toInt_toInt64 h, Int64.toInt_zero]
  exact le_max_left _ _

end Words

namespace Account

/-! ## Accounts in whole numbers -/

/-- The pixels of a class inside the feature as a whole number, which is
negative if there are fewer pixels of no data than pixels outside. -/
def exactPixels (histogram : Histogram) (outside : UInt64) (c : SceneClass) : Int :=
  (histogram.count c).toNat - if c = .noData then (outside.toNat : Int) else 0

/-- The pixels that the policy keeps as a whole number, without bounds. -/
def exactKept (histogram : Histogram) (outside : UInt64) (selection : Selection) :
    Policy → Int
  | .whitelist => (selection.classes.map (exactPixels histogram outside)).sum
  | .blacklist => ((histogram.pixels - outside.toNat : Nat) : Int)
    - (selection.classes.map (exactPixels histogram outside)).sum

section Exact

variable {histogram : Histogram} {outside : UInt64}

theorem toInt_classPixels (htotal : histogram.pixels < 2 ^ 63) (hout : outside.toNat < 2 ^ 63)
    (c : SceneClass) : (classPixels histogram outside c).toInt
      = exactPixels histogram outside c := by
  have hcount := Histogram.count_le_pixels histogram c
  have hn : (histogram.count c).toInt64.toInt = (histogram.count c).toNat :=
    toInt_toInt64 (by omega)
  unfold classPixels exactPixels
  by_cases hc : c = .noData
  · rw [if_pos hc, if_pos hc, toInt_sub_of_bounds] <;> rw [hn, toInt_toInt64 hout] <;> omega
  · rw [if_neg hc, if_neg hc, hn, Int.sub_zero]

/-- Only the class of no data differs from its count. -/
theorem sum_exactPixels {cs : List SceneClass} (h : cs.Nodup) :
    (cs.map (exactPixels histogram outside)).sum =
      ((cs.map fun c => (histogram.count c).toNat).sum : Nat)
        - if .noData ∈ cs then (outside.toNat : Int) else 0 := by
  have hpixels : exactPixels histogram outside = fun c =>
      if c = .noData then ((histogram.count c).toNat : Int) + -outside.toNat
      else (histogram.count c).toNat := by
    funext c
    unfold exactPixels
    split <;> omega
  have hcast : (cs.map fun c => ((histogram.count c).toNat : Int)).sum =
      ((cs.map fun c => (histogram.count c).toNat).sum : Nat) := by
    rw [Nat.cast_list_sum, List.map_map]
    rfl
  rw [hpixels, SceneClass.sum_map_add_at h, hcast]
  split <;> omega

theorem sum_exactPixels_bounds (histogram : Histogram) (outside : UInt64)
    {cs : List SceneClass} (h : cs.Nodup) :
    -(outside.toNat : Int) ≤ (cs.map (exactPixels histogram outside)).sum ∧
      (cs.map (exactPixels histogram outside)).sum ≤ histogram.pixels := by
  have hle := SceneClass.sum_map_le_all h fun c => (histogram.count c).toNat
  rw [sum_exactPixels h]
  unfold Histogram.pixels
  split <;> omega

/-- No sum of classes leaves the range of a signed word. -/
theorem toInt_sum_classPixels (htotal : histogram.pixels < 2 ^ 63)
    (hout : outside.toNat < 2 ^ 63) {cs : List SceneClass} (h : cs.Nodup) :
    ((cs.map (classPixels histogram outside)).foldr (· + ·) 0).toInt =
      (cs.map (exactPixels histogram outside)).sum := by
  induction cs with
  | nil => simp
  | cons c rest ih =>
    have hbounds := sum_exactPixels_bounds histogram outside h
    rw [List.map_cons, List.sum_cons] at hbounds
    rw [List.map_cons, List.foldr_cons, List.map_cons, List.sum_cons, toInt_add_of_bounds]
      <;> rw [ih (List.nodup_cons.1 h).2, toInt_classPixels htotal hout] <;> omega

theorem toNat_inside (htotal : histogram.pixels < 2 ^ 63) (selection : Selection)
    (policy : Policy) : (ofHistogram histogram outside selection policy).inside.toNat =
      histogram.pixels - outside.toNat := by
  have hsum : histogram.total.toNat = histogram.pixels := Histogram.toNat_total (by omega)
  show (if outside ≤ histogram.total then histogram.total - outside else 0).toNat = _
  split
  · rename_i h
    rw [UInt64.toNat_sub_of_le _ _ h, hsum]
  · rename_i h
    rw [UInt64.le_iff_toNat_le, hsum] at h
    simp
    omega

/-- What is kept is bounded by the pixels inside, whatever the counts of the
classes. -/
theorem keptPixels_le (pixels : SceneClass → Int64) {inside : UInt64} (h : inside.toNat < 2 ^ 63)
    (selection : Selection) (policy : Policy) :
    keptPixels pixels inside selection policy ≤ inside := by
  have hclamp : ∀ kept : Int64, (max 0 (min kept inside.toInt64)).toUInt64 ≤ inside := by
    intro kept
    have hkept := toNat_clamp kept h
    rw [UInt64.le_iff_toNat_le]
    omega
  exact hclamp _

/-- Keeping is exact up to the bounds: none and all pixels inside. -/
theorem toNat_keptPixels (htotal : histogram.pixels < 2 ^ 63) (hout : outside.toNat < 2 ^ 63)
    (selection : Selection) (policy : Policy) {inside : UInt64}
    (hinside : inside.toNat = histogram.pixels - outside.toNat) :
    ((keptPixels (classPixels histogram outside) inside selection policy).toNat : Int) =
      max 0 (min (exactKept histogram outside selection policy) inside.toNat) := by
  have hin : inside.toInt64.toInt = inside.toNat := toInt_toInt64 (by omega)
  have hsum := toInt_sum_classPixels htotal hout selection.nodup
  obtain ⟨hlow, hhigh⟩ := sum_exactPixels_bounds histogram outside selection.nodup
  unfold keptPixels
  cases policy with
  | whitelist =>
    simp only [toNat_clamp _ (show inside.toNat < 2 ^ 63 by omega), hsum]
    rfl
  | blacklist =>
    simp only [toNat_clamp _ (show inside.toNat < 2 ^ 63 by omega)]
    rw [toInt_sub_of_bounds] <;> rw [hin, hsum]
    · rw [hinside]
      rfl
    · omega
    · omega

end Exact

end Account

/-! ## Samples inside the feature -/

namespace Raster

/-- The samples of a band in the pixels with one value of the mask. -/
def samplesWhere (raster : Raster) (band : Nat) (masked : Bool) : List Double :=
  (((raster.bandValues band).zip (raster.bandMask band)).filter
    fun pixel => pixel.2 == masked).map Prod.fst

def insideSamples (raster : Raster) (band : Nat) : List Double := raster.samplesWhere band false

def outsideSamples (raster : Raster) (band : Nat) : List Double := raster.samplesWhere band true

section Band

variable {raster : Raster} {band : Nat}

theorem length_bandMask (h : raster.Sized) (hband : band < raster.count) :
    (raster.bandMask band).length = raster.plane := by
  rw [bandMask, if_pos hband, h.outside_length]

theorem length_bandValues (h : raster.Sized) (hband : band < raster.count) :
    (raster.bandValues band).length = raster.plane := by
  have hroom : band * raster.plane + raster.plane ≤ raster.count * raster.plane := by
    rw [← Nat.succ_mul]
    exact Nat.mul_le_mul_right _ hband
  rw [bandValues, List.length_take, List.length_drop, Samples.length_toDoubles, h.samples_size]
  omega

/-- The mask of a band is its part of the whole mask. -/
theorem slice_mask (h : raster.Sized) (hband : band < raster.count) :
    (raster.mask.drop (band * raster.plane)).take raster.plane = raster.bandMask band := by
  rw [bandMask, if_pos hband, mask]
  apply slice_flatten_of_length
  · intro block hmem
    rw [List.eq_of_mem_replicate hmem, h.outside_length]
  · exact List.getElem?_replicate_of_lt hband

theorem length_samplesWhere (h : raster.Sized) (hband : band < raster.count) (masked : Bool) :
    (raster.samplesWhere band masked).length = (raster.bandMask band).count masked := by
  have hmask : ((raster.bandValues band).zip (raster.bandMask band)).map Prod.snd =
      raster.bandMask band := by
    apply List.map_snd_zip
    rw [length_bandMask h hband, length_bandValues h hband]
  rw [samplesWhere, List.length_map, ← List.countP_eq_length_filter]
  conv_rhs => rw [← hmask]
  rw [List.count, List.countP_map]
  rfl

/-- Each sample of a band is inside the feature or outside. -/
theorem countP_bandValues (h : raster.Sized) (hband : band < raster.count)
    (p : Double → Bool) : (raster.bandValues band).countP p =
      (raster.insideSamples band).countP p + (raster.outsideSamples band).countP p := by
  have hvalues : ((raster.bandValues band).zip (raster.bandMask band)).map Prod.fst =
      raster.bandValues band := by
    apply List.map_fst_zip
    rw [length_bandMask h hband, length_bandValues h hband]
  unfold insideSamples outsideSamples samplesWhere
  conv_lhs => rw [← hvalues]
  rw [List.countP_map, List.countP_map, List.countP_map,
    List.countP_eq_countP_filter_add _ _ fun pixel => pixel.2 == false]
  congr 3
  funext pixel
  cases pixel.2 <;> rfl

theorem validCount_add_maskedCount (h : raster.Sized) (hband : band < raster.count) :
    raster.validCount band + raster.maskedCount band = raster.plane := by
  have hall := countP_bandValues h hband fun _ => true
  rw [List.countP_true, length_bandValues h hband] at hall
  rw [hall, insideSamples, outsideSamples, length_samplesWhere h hband,
    length_samplesWhere h hband]
  rfl

end Band

end Raster

/-! ## Selected samples -/

theorem length_eq_countP_add_countP_not {α : Type} (p : α → Bool) (xs : List α) :
    xs.length = xs.countP p + xs.countP fun x => !p x := by
  rw [List.length_eq_countP_add_countP p]
  simp

namespace Selection

/-- The class of a sample is selected; a sample without a class never is. -/
def selects (selection : Selection) (sample : Double) : Bool :=
  (SceneClass.ofSample? sample).any selection.contains

/-- No sample is counted under two classes. -/
theorem sum_countP (selection : Selection) (samples : List Double) :
    (selection.classes.map fun c =>
      samples.countP fun x => SceneClass.ofSample? x = some c).sum =
      samples.countP selection.selects := by
  induction samples with
  | nil => simp
  | cons x rest ih =>
    have hcons : ∀ c, (x :: rest).countP (fun y => SceneClass.ofSample? y = some c) =
        if SceneClass.ofSample? x = some c
        then rest.countP (fun y => SceneClass.ofSample? y = some c) + 1
        else rest.countP fun y => SceneClass.ofSample? y = some c := by
      intro c
      rw [List.countP_cons]
      split <;> simp_all
    simp only [hcons]
    rw [List.countP_cons, ← ih, selects]
    rcases SceneClass.ofSample? x with _ | d
    · simp
    · simp only [Option.some.injEq, eq_comm (a := d)]
      rw [SceneClass.sum_map_add_at selection.nodup]
      simp [contains]

end Selection

/-! ## Accounts of rasters -/

namespace Account

section Raster

variable {raster : Raster}

theorem pixels_ofRaster (h : raster.Sized) (hplane : raster.plane < 2 ^ 63) :
    (Histogram.ofRaster raster).pixels = raster.plane := by
  have hlen := Raster.length_bandValues h h.count_pos
  rw [Histogram.ofRaster, (Histogram.counts_of_samples _ (by omega)).1, hlen]

theorem toNat_maskedCount (h : raster.Sized) (hplane : raster.plane < 2 ^ 63) :
    (UInt64.ofNat (raster.maskedCount 0)).toNat = raster.maskedCount 0 := by
  have hsum := Raster.validCount_add_maskedCount h h.count_pos
  rw [UInt64.toNat_ofNat']
  apply Nat.mod_eq_of_lt
  omega

theorem length_insideSamples (h : raster.Sized) :
    (raster.insideSamples 0).length = raster.validCount 0 :=
  Raster.length_samplesWhere h h.count_pos false

/-- Taking the masked pixels off the class of no data leaves in each class
the samples inside the feature. -/
theorem exactPixels_ofRaster (h : raster.Sized) (hplane : raster.plane < 2 ^ 63)
    (hmasked : ∀ x ∈ raster.outsideSamples 0, SceneClass.ofSample? x = some .noData)
    (c : SceneClass) :
    exactPixels (.ofRaster raster) (.ofNat (raster.maskedCount 0)) c =
      ((raster.insideSamples 0).countP fun x => SceneClass.ofSample? x = some c : Nat) := by
  have hlen := Raster.length_bandValues h h.count_pos
  have hcount := (Histogram.counts_of_samples (raster.bandValues 0) (by omega)).2 c
  have hout : (raster.outsideSamples 0).countP (fun x => SceneClass.ofSample? x = some c) =
      if c = .noData then raster.maskedCount 0 else 0 := by
    split
    · rename_i hc
      subst hc
      rw [List.countP_eq_length.2 fun x hx => decide_eq_true (hmasked x hx)]
      exact Raster.length_samplesWhere h h.count_pos true
    · rename_i hc
      rw [List.countP_eq_zero]
      intro x hx
      rw [hmasked x hx]
      simpa using Ne.symm hc
  rw [Raster.countP_bandValues h h.count_pos, hout] at hcount
  unfold exactPixels
  rw [toNat_maskedCount h hplane]
  rw [Histogram.ofRaster, hcount]
  split <;> omega

/-- The sums of the classes count the samples inside that the policy keeps,
those without a class included. -/
theorem exactKept_ofRaster (h : raster.Sized) (hplane : raster.plane < 2 ^ 63)
    (hmasked : ∀ x ∈ raster.outsideSamples 0, SceneClass.ofSample? x = some .noData)
    (selection : Selection) (policy : Policy) :
    exactKept (.ofRaster raster) (.ofNat (raster.maskedCount 0)) selection policy =
      ((raster.insideSamples 0).countP fun x => policy.keeps (selection.selects x) : Nat) := by
  have hsum : (selection.classes.map
      (exactPixels (.ofRaster raster) (.ofNat (raster.maskedCount 0)))).sum =
      ((raster.insideSamples 0).countP selection.selects : Nat) := by
    rw [← Selection.sum_countP, Nat.cast_list_sum, List.map_map]
    congr 2
    funext c
    exact exactPixels_ofRaster h hplane hmasked c
  cases policy with
  | whitelist => exact hsum
  | blacklist =>
    have hvalid := Raster.validCount_add_maskedCount h h.count_pos
    have hlen := length_insideSamples h
    have hsplit := length_eq_countP_add_countP_not selection.selects (raster.insideSamples 0)
    simp only [exactKept, hsum, pixels_ofRaster h hplane, toNat_maskedCount h hplane,
      Policy.keeps]
    omega

theorem toNat_inside_ofRaster (h : raster.Sized) (hplane : raster.plane < 2 ^ 63)
    (selection : Selection) (policy : Policy) :
    (ofRaster raster selection policy).inside.toNat = raster.validCount 0 := by
  have hvalid := Raster.validCount_add_maskedCount h h.count_pos
  have hpixels := pixels_ofRaster h hplane
  rw [ofRaster, toNat_inside (by omega), hpixels, toNat_maskedCount h hplane]
  omega

theorem toInt_pixels_ofRaster (h : raster.Sized) (hplane : raster.plane < 2 ^ 63)
    (hmasked : ∀ x ∈ raster.outsideSamples 0, SceneClass.ofSample? x = some .noData)
    (selection : Selection) (policy : Policy) (c : SceneClass) :
    ((ofRaster raster selection policy).pixels.get c).toInt =
      ((raster.insideSamples 0).countP fun x => SceneClass.ofSample? x = some c : Nat) := by
  have hvalid := Raster.validCount_add_maskedCount h h.count_pos
  have hpixels := pixels_ofRaster h hplane
  have hout := toNat_maskedCount h hplane
  show ((PerClass.ofFn (classPixels _ _)).get c).toInt = _
  rw [PerClass.get_ofFn, toInt_classPixels (by omega) (by omega),
    exactPixels_ofRaster h hplane hmasked]

/-- The bounds do nothing, as the kept samples are some of those inside. -/
theorem toNat_keptPixels_ofRaster (h : raster.Sized) (hplane : raster.plane < 2 ^ 63)
    (hmasked : ∀ x ∈ raster.outsideSamples 0, SceneClass.ofSample? x = some .noData)
    (selection : Selection) (policy : Policy) {inside : UInt64}
    (hinside : inside.toNat = raster.validCount 0) :
    (keptPixels (classPixels (.ofRaster raster) (.ofNat (raster.maskedCount 0))) inside
      selection policy).toNat =
      (raster.insideSamples 0).countP fun x => policy.keeps (selection.selects x) := by
  have hvalid := Raster.validCount_add_maskedCount h h.count_pos
  have hpixels := pixels_ofRaster h hplane
  have hout := toNat_maskedCount h hplane
  have hle : (raster.insideSamples 0).countP (fun x => policy.keeps (selection.selects x)) ≤
      (raster.insideSamples 0).length := List.countP_le_length
  rw [length_insideSamples h] at hle
  apply Int.ofNat_inj.1
  rw [toNat_keptPixels (by omega) (by omega) selection policy (by omega),
    exactKept_ofRaster h hplane hmasked, min_eq_left (by omega), max_eq_right (by omega)]

/-- What the policy discards are the other pixels inside. -/
theorem kept_ofRaster (h : raster.Sized) (hplane : raster.plane < 2 ^ 63)
    (hmasked : ∀ x ∈ raster.outsideSamples 0, SceneClass.ofSample? x = some .noData)
    {selection : Selection} (hselection : selection.isEmpty = false) (policy : Policy) :
    ∃ kept discarded,
      (ofRaster raster selection policy).kept = some kept ∧
      (ofRaster raster selection policy).discarded = some discarded ∧
      kept.toNat = (raster.insideSamples 0).countP
        (fun x => policy.keeps (selection.selects x)) ∧
      discarded.toNat = (raster.insideSamples 0).countP
        fun x => !policy.keeps (selection.selects x) := by
  have hinside := toNat_inside_ofRaster h hplane selection policy
  have hkept := toNat_keptPixels_ofRaster h hplane hmasked selection policy hinside
  have hsplit := length_eq_countP_add_countP_not (fun x => policy.keeps (selection.selects x))
    (raster.insideSamples 0)
  rw [length_insideSamples h] at hsplit
  set inside := (ofRaster raster selection policy).inside
  set kept := keptPixels (classPixels (.ofRaster raster) (.ofNat (raster.maskedCount 0)))
    inside selection policy
  have hsome : (ofRaster raster selection policy).kept = some kept := by
    show (if selection.isEmpty then none else some kept) = some kept
    rw [hselection]
    rfl
  refine ⟨kept, inside - kept, hsome, ?_, hkept, ?_⟩
  · show (ofRaster raster selection policy).kept.map (fun n => inside - n) = _
    rw [hsome]
    rfl
  · have hle : kept ≤ inside := by
      rw [UInt64.le_iff_toNat_le]
      omega
    rw [UInt64.toNat_sub_of_le _ _ hle]
    omega

end Raster

/-- The account of a decoded raster is the count of its pixels one by one,
if the samples outside the feature are all of no data: the pixels outside
and inside, the samples inside of each class, and those that the policy
keeps or discards. A sample of no class counts as one that is not
selected. -/
theorem account_counts_pixels_one_by_one {crop : Crop} {declared : Option Fill}
    {raster : Raster} (h : crop.decode declared = .ok raster) (hplane : raster.plane < 2 ^ 63)
    (hmasked : ∀ x ∈ raster.outsideSamples 0, SceneClass.ofSample? x = some .noData)
    (selection : Selection) (policy : Policy) :
    (ofRaster raster selection policy).outside.toNat = (raster.bandMask 0).count true ∧
      (ofRaster raster selection policy).inside.toNat = (raster.bandMask 0).count false ∧
      (∀ c, ((ofRaster raster selection policy).pixels.get c).toInt =
        ((raster.insideSamples 0).countP fun x => SceneClass.ofSample? x = some c : Nat)) ∧
      (selection.isEmpty = false → ∃ kept discarded,
        (ofRaster raster selection policy).kept = some kept ∧
        (ofRaster raster selection policy).discarded = some discarded ∧
        kept.toNat = (raster.insideSamples 0).countP
          (fun x => policy.keeps (selection.selects x)) ∧
        discarded.toNat = (raster.insideSamples 0).countP
          fun x => !policy.keeps (selection.selects x)) := by
  have hsized := Crop.decode_sized h
  refine ⟨toNat_maskedCount hsized hplane, toNat_inside_ofRaster hsized hplane selection policy,
    toInt_pixels_ofRaster hsized hplane hmasked selection policy, ?_⟩
  intro hselection
  exact kept_ofRaster hsized hplane hmasked hselection policy

/-- Three pixels: vegetation, a sample of no class, and one outside the
feature. -/
def threePixels : Crop where
  samples := .ofDoubles (.integer .uint8) ([4, 255, 0, 255, 255, 0].map .ofNat)
  shape := [2, 1, 3]

def threePixelsRaster : Raster where
  samples := .ofDoubles (.integer .uint8) ([4, 255, 0].map .ofNat)
  outside := [false, false, true]
  count := 1
  height := 1
  width := 3
  fill := .int 0
  bandNames := none

/-- Without the arable classes the sample of no class is kept, and the
vegetation discarded. -/
theorem three_pixels_without_the_arable_classes :
    threePixels.decode none = .ok threePixelsRaster ∧
      (ofRaster threePixelsRaster (.ofGroup .arable) .blacklist).inside.toNat = 2 ∧
      ∃ kept discarded,
        (ofRaster threePixelsRaster (.ofGroup .arable) .blacklist).kept = some kept ∧
        (ofRaster threePixelsRaster (.ofGroup .arable) .blacklist).discarded = some discarded ∧
        kept.toNat = 1 ∧ discarded.toNat = 1 := by
  have hdecode : threePixels.decode none = .ok threePixelsRaster := by decide +kernel
  have hmasked : ∀ x ∈ threePixelsRaster.outsideSamples 0,
      SceneClass.ofSample? x = some .noData := by decide +kernel
  obtain ⟨-, hinside, -, hkept⟩ := account_counts_pixels_one_by_one hdecode (by decide) hmasked
    (.ofGroup .arable) .blacklist
  obtain ⟨kept, discarded, hk, hd, hkeeps, hrest⟩ := hkept (by decide)
  refine ⟨hdecode, hinside.trans (by decide), kept, discarded, hk, hd, ?_, ?_⟩
  · rw [hkeeps]
    decide +kernel
  · rw [hrest]
    decide +kernel

end Account

end SceneMask
