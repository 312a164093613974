-- The agreement of masks and accounts. The text of a mask is evaluated by
-- the service, test by test, while an account sums counters; both keep the
-- same pixels, those whose samples are of no class included.
import Mathlib
import SceneMask.Proofs.AccountCounts
import SceneMask.Proofs.Pieces

namespace SceneMask

/-! ## Selected samples -/

theorem Selection.selects_iff {selection : Selection} {x : Double} :
    selection.selects x = true ↔ ∃ c ∈ selection.classes, x.exact = .number c.value := by
  unfold selects contains
  simp only [Option.any_eq_true, decide_eq_true_eq, SceneClass.ofSample?_eq_some_iff]
  constructor
  · rintro ⟨c, hx, hc⟩
    exact ⟨c, hc, hx⟩
  · rintro ⟨c, hc, hx⟩
    exact ⟨c, hx, hc⟩

/-! ## Single expressions -/

namespace Expression

/-- The characters that balance depends on. -/
def structural (c : Char) : Bool := c = '(' || c = ')' || c = ','

theorem closes_filter (depth : Nat) (cs : List Char) :
    closes depth (cs.filter structural) = closes depth cs := by
  induction cs generalizing depth with
  | nil => rfl
  | cons c cs ih =>
    rw [List.filter_cons]
    split
    · simp only [closes, ih]
    · rename_i hc
      simp only [structural, Bool.or_eq_true, decide_eq_true_eq, not_or] at hc
      obtain ⟨⟨hopen, hclose⟩, hcomma⟩ := hc
      simp [closes, hopen, hclose, hcomma, ih]

theorem filter_dropWhile_isBlank (cs : List Char) :
    (cs.dropWhile isBlank).filter structural = cs.filter structural := by
  have hblank : ∀ c, isBlank c = true → structural c = false := by
    intro c hc
    by_contra hstructural
    simp only [structural, Bool.not_eq_false, Bool.or_eq_true, decide_eq_true_eq]
      at hstructural
    rcases hstructural with (rfl | rfl) | rfl <;> revert hc <;> decide
  induction cs with
  | nil => rfl
  | cons c cs ih =>
    rw [List.dropWhile_cons]
    split
    · rename_i hc
      rw [ih, List.filter_cons, hblank c hc]
      rfl
    · rfl

theorem closes_trimBlanks {cs : List Char} (h : closes 0 cs = true) :
    closes 0 (trimBlanks cs) = true := by
  rw [← closes_filter, trimBlanks, List.filter_reverse, filter_dropWhile_isBlank,
    List.filter_reverse, filter_dropWhile_isBlank, List.reverse_reverse, closes_filter, h]

end Expression

/-! ## Counting -/

theorem countP_eq_of_map_eq {α β γ : Type} {f : α → γ} {g : β → γ} {xs : List α} {ys : List β}
    (h : xs.map f = ys.map g) (p : γ → Bool) :
    xs.countP (fun x => p (f x)) = ys.countP fun y => p (g y) := by
  calc xs.countP (fun x => p (f x)) = (xs.map f).countP p := by rw [List.countP_map]; rfl
    _ = (ys.map g).countP p := by rw [h]
    _ = ys.countP fun y => p (g y) := by rw [List.countP_map]; rfl

namespace Mask

theorem keepsNumber_exact (mask : Mask) (x : Double) :
    mask.keepsNumber x.exact = mask.policy.keeps (mask.selection.selects x) := by
  unfold keepsNumber
  congr 1
  rw [Bool.eq_iff_iff, decide_eq_true_iff]
  exact Selection.selects_iff.symm

theorem arm_tree_eq_baseArm_iff {Value : Type} (mask : Mask) (base : Expression)
    (pixel : Pixel Value) :
    (mask.tree base).arm pixel mask.selection.size = mask.baseArm base ↔
      mask.keepsNumber (pixel.band mask.classBand.toList) = true := by
  rw [arm_tree]
  split
  · simp_all
  · rename_i hkeeps
    simp only [hkeeps, Bool.false_eq_true, iff_false]
    exact (mask.baseArm_ne_fillArm base).symm

theorem arm_tree_eq_fillArm_iff {Value : Type} (mask : Mask) (base : Expression)
    (pixel : Pixel Value) :
    (mask.tree base).arm pixel mask.selection.size = mask.fillArm ↔
      mask.keepsNumber (pixel.band mask.classBand.toList) = false := by
  rw [arm_tree]
  split
  · rename_i hkeeps
    simp only [hkeeps, Bool.true_eq_false, iff_false]
    exact mask.baseArm_ne_fillArm base
  · simp_all

/-! ## The law -/

/-- The text of a mask and the account under the same selection and policy
agree on every decoded raster whose samples outside the feature are all of
no data. If the class band of each pixel inside has the number of its
sample, then the pixels that the text leads to the base are as many as the
account keeps, and those that it leads to the fill as many as it discards. -/
theorem mask_and_account_keep_the_same_pixels {mask : Mask} (h : mask.Writable) {text : String}
    (hsingle : ';' ∉ text.toList) (hblank : trimBlanks text.toList ≠ [])
    (hclosed : Expression.closes 0 text.toList = true) {crop : Crop} {declared : Option Fill}
    {raster : Raster} (hdecode : crop.decode declared = .ok raster)
    (hplane : raster.plane < 2 ^ 63)
    (hmasked : ∀ x ∈ raster.outsideSamples 0, SceneClass.ofSample? x = some .noData) :
    ∃ entry base whole kept discarded,
      mask.compile (.expression text) = .ok (.expression (String.ofList (entry ++ [';']))) ∧
      Expression.read? (trimBlanks text.toList) = some base ∧
      Expression.read? entry = some whole ∧
      (Account.ofRaster raster mask.selection mask.policy).kept = some kept ∧
      (Account.ofRaster raster mask.selection mask.policy).discarded = some discarded ∧
      ∀ (Value : Type) (pixels : List (Pixel Value)),
        pixels.map (fun pixel => pixel.band mask.classBand.toList) =
          (raster.insideSamples 0).map Binary.exact →
        pixels.countP (fun pixel =>
          whole.arm pixel mask.selection.size = mask.baseArm base) = kept.toNat ∧
        pixels.countP (fun pixel =>
          whole.arm pixel mask.selection.size = mask.fillArm) = discarded.toNat := by
  obtain ⟨base, hbase⟩ := Expression.exists_read? _ (Expression.closes_trimBlanks hclosed)
  obtain ⟨kept, discarded, hkept, hdiscarded, hkeeps, hrest⟩ :=
    Account.kept_ofRaster (Crop.decode_sized hdecode) hplane hmasked h.selects mask.policy
  refine ⟨mask.wrap (trimBlanks text.toList), base, mask.tree base, kept, discarded, ?_, hbase,
    read?_wrap h hbase, hkept, hdiscarded, ?_⟩
  · have htarget : (Target.expression text).isAssets = false := rfl
    rw [compile_eq h htarget, Target.pieces, pieces_of_single hsingle hblank]
    unfold compilePieces wrapAll
    simp
  · intro Value pixels hpixels
    refine ⟨?_, ?_⟩
    · have hcount := countP_eq_of_map_eq hpixels mask.keepsNumber
      simp only [keepsNumber_exact] at hcount
      rw [hkeeps, ← hcount]
      simp only [arm_tree_eq_baseArm_iff, Bool.decide_eq_true]
    · have hcount := countP_eq_of_map_eq hpixels fun x => !mask.keepsNumber x
      simp only [keepsNumber_exact] at hcount
      rw [hrest, ← hcount]
      simp only [arm_tree_eq_fillArm_iff, Bool.decide_eq_false]

/-- A pixel with one number in every band, and nothing else. -/
def pixelOf (x : Exact) : Pixel Unit where
  band _ := x
  holds _ := false
  value _ := ()

/-- Of a sample of vegetation and one of no class, the arable classes keep
the first, in the text and in the account. -/
theorem two_pixels_inside_kept_and_discarded :
    ∃ entry base whole,
      arable.compile (.expression "b1/b2") = .ok (.expression (String.ofList (entry ++ [';']))) ∧
      Expression.read? (trimBlanks "b1/b2".toList) = some base ∧
      Expression.read? entry = some whole ∧
      (Account.ofRaster Account.threePixelsRaster arable.selection arable.policy).kept = some 1 ∧
      [pixelOf (.number 4), pixelOf (.number 255)].countP
        (fun pixel => whole.arm pixel arable.selection.size = arable.baseArm base) = 1 ∧
      [pixelOf (.number 4), pixelOf (.number 255)].countP
        (fun pixel => whole.arm pixel arable.selection.size = arable.fillArm) = 1 := by
  have hdecode : Account.threePixels.decode none = .ok Account.threePixelsRaster := by
    decide +kernel
  have hmasked : ∀ x ∈ Account.threePixelsRaster.outsideSamples 0,
      SceneClass.ofSample? x = some .noData := by decide +kernel
  have hkept : (Account.ofRaster Account.threePixelsRaster arable.selection
      arable.policy).kept = some 1 := by decide +kernel
  have hdiscarded : (Account.ofRaster Account.threePixelsRaster arable.selection
      arable.policy).discarded = some 1 := by decide +kernel
  have hpixels : [pixelOf (.number 4), pixelOf (.number 255)].map
      (fun pixel => pixel.band arable.classBand.toList) =
      (Account.threePixelsRaster.insideSamples 0).map Binary.exact := by decide +kernel
  obtain ⟨entry, base, whole, kept, discarded, hcompile, hread, hwhole, hk, hd, hcount⟩ :=
    mask_and_account_keep_the_same_pixels arable_writable
      (show ';' ∉ "b1/b2".toList by decide) (by decide +kernel) (by decide) hdecode (by decide)
      hmasked
  obtain ⟨hbase, hfill⟩ := hcount Unit _ hpixels
  rw [hkept] at hk
  rw [hdiscarded] at hd
  cases hk
  cases hd
  exact ⟨entry, base, whole, hcompile, hread, hwhole, hkept, hbase, hfill⟩

end Mask

end SceneMask
