-- The accounts of single bands. They count the mask of each band, while the
-- account of a raster classifies the samples of the first band and takes the
-- masked ones off. Both come to the same pixels inside and outside the
-- feature, whatever the samples are.
import Mathlib
import SceneMask.Proofs.AccountCounts

namespace SceneMask

/-! ## Masks of bands -/

namespace Raster

variable {raster : Raster}

/-- All bands have the mask of the first one. -/
theorem bandMask_eq_first (h : raster.Sized) {band : Nat} (hband : band < raster.count) :
    raster.bandMask band = raster.bandMask 0 := by
  rw [bandMask, bandMask, if_pos hband, if_pos h.count_pos]

theorem length_bandLabels (h : ∀ names ∈ raster.bandNames, names.length = raster.count) :
    raster.bandLabels.length = raster.count := by
  unfold bandLabels
  cases hnames : raster.bandNames with
  | none => simp
  | some names => exact h names hnames

end Raster

theorem Account.percents_ofRaster (raster : Raster) (selection : Selection) (policy : Policy) :
    let account := Account.ofRaster raster selection policy
    account.insidePercent = wordPercent account.inside (account.inside + account.outside) ∧
      account.outsidePercent = wordPercent account.outside (account.inside + account.outside) := by
  simp only [Account.ofRaster, Account.ofHistogram, and_self]

namespace BandAccount

/-- A band and the raster have the same pixels inside and outside the
feature, and the same shares. -/
structure Agrees (band : BandAccount) (account : Account) : Prop where
  inside : band.inside = account.inside
  outside : band.outside = account.outside
  insidePercent : band.insidePercent = account.insidePercent
  outsidePercent : band.outsidePercent = account.outsidePercent

/-! ## One band -/

theorem percents_ofBand (raster : Raster) (name : String) (band : Nat) :
    let account := ofBand raster name band
    account.insidePercent = wordPercent account.inside (account.inside + account.outside) ∧
      account.outsidePercent = wordPercent account.outside (account.inside + account.outside) := by
  simp only [ofBand, and_self]

section Band

variable {raster : Raster} (h : raster.Sized) (hplane : raster.plane < 2 ^ 63)
  {band : Nat} (hband : band < raster.count) (name : String)

include h hplane hband

theorem toNat_counts :
    (ofBand raster name band).inside.toNat = raster.validCount band ∧
      (ofBand raster name band).outside.toNat = raster.maskedCount band := by
  have hsum := Raster.validCount_add_maskedCount h hband
  have hsize : UInt64.size = 2 ^ 64 := rfl
  constructor
  · exact UInt64.toNat_ofNat_of_lt' (by omega)
  · exact UInt64.toNat_ofNat_of_lt' (by omega)

/-- Classifying the samples loses none of them, so the pixels that are left
without the masked ones are those that the mask leaves open. -/
theorem agrees_ofBand (selection : Selection) (policy : Policy) :
    (ofBand raster name band).Agrees (Account.ofRaster raster selection policy) := by
  have hmask := Raster.bandMask_eq_first h hband
  have hinside : (ofBand raster name band).inside =
      (Account.ofRaster raster selection policy).inside := by
    apply UInt64.toNat_inj.1
    rw [(toNat_counts h hplane hband name).1, Account.toNat_inside_ofRaster h hplane,
      Raster.validCount, hmask, Raster.validCount]
  have houtside : (ofBand raster name band).outside =
      (Account.ofRaster raster selection policy).outside := by
    show UInt64.ofNat (raster.maskedCount band) = UInt64.ofNat (raster.maskedCount 0)
    rw [Raster.maskedCount, hmask, Raster.maskedCount]
  obtain ⟨hpercent, hpercent'⟩ := percents_ofBand raster name band
  obtain ⟨htotal, htotal'⟩ := Account.percents_ofRaster raster selection policy
  rw [hinside, houtside] at hpercent hpercent'
  exact ⟨hinside, houtside, hpercent.trans htotal.symm, hpercent'.trans htotal'.symm⟩

end Band

/-! ## All bands -/

theorem ofRaster_of_length {raster : Raster} {names : Option (List String)}
    (h : (names.getD raster.bandLabels).length = raster.count) :
    ofRaster raster names = .ok ((names.getD raster.bandLabels).zipIdx.map
      fun (name, band) => ofBand raster name band) := by
  unfold ofRaster
  simp only [h, ne_eq, not_true, if_false]

theorem ofBand_of_getElem? {raster : Raster} {names : List String} {band : Nat}
    {account : BandAccount}
    (h : (names.zipIdx.map fun (name, band) => ofBand raster name band)[band]? = some account) :
    band < names.length ∧ ∃ name, ofBand raster name band = account := by
  rw [List.getElem?_map, List.getElem?_zipIdx, Option.map_map, Nat.zero_add] at h
  obtain ⟨name, hname, haccount⟩ := Option.map_eq_some_iff.1 h
  exact ⟨(List.getElem?_eq_some_iff.1 hname).1, name, haccount⟩

/-- The accounts of the bands of a decoded raster agree with the account of
the raster, for every selection and policy. There is one for each data band,
under the given names or else the labels of the raster. It counts the mask of
its band, so its pixels are all those of the plane, and these counts and their
shares are those of the raster. Names that are not as many as the bands are
refused. -/
theorem band_accounts_agree_with_the_account {crop : Crop} {declared : Option Fill}
    {raster : Raster} (h : crop.decode declared = .ok raster) (hplane : raster.plane < 2 ^ 63)
    (names : Option (List String)) :
    (∀ given ∈ names, given.length ≠ raster.count → ofRaster raster names =
      .error (.configuration "band_names"
        (showNat given.length ++ " names for " ++ showNat raster.count ++ " data bands"))) ∧
    ((∀ given ∈ names, given.length = raster.count) →
      ∃ accounts, ofRaster raster names = .ok accounts ∧
        crop.shape = [accounts.length + 1, raster.height, raster.width] ∧
        accounts.map BandAccount.band = names.getD raster.bandLabels ∧
        ∀ (band : Nat) (account : BandAccount), accounts[band]? = some account →
          account.inside.toNat =
            ((raster.mask.drop (band * raster.plane)).take raster.plane).count false ∧
          account.outside.toNat =
            ((raster.mask.drop (band * raster.plane)).take raster.plane).count true ∧
          account.inside.toNat + account.outside.toNat = raster.height * raster.width ∧
          ∀ (selection : Selection) (policy : Policy),
            account.Agrees (Account.ofRaster raster selection policy)) := by
  have hsized := Crop.decode_sized h
  obtain ⟨hshape, hunnamed⟩ := Crop.decode_shape h
  refine ⟨?_, ?_⟩
  · rintro given rfl hlength
    unfold ofRaster
    rw [Option.getD_some, if_pos hlength]
    rfl
  · intro hgiven
    have hlength : (names.getD raster.bandLabels).length = raster.count := by
      cases names with
      | none => exact Raster.length_bandLabels (by simp [hunnamed])
      | some given => exact hgiven given rfl
    refine ⟨_, ofRaster_of_length hlength, ?_, ?_, ?_⟩
    · rw [List.length_map, List.length_zipIdx, hlength, hshape]
    · rw [List.map_map]
      exact List.zipIdx_map_fst 0 _
    · intro band account haccount
      obtain ⟨hband, name, rfl⟩ := ofBand_of_getElem? haccount
      rw [hlength] at hband
      obtain ⟨hinside, houtside⟩ := toNat_counts hsized hplane hband name
      rw [Raster.slice_mask hsized hband, hinside, houtside]
      exact ⟨rfl, rfl, Raster.validCount_add_maskedCount hsized hband,
        agrees_ofBand hsized hplane hband name⟩

/-- Two data bands of two pixels, the second one outside the feature. No
sample is of a class. -/
def twoBands : Crop where
  samples := .ofDoubles (.integer .uint8) ([200, 100, 50, 25, 255, 0].map .ofNat)
  shape := [3, 1, 2]

def twoBandsRaster : Raster where
  samples := .ofDoubles (.integer .uint8) ([200, 100, 50, 25].map .ofNat)
  outside := [false, true]
  count := 2
  height := 1
  width := 2
  fill := .int 0
  bandNames := none

theorem half_of_each_band_is_inside :
    twoBands.decode none = .ok twoBandsRaster ∧
      ofRaster twoBandsRaster (some ["nir"]) =
        .error (.configuration "band_names" "1 names for 2 data bands") ∧
      ∃ accounts, ofRaster twoBandsRaster (some ["nir", "red"]) = .ok accounts ∧
        accounts.map BandAccount.band = ["nir", "red"] ∧
        ∀ account ∈ accounts, account.inside.toNat = 1 ∧ account.outside.toNat = 1 ∧
          account.Agrees (Account.ofRaster twoBandsRaster (.ofGroup .arable) .blacklist) := by
  have hdecode : twoBands.decode none = .ok twoBandsRaster := by decide +kernel
  have hplane : twoBandsRaster.plane < 2 ^ 63 := by decide
  have hrefused := (band_accounts_agree_with_the_account hdecode hplane (some ["nir"])).1
  obtain ⟨accounts, haccounts, -, hnames, hcounts⟩ :=
    (band_accounts_agree_with_the_account hdecode hplane (some ["nir", "red"])).2
      (by rintro given ⟨⟩; rfl)
  refine ⟨hdecode, ?_, accounts, haccounts, hnames, ?_⟩
  · rw [hrefused _ rfl (by decide)]
    decide +kernel
  · intro account hmem
    obtain ⟨band, hband, rfl⟩ := List.mem_iff_getElem.1 hmem
    obtain ⟨hinside, houtside, -, hagrees⟩ :=
      hcounts band accounts[band] (List.getElem?_eq_getElem hband)
    have hlength : accounts.length = 2 := by
      have hnamed := congrArg List.length hnames
      rwa [List.length_map] at hnamed
    have hmask : ∀ b < 2, ((twoBandsRaster.mask.drop (b * twoBandsRaster.plane)).take
        twoBandsRaster.plane) = [false, true] := by decide
    rw [hmask band (by omega)] at hinside houtside
    exact ⟨hinside, houtside, hagrees _ _⟩

end BandAccount

end SceneMask
