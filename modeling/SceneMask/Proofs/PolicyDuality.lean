-- The two policies mirror each other. What one of them keeps the other one
-- discards, whatever the histogram and the pixels outside, and the order
-- of the selected classes counts for neither.
import Mathlib
import SceneMask.Proofs.Conservation

namespace SceneMask

/-- The policy that keeps what this one discards. -/
def Policy.opposite : Policy → Policy
  | whitelist => blacklist
  | blacklist => whitelist

namespace Account

/-- The same account with what is kept and what is discarded exchanged. -/
def exchanged (account : Account) : Account :=
  { account with
    kept := account.discarded
    discarded := account.kept
    keptPercent := account.discardedPercent
    discardedPercent := account.keptPercent }

/-! ## Opposite policies -/

section Opposite

variable {histogram : Histogram} {outside : UInt64}

/-- Without bounds, both policies together keep all pixels inside. -/
theorem exactKept_opposite (histogram : Histogram) (outside : UInt64) (selection : Selection)
    (policy : Policy) :
    exactKept histogram outside selection policy.opposite =
      ((histogram.pixels - outside.toNat : Nat) : Int)
        - exactKept histogram outside selection policy := by
  cases policy with
  | whitelist => rfl
  | blacklist =>
    simp only [Policy.opposite, exactKept]
    omega

/-- The bounds mirror each other too: a sum below none of the pixels leaves
all of them to the opposite policy, and one above all of them leaves none. -/
theorem keptPixels_opposite (htotal : histogram.pixels < 2 ^ 63) (hout : outside.toNat < 2 ^ 63)
    (selection : Selection) (policy : Policy) {inside : UInt64}
    (hinside : inside.toNat = histogram.pixels - outside.toNat) :
    keptPixels (classPixels histogram outside) inside selection policy.opposite =
      inside - keptPixels (classPixels histogram outside) inside selection policy := by
  have hkept := toNat_keptPixels htotal hout selection policy hinside
  have hopposite := toNat_keptPixels htotal hout selection policy.opposite hinside
  rw [exactKept_opposite, ← hinside] at hopposite
  have hword : inside.toNat < 2 ^ 63 := by omega
  have hle := keptPixels_le (classPixels histogram outside) hword selection policy
  apply UInt64.toNat_inj.1
  rw [UInt64.toNat_sub_of_le _ _ hle]
  omega

theorem ofHistogram_opposite (htotal : histogram.pixels < 2 ^ 63) (hout : outside.toNat < 2 ^ 63)
    (selection : Selection) (policy : Policy) :
    ofHistogram histogram outside selection policy.opposite =
      (ofHistogram histogram outside selection policy).exchanged := by
  have hinside : (if outside ≤ histogram.total then histogram.total - outside else 0).toNat =
      histogram.pixels - outside.toNat := toNat_inside htotal selection policy
  have hkept := keptPixels_opposite htotal hout selection policy hinside
  unfold ofHistogram exchanged
  cases hselection : selection.isEmpty with
  | true => simp
  | false => simp [hkept]

/-- What both policies keep adds up to the pixels inside. Where the pixels
outside are too many for a signed word there is nothing inside to keep. -/
theorem kept_add_kept_opposite (htotal : histogram.pixels < 2 ^ 63) {selection : Selection}
    (hselection : selection.isEmpty = false) (policy : Policy) :
    ∃ kept other, (ofHistogram histogram outside selection policy).kept = some kept ∧
      (ofHistogram histogram outside selection policy.opposite).kept = some other ∧
      kept.toNat + other.toNat = (ofHistogram histogram outside selection policy).inside.toNat := by
  have hinside : (ofHistogram histogram outside selection policy).inside.toNat =
      histogram.pixels - outside.toNat := toNat_inside htotal selection policy
  obtain ⟨inside, kept, hin, hkeeps, hkept, -⟩ :=
    kept_ofHistogram histogram outside hselection policy
  obtain ⟨inside', other, hin', hkeeps', hother, -⟩ :=
    kept_ofHistogram histogram outside hselection policy.opposite
  obtain rfl : inside' = inside := hin'.symm.trans hin
  refine ⟨kept, other, hkept, hother, ?_⟩
  rw [hin] at hinside ⊢
  have hword : inside'.toNat < 2 ^ 63 := by omega
  have hle := keptPixels_le (classPixels histogram outside) hword selection policy
  have hle' := keptPixels_le (classPixels histogram outside) hword selection policy.opposite
  rw [← hkeeps] at hle
  rw [← hkeeps'] at hle'
  have hbound := UInt64.le_iff_toNat_le.1 hle
  have hbound' := UInt64.le_iff_toNat_le.1 hle'
  by_cases hout : outside.toNat < 2 ^ 63
  · rw [keptPixels_opposite htotal hout selection policy hinside, ← hkeeps] at hkeeps'
    rw [hkeeps', UInt64.toNat_sub_of_le _ _ hle]
    omega
  · omega

end Opposite

/-! ## The order of the classes -/

theorem keptPixels_perm {selection other : Selection} (h : other.classes.Perm selection.classes)
    (pixels : SceneClass → Int64) (inside : UInt64) (policy : Policy) :
    keptPixels pixels inside other policy = keptPixels pixels inside selection policy := by
  have hsum : (other.classes.map pixels).foldr (· + ·) 0 =
      (selection.classes.map pixels).foldr (· + ·) 0 :=
    (h.map pixels).foldr_op_eq
  unfold keptPixels
  rw [hsum]

theorem ofHistogram_perm {selection other : Selection}
    (h : other.classes.Perm selection.classes) (histogram : Histogram) (outside : UInt64)
    (policy : Policy) :
    ofHistogram histogram outside other policy =
      ofHistogram histogram outside selection policy := by
  have hempty : other.isEmpty = selection.isEmpty := h.isEmpty_eq
  unfold ofHistogram
  simp only [hempty, keptPixels_perm h]

/-! ## The law -/

/-- The opposite policy gives the same account, with what is kept and what
is discarded exchanged, and a selection in another order gives the same
account altogether. This needs no consistent numbers: there may be more
pixels outside than the histogram has of no data, or has at all. -/
theorem the_policies_mirror_each_other (histogram : Histogram) (outside : UInt64)
    (htotal : histogram.pixels < 2 ^ 63) (hout : outside.toNat < 2 ^ 63)
    (selection : Selection) (policy : Policy) :
    ofHistogram histogram outside selection policy.opposite =
        (ofHistogram histogram outside selection policy).exchanged ∧
      ∀ other : Selection, other.classes.Perm selection.classes →
        ofHistogram histogram outside other policy =
          ofHistogram histogram outside selection policy := by
  refine ⟨ofHistogram_opposite htotal hout selection policy, ?_⟩
  intro other hperm
  exact ofHistogram_perm hperm histogram outside policy

def vegetationAndWater : Selection := ⟨[.vegetation, .water], by decide⟩

def waterAndVegetation : Selection := ⟨[.water, .vegetation], by decide⟩

/-- Seven of nine pixels are outside, more than there are of no data, and
three are of vegetation, more than the two inside. -/
theorem three_selected_pixels_of_two_inside :
    ninePixels.pixels < 2 ^ 63 ∧ (7 : UInt64).toNat < 2 ^ 63 ∧
      (ofHistogram ninePixels 7 vegetationAndWater .whitelist).kept = some 2 ∧
      (ofHistogram ninePixels 7 vegetationAndWater .blacklist).discarded = some 2 ∧
      (ofHistogram ninePixels 7 waterAndVegetation .whitelist).kept = some 2 := by
  have hpixels : ninePixels.pixels = 9 := by decide
  have hkept : (ofHistogram ninePixels 7 vegetationAndWater .whitelist).kept = some 2 := by decide
  obtain ⟨hmirror, horder⟩ := the_policies_mirror_each_other ninePixels 7 (by omega) (by decide)
    vegetationAndWater .whitelist
  have hperm : waterAndVegetation.classes.Perm vegetationAndWater.classes := by decide
  refine ⟨by omega, by decide, hkept, ?_, ?_⟩
  · rw [show Policy.blacklist = Policy.whitelist.opposite from rfl, hmirror]
    exact hkept
  · rw [horder waterAndVegetation hperm]
    exact hkept

end Account

end SceneMask
