-- The law of conservation for accounts: whatever the histogram and the
-- pixels outside, every pixel has its place in the account. The same
-- account in checked words, which stops at the first number that its word
-- does not hold, always comes to its end.
import Mathlib
import SceneMask.Proofs.AccountCounts

namespace SceneMask

/-! ## Checked words -/

namespace Checked

def add? (a b : UInt64) : Option UInt64 :=
  if a.toNat + b.toNat < 2 ^ 64 then some (a + b) else none

def sub? (a b : UInt64) : Option UInt64 := if b.toNat ≤ a.toNat then some (a - b) else none

/-- The same number as a signed word. -/
def signed? (a : UInt64) : Option Int64 := if a.toNat < 2 ^ 63 then some a.toInt64 else none

/-- The same number as an unsigned word. -/
def unsigned? (a : Int64) : Option UInt64 := if 0 ≤ a.toInt then some a.toUInt64 else none

def Fits (n : Int) : Prop := -2 ^ 63 ≤ n ∧ n < 2 ^ 63

instance (n : Int) : Decidable (Fits n) := inferInstanceAs (Decidable (_ ∧ _))

def addSigned? (a b : Int64) : Option Int64 :=
  if Fits (a.toInt + b.toInt) then some (a + b) else none

def subSigned? (a b : Int64) : Option Int64 :=
  if Fits (a.toInt - b.toInt) then some (a - b) else none

/-- Holds a number between two bounds, which have to be in order. -/
def clamp? (low high a : Int64) : Option Int64 :=
  if low.toInt ≤ high.toInt then some (max low (min a high)) else none

theorem foldlM_add? (xs : List UInt64) (start : UInt64)
    (h : start.toNat + (xs.map UInt64.toNat).sum < 2 ^ 64) :
    ∃ sum, xs.foldlM add? start = some sum ∧
      sum.toNat = start.toNat + (xs.map UInt64.toNat).sum := by
  induction xs generalizing start with
  | nil => exact ⟨start, rfl, rfl⟩
  | cons x rest ih =>
    rw [List.map_cons, List.sum_cons] at h ⊢
    have hstep : add? start x = some (start + x) := if_pos (by omega)
    have hsum : (start + x).toNat = start.toNat + x.toNat :=
      Histogram.toNat_add_of_lt (by omega)
    obtain ⟨sum, hrest, hall⟩ := ih (start + x) (by omega)
    refine ⟨sum, ?_, by omega⟩
    rw [List.foldlM_cons, hstep]
    exact hrest

theorem foldlM_add?_eq_none {xs : List UInt64} {start : UInt64}
    (h : 2 ^ 64 ≤ start.toNat + (xs.map UInt64.toNat).sum) : xs.foldlM add? start = none := by
  induction xs generalizing start with
  | nil =>
    have := start.toNat_lt
    simp at h
    omega
  | cons x rest ih =>
    rw [List.map_cons, List.sum_cons] at h
    rw [List.foldlM_cons]
    by_cases hfits : start.toNat + x.toNat < 2 ^ 64
    · have hsum : (start + x).toNat = start.toNat + x.toNat := Histogram.toNat_add_of_lt hfits
      have hstep : add? start x = some (start + x) := if_pos hfits
      rw [hstep]
      exact ih (by omega)
    · have hstep : add? start x = none := if_neg hfits
      rw [hstep]
      rfl

/-- Terms of both signs may leave the word at any step, so every part at the
front has to fit. -/
theorem foldlM_addSigned? {xs : List Int64} {start : Int64}
    (h : ∀ k, Fits (start.toInt + ((xs.take k).map Int64.toInt).sum)) :
    ∃ sum, xs.foldlM addSigned? start = some sum ∧
      sum.toInt = start.toInt + (xs.map Int64.toInt).sum := by
  induction xs generalizing start with
  | nil => exact ⟨start, rfl, by simp⟩
  | cons x rest ih =>
    have hfits : Fits (start.toInt + x.toInt) := by simpa using h 1
    have hstep : addSigned? start x = some (start + x) := if_pos hfits
    have hsum : (start + x).toInt = start.toInt + x.toInt :=
      toInt_add_of_bounds hfits.1 hfits.2
    have hfront : ∀ k, Fits ((start + x).toInt + ((rest.take k).map Int64.toInt).sum) := by
      intro k
      have hk := h (k + 1)
      rw [List.take_succ_cons, List.map_cons, List.sum_cons] at hk
      rw [hsum, Int.add_assoc]
      exact hk
    obtain ⟨sum, hrest, hall⟩ := ih hfront
    refine ⟨sum, ?_, ?_⟩
    · rw [List.foldlM_cons, hstep]
      exact hrest
    · rw [hall, hsum, List.map_cons, List.sum_cons, Int.add_assoc]

end Checked

/-! ## Accounts in checked words -/

namespace PerClass

variable {α : Type}

/-- The table of the values, if every class has one. -/
def ofFn? (value : SceneClass → Option α) : Option (PerClass α) :=
  if h : ∀ c ∈ SceneClass.all, (value c).isSome = true then
    some (.ofFn fun c => (value c).get (h c (SceneClass.mem_all c)))
  else none

theorem ofFn?_eq_some {value? : SceneClass → Option α} {value : SceneClass → α}
    (h : ∀ c, value? c = some (value c)) : ofFn? value? = some (ofFn value) := by
  have hsome : ∀ c ∈ SceneClass.all, (value? c).isSome = true := by simp [h]
  unfold ofFn?
  rw [dif_pos hsome]
  simp [h]

theorem get_ofFn_eq (value : SceneClass → α) : (ofFn value).get = value := by
  funext c
  exact get_ofFn value c

end PerClass

namespace Account

open Checked

def total? (histogram : Histogram) : Option UInt64 := do
  let classes ← histogram.counts.toList.foldlM add? 0
  add? classes histogram.unrecognized

def classPixels? (histogram : Histogram) (outside : UInt64) (c : SceneClass) :
    Option Int64 := do
  let n ← signed? (histogram.count c)
  if c = .noData then subSigned? n (← signed? outside) else return n

def keptPixels? (pixels : SceneClass → Int64) (inside : UInt64) (selection : Selection)
    (policy : Policy) : Option UInt64 := do
  let selected ← (selection.classes.map pixels).foldlM addSigned? 0
  let most ← signed? inside
  let kept ← match policy with
    | .whitelist => some selected
    | .blacklist => subSigned? most selected
  unsigned? (← clamp? 0 most kept)

/-- The account of a histogram, step by step in checked words. -/
def ofHistogram? (histogram : Histogram) (outside : UInt64) (selection : Selection)
    (policy : Policy) : Option Account := do
  let total ← total? histogram
  let inside := if outside ≤ total then total - outside else 0
  let crop ← add? inside outside
  let pixels ← PerClass.ofFn? (classPixels? histogram outside)
  let kept ← if selection.isEmpty then some none else
    (keptPixels? pixels.get inside selection policy).map some
  let discarded ← kept.elim (some none) fun n => (sub? inside n).map some
  return {
    inside
    outside
    insidePercent := wordPercent inside crop
    outsidePercent := wordPercent outside crop
    kept
    discarded
    keptPercent := kept.map fun n => wordPercent n inside
    discardedPercent := discarded.map fun n => wordPercent n inside
    pixels
    percents := .ofFn fun c => percent (.ofInt (pixels.get c).toInt) (.ofNat inside.toNat) }

section Checked

variable {histogram : Histogram} {outside : UInt64}

theorem total?_eq_some (h : histogram.pixels < 2 ^ 64) :
    total? histogram = some histogram.total := by
  have hcounts : histogram.counts.toList.map UInt64.toNat =
      SceneClass.all.map fun c => (histogram.count c).toNat := histogram.map_toNat_counts _
  have htotal := Histogram.toNat_total h
  unfold Histogram.pixels at h htotal
  obtain ⟨classes, hfold, hclasses⟩ :=
    foldlM_add? histogram.counts.toList 0 (by rw [hcounts]; simp; omega)
  rw [hcounts] at hclasses
  simp only [UInt64.toNat_zero, Nat.zero_add] at hclasses
  have hadd : add? classes histogram.unrecognized = some (classes + histogram.unrecognized) :=
    if_pos (by omega)
  have hsum : classes + histogram.unrecognized = histogram.total := by
    apply UInt64.toNat_inj.1
    rw [Histogram.toNat_add_of_lt (by omega), htotal, hclasses]
  rw [← hsum]
  simp [total?, hfold, hadd]

theorem signed?_eq_some {a : UInt64} (h : a.toNat < 2 ^ 63) : signed? a = some a.toInt64 :=
  if_pos h

theorem classPixels?_eq_some (htotal : histogram.pixels < 2 ^ 63)
    (hout : outside.toNat < 2 ^ 63) (c : SceneClass) :
    classPixels? histogram outside c = some (classPixels histogram outside c) := by
  have hcount := Histogram.count_le_pixels histogram c
  have hn : (histogram.count c).toNat < 2 ^ 63 := by omega
  unfold classPixels? classPixels
  by_cases hc : c = .noData
  · have hfits : Fits ((histogram.count c).toInt64.toInt - outside.toInt64.toInt) := by
      rw [toInt_toInt64 hn, toInt_toInt64 hout]
      constructor <;> omega
    subst hc
    simp [signed?_eq_some hn, signed?_eq_some hout, subSigned?, hfits]
  · simp [hc, signed?_eq_some hn]

/-- Bounds from zero to a word are in order, and what they hold is not
negative. -/
theorem unsigned?_clamp? {most : Int64} (h : 0 ≤ most.toInt) (a : Int64) :
    (clamp? 0 most a).bind unsigned? = some (max 0 (min a most)).toUInt64 := by
  have hlow : 0 ≤ (max 0 (min a most)).toInt := by
    rw [toInt_max]
    exact le_max_left _ _
  simp [clamp?, unsigned?, h, hlow]

/-- No sum of classes leaves its word on the way, and the bounds of what is
kept are in order. -/
theorem keptPixels?_eq_some (htotal : histogram.pixels < 2 ^ 63)
    (hout : outside.toNat < 2 ^ 63) {inside : UInt64}
    (hinside : inside.toNat = histogram.pixels - outside.toNat) (selection : Selection)
    (policy : Policy) :
    keptPixels? (classPixels histogram outside) inside selection policy =
      some (keptPixels (classPixels histogram outside) inside selection policy) := by
  have hsum := toInt_sum_classPixels htotal hout selection.nodup
  have hexact : ∀ cs : List SceneClass,
      ((cs.map (classPixels histogram outside)).map Int64.toInt).sum =
        (cs.map (exactPixels histogram outside)).sum := by
    intro cs
    rw [List.map_map]
    congr 2
    funext c
    exact toInt_classPixels htotal hout c
  have hfront : ∀ k, Fits ((0 : Int64).toInt +
      (((selection.classes.map (classPixels histogram outside)).take k).map Int64.toInt).sum) := by
    intro k
    have hnodup := (List.take_sublist k selection.classes).nodup selection.nodup
    obtain ⟨hlow, hhigh⟩ := sum_exactPixels_bounds histogram outside hnodup
    rw [← List.map_take, hexact]
    simp only [Int64.toInt_zero, Int.zero_add]
    constructor <;> omega
  obtain ⟨selected, hfold, hselected⟩ := foldlM_addSigned? hfront
  rw [hexact] at hselected
  have heq : selected =
      (selection.classes.map (classPixels histogram outside)).foldr (· + ·) 0 := by
    apply Int64.toInt_inj.1
    rw [hselected, hsum]
    simp
  have hin : inside.toInt64.toInt = inside.toNat := toInt_toInt64 (by omega)
  have hmost : signed? inside = some inside.toInt64 := signed?_eq_some (by omega)
  have hclamp : ∀ kept, (clamp? 0 inside.toInt64 kept).bind unsigned? =
      some (max 0 (min kept inside.toInt64)).toUInt64 := unsigned?_clamp? (by omega)
  unfold keptPixels? keptPixels
  rw [← heq, hfold]
  cases policy with
  | whitelist => simpa [hmost] using hclamp selected
  | blacklist =>
    obtain ⟨hlow, hhigh⟩ := sum_exactPixels_bounds histogram outside selection.nodup
    have hfits : Fits (inside.toInt64.toInt - selected.toInt) := by
      rw [hin, hselected]
      simp only [Int64.toInt_zero, Int.zero_add]
      constructor <;> omega
    have hsub : subSigned? inside.toInt64 selected = some (inside.toInt64 - selected) :=
      if_pos hfits
    simpa [hmost, hsub] using hclamp (inside.toInt64 - selected)

theorem sub?_keptPixels (pixels : SceneClass → Int64) {inside : UInt64}
    (h : inside.toNat < 2 ^ 63) (selection : Selection) (policy : Policy) :
    sub? inside (keptPixels pixels inside selection policy) =
      some (inside - keptPixels pixels inside selection policy) :=
  if_pos (UInt64.le_iff_toNat_le.1 (keptPixels_le pixels h selection policy))

/-- In checked words the account comes to its end, with the same result. -/
theorem ofHistogram?_eq_some (htotal : histogram.pixels < 2 ^ 63)
    (hout : outside.toNat < 2 ^ 63) (selection : Selection) (policy : Policy) :
    ofHistogram? histogram outside selection policy =
      some (ofHistogram histogram outside selection policy) := by
  have hinside : (if outside ≤ histogram.total then histogram.total - outside else 0).toNat =
      histogram.pixels - outside.toNat := toNat_inside htotal selection policy
  unfold ofHistogram? ofHistogram
  rw [total?_eq_some (by omega)]
  simp only [Option.bind_eq_bind, Option.bind_some]
  generalize (if outside ≤ histogram.total then histogram.total - outside else 0) = inside
    at hinside ⊢
  have hcrop : add? inside outside = some (inside + outside) := if_pos (by omega)
  have htable : PerClass.ofFn? (classPixels? histogram outside) =
      some (.ofFn (classPixels histogram outside)) :=
    PerClass.ofFn?_eq_some (classPixels?_eq_some htotal hout)
  have hkept := keptPixels?_eq_some htotal hout hinside selection policy
  have hword : inside.toNat < 2 ^ 63 := by omega
  have hsub := sub?_keptPixels (classPixels histogram outside) hword selection policy
  rw [hcrop, Option.bind_some, htable, Option.bind_some, PerClass.get_ofFn_eq, hkept]
  cases selection.isEmpty with
  | false => simp [hsub]
  | true => simp

end Checked

/-! ## No pixel is lost -/

/-- The pixels of some classes together. -/
def classSum (account : Account) (cs : List SceneClass) : Int :=
  (cs.map fun c => (account.pixels.get c).toInt).sum

/-- The pixels inside that the policy keeps, taken from those of the
classes. -/
def keptSum (account : Account) (selection : Selection) : Policy → Int
  | .whitelist => account.classSum selection.classes
  | .blacklist => account.inside.toNat - account.classSum selection.classes

/-- Every pixel of a crop has its place in the account. There may be more
pixels outside than the histogram has of no data, or has at all; then the
numbers still add up, but the bounds decide what is kept. -/
structure Conserves (account : Account) (histogram : Histogram) (outside : UInt64)
    (selection : Selection) (policy : Policy) : Prop where
  classes : account.classSum SceneClass.all + histogram.unrecognized.toNat =
    (histogram.pixels : Int) - outside.toNat
  outside_eq : account.outside = outside
  inside_eq : (account.inside.toNat : Int) = max 0 ((histogram.pixels : Int) - outside.toNat)
  crop : outside.toNat ≤ histogram.pixels →
    account.inside.toNat + account.outside.toNat = histogram.pixels
  unselected : selection.isEmpty = true → account.kept = none ∧ account.discarded = none ∧
    account.keptPercent = none ∧ account.discardedPercent = none
  selected : selection.isEmpty = false → ∃ kept discarded,
    account.kept = some kept ∧ account.discarded = some discarded ∧
    kept.toNat + discarded.toNat = account.inside.toNat ∧
    (outside.toNat ≤ (histogram.count .noData).toNat →
      (kept.toNat : Int) = account.keptSum selection policy)

section Conserved

variable {histogram : Histogram} {outside : UInt64}

theorem classSum_ofHistogram (htotal : histogram.pixels < 2 ^ 63)
    (hout : outside.toNat < 2 ^ 63) (selection : Selection) (policy : Policy)
    (cs : List SceneClass) :
    (ofHistogram histogram outside selection policy).classSum cs =
      (cs.map (exactPixels histogram outside)).sum := by
  have hpixels : ∀ c, ((ofHistogram histogram outside selection policy).pixels.get c).toInt =
      exactPixels histogram outside c := by
    intro c
    show ((PerClass.ofFn (classPixels histogram outside)).get c).toInt = _
    rw [PerClass.get_ofFn, toInt_classPixels htotal hout]
  unfold classSum
  simp only [hpixels]

theorem sum_exactPixels_all (histogram : Histogram) (outside : UInt64) :
    (SceneClass.all.map (exactPixels histogram outside)).sum + histogram.unrecognized.toNat =
      (histogram.pixels : Int) - outside.toNat := by
  rw [sum_exactPixels SceneClass.nodup_all, if_pos (SceneClass.mem_all _)]
  unfold Histogram.pixels
  omega

/-- If no more pixels are outside than there are of no data, a class has no
negative number of pixels, and some classes no more than all of them. -/
theorem sum_exactPixels_consistent (h : outside.toNat ≤ (histogram.count .noData).toNat)
    {cs : List SceneClass} (hcs : cs.Nodup) :
    0 ≤ (cs.map (exactPixels histogram outside)).sum ∧
      (cs.map (exactPixels histogram outside)).sum ≤ histogram.pixels - outside.toNat := by
  have hnat : exactPixels histogram outside =
      fun c => ((exactPixels histogram outside c).toNat : Int) := by
    funext c
    unfold exactPixels
    by_cases hc : c = .noData
    · subst hc
      rw [if_pos rfl]
      omega
    · rw [if_neg hc]
      omega
  have hcast : ∀ cs : List SceneClass, (cs.map (exactPixels histogram outside)).sum =
      ((cs.map fun c => (exactPixels histogram outside c).toNat).sum : Nat) := by
    intro cs
    conv_lhs => rw [hnat]
    rw [Nat.cast_list_sum, List.map_map]
    rfl
  have hle := SceneClass.sum_map_le_all hcs fun c => (exactPixels histogram outside c).toNat
  have hall := sum_exactPixels_all histogram outside
  rw [hcast] at hall ⊢
  constructor <;> omega

/-- Then the bounds of what is kept do nothing. -/
theorem toNat_keptPixels_consistent (htotal : histogram.pixels < 2 ^ 63)
    (hout : outside.toNat < 2 ^ 63) (h : outside.toNat ≤ (histogram.count .noData).toNat)
    {inside : UInt64} (hinside : inside.toNat = histogram.pixels - outside.toNat)
    (selection : Selection) (policy : Policy) :
    ((keptPixels (classPixels histogram outside) inside selection policy).toNat : Int) =
      exactKept histogram outside selection policy := by
  have hcount := Histogram.count_le_pixels histogram .noData
  obtain ⟨hlow, hhigh⟩ := sum_exactPixels_consistent h selection.nodup
  rw [toNat_keptPixels htotal hout selection policy hinside]
  unfold exactKept
  cases policy with
  | whitelist => dsimp only; omega
  | blacklist => dsimp only; omega

theorem kept_ofHistogram (histogram : Histogram) (outside : UInt64) {selection : Selection}
    (h : selection.isEmpty = false) (policy : Policy) :
    ∃ inside kept, (ofHistogram histogram outside selection policy).inside = inside ∧
      kept = keptPixels (classPixels histogram outside) inside selection policy ∧
      (ofHistogram histogram outside selection policy).kept = some kept ∧
      (ofHistogram histogram outside selection policy).discarded = some (inside - kept) := by
  refine ⟨_, _, rfl, rfl, ?_, ?_⟩ <;> simp [ofHistogram, h]

end Conserved

/-- Every account adds up, and no word overflows on the way to it: the
pixels of the classes and those without a class are the pixels that are
not outside, the pixels inside and outside are all pixels, and the pixels
kept and discarded are those inside. -/
theorem every_pixel_has_its_place (histogram : Histogram) (outside : UInt64)
    (htotal : histogram.pixels < 2 ^ 63) (hout : outside.toNat < 2 ^ 63)
    (selection : Selection) (policy : Policy) :
    ofHistogram? histogram outside selection policy =
        some (ofHistogram histogram outside selection policy) ∧
      (ofHistogram histogram outside selection policy).Conserves histogram outside selection
        policy := by
  have hinside : (ofHistogram histogram outside selection policy).inside.toNat =
      histogram.pixels - outside.toNat := toNat_inside htotal selection policy
  have hsum := classSum_ofHistogram htotal hout selection policy
  refine ⟨ofHistogram?_eq_some htotal hout selection policy, ?_⟩
  constructor
  case classes =>
    rw [hsum]
    exact sum_exactPixels_all histogram outside
  case outside_eq => rfl
  case inside_eq => omega
  case crop =>
    intro hle
    rw [hinside]
    show histogram.pixels - outside.toNat + outside.toNat = _
    omega
  case unselected =>
    intro hselection
    simp [ofHistogram, hselection]
  case selected =>
    intro hselection
    obtain ⟨inside, kept, hin, hkeeps, hkept, hdiscarded⟩ :=
      kept_ofHistogram histogram outside hselection policy
    rw [hin] at hinside
    have hbounds := toNat_keptPixels htotal hout selection policy hinside
    rw [← hkeeps] at hbounds
    have hle : kept ≤ inside := by
      rw [UInt64.le_iff_toNat_le]
      omega
    refine ⟨kept, inside - kept, hkept, hdiscarded, ?_, ?_⟩
    · rw [hin, UInt64.toNat_sub_of_le _ _ hle]
      omega
    · intro hconsistent
      rw [hkeeps, toNat_keptPixels_consistent htotal hout hconsistent hinside]
      unfold exactKept keptSum
      cases policy with
      | whitelist => dsimp only; rw [hsum]
      | blacklist => dsimp only; rw [hsum, hin, hinside]

/-- Five pixels of no data, three of vegetation and one of no class. -/
def ninePixels : Histogram :=
  (Histogram.ofPairs [(.noData, 5), (.vegetation, 3)]).tally none 1

def noDataAndVegetation : Selection := ⟨[.noData, .vegetation], by decide⟩

/-- Four of the nine pixels are outside. Without no data and vegetation the
pixel of no class remains. -/
theorem one_of_nine_pixels_is_kept :
    ninePixels.pixels < 2 ^ 63 ∧ (4 : UInt64).toNat < 2 ^ 63 ∧
      ∃ account, ofHistogram? ninePixels 4 noDataAndVegetation .blacklist = some account ∧
        account.classSum SceneClass.all + 1 = 5 ∧
        account.inside.toNat + account.outside.toNat = 9 ∧
        ∃ kept discarded, account.kept = some kept ∧ account.discarded = some discarded ∧
          kept.toNat + discarded.toNat = 5 ∧ kept.toNat = 1 := by
  have hpixels : ninePixels.pixels = 9 := by decide
  obtain ⟨hchecked, hconserves⟩ := every_pixel_has_its_place ninePixels 4 (by omega) (by decide)
    noDataAndVegetation .blacklist
  have hinside : (ofHistogram ninePixels 4 noDataAndVegetation .blacklist).inside = 5 := by decide
  obtain ⟨kept, discarded, hkept, hdiscarded, hsum, hexact⟩ := hconserves.selected (by decide)
  refine ⟨by omega, by decide, _, hchecked, ?_, ?_, kept, discarded, hkept, hdiscarded, ?_, ?_⟩
  · have hclasses := hconserves.classes
    rw [hpixels] at hclasses
    exact hclasses
  · rw [hconserves.crop (by decide), hpixels]
  · rw [hsum, hinside]
    rfl
  · have hone := hexact (by decide)
    have hfour : (ofHistogram ninePixels 4 noDataAndVegetation .blacklist).keptSum
        noDataAndVegetation .blacklist = 1 := by decide
    omega

end Account

end SceneMask
