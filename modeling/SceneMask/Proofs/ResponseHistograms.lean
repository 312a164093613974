-- The laws of histograms that come with a response. A response has two
-- lists side by side, counts and the labels that they count. They are read
-- pair by pair, so that no pixel is lost, and the order of the pairs does
-- not matter.
import Mathlib
import SceneMask.Proofs.HistogramCounts
import SceneMask.Proofs.WholeNumbers

namespace SceneMask

/-! ## Counts of pixels -/

namespace Binary

variable {f : Format}

/-- A whole number that is not negative. -/
def IsPixelCount (x : Binary f) : Prop := ∃ n : Nat, x.exact = .number n

/-- The number that a value is; 0 for what is not finite. -/
def toRat (x : Binary f) : ℚ := x.scaled / f.one

theorem toRat_of_exact {x : Binary f} {a : ℚ} (h : x.exact = .number a) : x.toRat = a :=
  scaled_div_one h

end Binary

namespace Histogram

theorem isPixelCount_iff {x : Double} :
    x.IsPixelCount ↔ x.isWhole = true ∧ (Binary.zero false).le x = true := by
  constructor
  · rintro ⟨n, hn⟩
    have hint : x.exact = .number (n : Int) := by simpa using hn
    refine ⟨(Binary.exact_eq_int_iff.1 hint).1, ?_⟩
    rw [Binary.zero_le_iff (by decide) hn]
    exact Nat.cast_nonneg n
  · rintro ⟨hwhole, hle⟩
    have hint : x.exact = .number x.truncate := Binary.exact_eq_int_iff.2 ⟨hwhole, rfl⟩
    rw [Binary.zero_le_iff (by decide) hint] at hle
    have hnonneg : 0 ≤ x.truncate := by exact_mod_cast hle
    obtain ⟨n, hn⟩ := Int.eq_ofNat_of_zero_le hnonneg
    refine ⟨n, ?_⟩
    rw [hint, hn]
    rfl

instance (x : Double) : Decidable x.IsPixelCount :=
  decidable_of_iff _ isPixelCount_iff.symm

theorem pixelCount_eq_ok_iff {x : Double} {n : UInt64} :
    pixelCount x = .ok n ↔ x.IsPixelCount ∧ n = x.toWord := by
  rw [isPixelCount_iff]
  unfold pixelCount
  by_cases hx : (x.isWhole && (Binary.zero false).le x) = true
  · rw [if_pos hx]
    simp [Bool.and_eq_true_iff.1 hx, eq_comm]
  · rw [if_neg hx]
    simp only [reduceCtorEq, false_iff]
    rintro ⟨hcount, -⟩
    exact hx (Bool.and_eq_true_iff.2 hcount)

theorem pixelCount_eq_error {x : Double} {fault : Fault} (h : pixelCount x = .error fault) :
    fault = .notAPixelCount x := by
  unfold pixelCount at h
  split at h
  · cases h
  · cases h
    rfl

/-! ## One pair -/

/-- The pixels that a pair counts, with their class. -/
def pairTally (pair : Double × Double) : Option SceneClass × UInt64 :=
  (SceneClass.ofSample? pair.2, pair.1.toWord)

theorem tallyPair_eq_ok_iff {histogram next : Histogram} {pair : Double × Double} :
    histogram.tallyPair pair = .ok next ↔
      pair.1.IsPixelCount ∧ next = histogram.tally (pairTally pair).1 (pairTally pair).2 := by
  unfold tallyPair
  rw [bind_eq_ok]
  simp only [pixelCount_eq_ok_iff]
  constructor
  · rintro ⟨n, ⟨hcount, rfl⟩, hnext⟩
    cases hnext
    exact ⟨hcount, rfl⟩
  · rintro ⟨hcount, rfl⟩
    exact ⟨_, ⟨hcount, rfl⟩, rfl⟩

theorem tallyPair_eq_error {histogram : Histogram} {pair : Double × Double} {fault : Fault}
    (h : histogram.tallyPair pair = .error fault) : fault = .notAPixelCount pair.1 := by
  unfold tallyPair at h
  rcases hcount : pixelCount pair.1 with cause | n
  · rw [hcount] at h
    cases h
    exact pixelCount_eq_error hcount
  · rw [hcount] at h
    cases h

/-! ## All pairs -/

theorem foldlM_tallyPair_eq_ok_iff {pairs : List (Double × Double)} {start result : Histogram} :
    pairs.foldlM tallyPair start = .ok result ↔
      (∀ pair ∈ pairs, pair.1.IsPixelCount) ∧
        result = (pairs.map pairTally).foldl (fun histogram t => histogram.tally t.1 t.2)
          start := by
  induction pairs generalizing start with
  | nil =>
    simp only [List.foldlM_nil, List.map_nil, List.foldl_nil]
    constructor
    · intro h
      cases h
      simp
    · rintro ⟨-, rfl⟩
      rfl
  | cons pair rest ih =>
    rw [List.foldlM_cons, bind_eq_ok, List.forall_mem_cons, List.map_cons, List.foldl_cons]
    simp only [tallyPair_eq_ok_iff, ih]
    constructor
    · rintro ⟨next, ⟨hpair, rfl⟩, hrest, hresult⟩
      exact ⟨⟨hpair, hrest⟩, hresult⟩
    · rintro ⟨⟨hpair, hrest⟩, hresult⟩
      exact ⟨_, ⟨hpair, rfl⟩, hrest, hresult⟩

theorem foldlM_tallyPair_eq_error {pairs : List (Double × Double)} {start : Histogram}
    {fault : Fault} (h : pairs.foldlM tallyPair start = .error fault) :
    ∃ pair ∈ pairs, fault = .notAPixelCount pair.1 := by
  induction pairs generalizing start with
  | nil => cases h
  | cons pair rest ih =>
    rw [List.foldlM_cons] at h
    rcases hpair : start.tallyPair pair with cause | next
    · rw [hpair] at h
      cases h
      exact ⟨pair, List.mem_cons_self, tallyPair_eq_error hpair⟩
    · rw [bind_of_eq_ok hpair] at h
      obtain ⟨other, hmem, hfault⟩ := ih h
      exact ⟨other, List.mem_cons_of_mem pair hmem, hfault⟩

end Histogram

/-! ## Responses -/

namespace ValueHistogram

def pairs (response : ValueHistogram) : List (Double × Double) :=
  response.counts.zip response.labels

/-- Every count has a label, and is a number of pixels. -/
structure Countable (response : ValueHistogram) : Prop where
  lengths : response.counts.length = response.labels.length
  counts : ∀ x ∈ response.counts, x.IsPixelCount

theorem Countable.map_fst_pairs {response : ValueHistogram} (h : response.Countable) :
    response.pairs.map Prod.fst = response.counts := List.map_fst_zip h.lengths.le

/-- The sum of the counts whose labels have a property, as an exact number. -/
def sumWhere (response : ValueHistogram) (p : Double → Bool) : ℚ :=
  ((response.pairs.filter fun pair => p pair.2).map fun pair => pair.1.toRat).sum

/-- The same pairs of a count and a label in another order. -/
structure Rearranges (other response : ValueHistogram) : Prop where
  counts : other.counts.Perm response.counts
  labels : other.labels.Perm response.labels
  pairs : other.pairs.Perm response.pairs

theorem Rearranges.symm {other response : ValueHistogram} (h : other.Rearranges response) :
    response.Rearranges other :=
  ⟨h.counts.symm, h.labels.symm, h.pairs.symm⟩

theorem Rearranges.countable {other response : ValueHistogram} (h : other.Rearranges response)
    (hresponse : response.Countable) : other.Countable := by
  refine ⟨?_, ?_⟩
  · rw [h.counts.length_eq, h.labels.length_eq, hresponse.lengths]
  · intro x hx
    exact hresponse.counts x (h.counts.mem_iff.1 hx)

end ValueHistogram

namespace Histogram

theorem ofStatistics_eq_ok_iff {record : Statistics} {histogram : Histogram} :
    ofStatistics record = .ok histogram ↔
      ∃ response, record.histogram = some response ∧ response.Countable ∧
        histogram = tallyAll (response.pairs.map pairTally) := by
  unfold ofStatistics
  rcases hresponse : record.histogram with _ | ⟨counts, labels⟩
  · simp
  simp only [Option.some.injEq, exists_eq_left']
  by_cases hlength : counts.length = labels.length
  · have hfst : (counts.zip labels).map Prod.fst = counts := List.map_fst_zip hlength.le
    have hcounts : (∀ pair ∈ counts.zip labels, pair.1.IsPixelCount) ↔
        ∀ x ∈ counts, x.IsPixelCount := by
      conv_rhs => rw [← hfst]
      rw [List.forall_mem_map]
    rw [if_neg (not_not.2 hlength), foldlM_tallyPair_eq_ok_iff, hcounts]
    constructor
    · rintro ⟨hall, hhistogram⟩
      exact ⟨⟨hlength, hall⟩, hhistogram⟩
    · rintro ⟨⟨-, hall⟩, hhistogram⟩
      exact ⟨hall, hhistogram⟩
  · rw [if_pos hlength]
    simp only [reduceCtorEq, false_iff]
    rintro ⟨⟨hlengths, -⟩, -⟩
    exact hlength hlengths

/-- A record without a histogram lacks a key; every other fault is one of
the payload. -/
theorem ofStatistics_eq_error {record : Statistics} {fault : Fault}
    (h : ofStatistics record = .error fault) :
    (record.histogram = none ∧ fault = .missingKey "histogram") ∨
      (record.histogram ≠ none ∧ ∃ reason, fault = .malformedPayload reason) := by
  unfold ofStatistics at h
  rcases hresponse : record.histogram with _ | ⟨counts, labels⟩
  · rw [hresponse] at h
    cases h
    exact Or.inl ⟨rfl, rfl⟩
  · rw [hresponse] at h
    refine Or.inr ⟨by simp, ?_⟩
    dsimp only at h
    split at h
    · cases h
      exact ⟨_, rfl⟩
    · obtain ⟨pair, -, rfl⟩ := foldlM_tallyPair_eq_error h
      exact ⟨_, rfl⟩

/-! ## Exact counts -/

section Exact

variable {response : ValueHistogram}

/-- No single count is more than all of them, so each of them fits into a
word. -/
theorem toNat_toWord_of_sum {counts : List Double} (h : ∀ x ∈ counts, x.IsPixelCount)
    (hsum : (counts.map Binary.toRat).sum < 2 ^ 64) {x : Double} (hx : x ∈ counts) :
    (x.toWord.toNat : ℚ) = x.toRat := by
  have hnonneg : ∀ q ∈ counts.map Binary.toRat, 0 ≤ q := by
    intro q hq
    obtain ⟨y, hy, rfl⟩ := List.mem_map.1 hq
    obtain ⟨m, hm⟩ := h y hy
    rw [Binary.toRat_of_exact hm]
    exact Nat.cast_nonneg m
  obtain ⟨n, hn⟩ := h x hx
  have hle := List.single_le_sum hnonneg _ (List.mem_map_of_mem hx)
  rw [Binary.toRat_of_exact hn] at hle ⊢
  have hfits : n < 2 ^ 64 := by exact_mod_cast hle.trans_lt hsum
  rw [Binary.toNat_toWord hn hfits]

theorem toNat_pairTally (h : response.Countable)
    (hsum : (response.counts.map Binary.toRat).sum < 2 ^ 64) {pair : Double × Double}
    (hpair : pair ∈ response.pairs) : ((pairTally pair).2.toNat : ℚ) = pair.1.toRat := by
  apply toNat_toWord_of_sum h.counts hsum
  rw [← h.map_fst_pairs]
  exact List.mem_map_of_mem hpair

theorem sum_tallies (h : response.Countable)
    (hsum : (response.counts.map Binary.toRat).sum < 2 ^ 64) :
    (((response.pairs.map pairTally).map fun t => t.2.toNat).sum : Nat) =
      (response.counts.map Binary.toRat).sum := by
  rw [Nat.cast_list_sum, ← h.map_fst_pairs, List.map_map, List.map_map, List.map_map]
  congr 1
  apply List.map_congr_left
  intro pair hpair
  exact toNat_pairTally h hsum hpair

theorem pixelsOf_tallies (h : response.Countable)
    (hsum : (response.counts.map Binary.toRat).sum < 2 ^ 64) (c : Option SceneClass) :
    (pixelsOf (response.pairs.map pairTally) c : ℚ) =
      response.sumWhere fun label => SceneClass.ofSample? label = c := by
  unfold pixelsOf ValueHistogram.sumWhere
  rw [List.filter_map, List.map_map, Nat.cast_list_sum, List.map_map]
  congr 1
  apply List.map_congr_left
  intro pair hpair
  exact toNat_pairTally h hsum (List.mem_filter.1 hpair).1

/-- The histogram has every pixel of the response, under the class whose
number the label is, or else apart. -/
structure Keeps (histogram : Histogram) (response : ValueHistogram) : Prop where
  classes : ∀ c, ((histogram.count c).toNat : ℚ) =
    response.sumWhere fun label => label.exact = .number c.value
  unrecognized : (histogram.unrecognized.toNat : ℚ) =
    response.sumWhere fun label => ∀ c ∈ SceneClass.all, label.exact ≠ .number c.value
  total : (histogram.total.toNat : ℚ) = (response.counts.map Binary.toRat).sum
  absent : ∀ c : SceneClass, (∀ label ∈ response.labels, label.exact ≠ .number c.value) →
    histogram.count c = 0

theorem keeps_tallyAll (h : response.Countable)
    (hsum : (response.counts.map Binary.toRat).sum < 2 ^ 64) :
    (tallyAll (response.pairs.map pairTally)).Keeps response := by
  have hall := sum_tallies h hsum
  have hfits : ((response.pairs.map pairTally).map fun t => t.2.toNat).sum < 2 ^ 64 := by
    rw [← hall] at hsum
    exact_mod_cast hsum
  obtain ⟨hpixels, hcounter⟩ := counts_of_tallies hfits
  have hclass : ∀ c : SceneClass,
      (((tallyAll (response.pairs.map pairTally)).count c).toNat : ℚ) =
        response.sumWhere fun label => label.exact = .number c.value := by
    intro c
    have hexact := pixelsOf_tallies h hsum (some c)
    simp only [SceneClass.ofSample?_eq_some_iff] at hexact
    rw [← hexact, ← hcounter (some c)]
    rfl
  constructor
  case classes => exact hclass
  case unrecognized =>
    have hexact := pixelsOf_tallies h hsum none
    simp only [SceneClass.ofSample?_eq_none_iff] at hexact
    rw [← hexact, ← hcounter none]
    rfl
  case total => rw [toNat_total (by omega), hpixels, hall]
  case absent =>
    intro c habsent
    have hzero := hclass c
    have hnone : (response.pairs.filter fun pair => decide (pair.2.exact = .number c.value))
        = [] := by
      rw [List.filter_eq_nil_iff]
      intro pair hpair
      simpa using habsent pair.2 (List.of_mem_zip hpair).2
    unfold ValueHistogram.sumWhere at hzero
    rw [hnone, List.map_nil, List.sum_nil, Nat.cast_eq_zero] at hzero
    exact UInt64.toNat_inj.1 hzero

end Exact

/-! ## The order of the pairs -/

theorem ofStatistics_of_rearranges {record record' : Statistics}
    {other response : ValueHistogram} (hrecord : record.histogram = some response)
    (hrecord' : record'.histogram = some other) (h : other.Rearranges response)
    {histogram : Histogram} (hread : ofStatistics record = .ok histogram) :
    ofStatistics record' = .ok histogram := by
  rw [ofStatistics_eq_ok_iff] at hread ⊢
  obtain ⟨_, hresponse, hcountable, rfl⟩ := hread
  obtain rfl : response = _ := Option.some.inj (hrecord.symm.trans hresponse)
  refine ⟨other, hrecord', h.countable hcountable, ?_⟩
  exact (tallyAll_perm (h.pairs.map pairTally)).symm

/-! ## The law -/

/-- Eleven pixels, two of them under the negative zero. -/
def elevenPixels : ValueHistogram where
  counts := [.ofNat 5, .ofNat 3, .ofNat 1, .ofNat 2]
  labels := [.ofNat 0, .ofNat 4, .ofNat 99, .zero true]

/-- The same pixels with the last pair first. -/
def elevenPixelsTurned : ValueHistogram where
  counts := [.ofNat 2, .ofNat 5, .ofNat 3, .ofNat 1]
  labels := [.zero true, .ofNat 0, .ofNat 4, .ofNat 99]

end Histogram

end SceneMask
