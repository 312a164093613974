-- The summary and the account of one classification response. The summary
-- counts in double precision over all pixels of the record, the account in
-- words over the pixels inside the feature. They differ by the pixels
-- outside where the policy keeps pixels of no data, and nowhere else.
import Mathlib
import SceneMask.Proofs.Conservation
import SceneMask.Proofs.WholeNumbers
import SceneMask.Summary

namespace SceneMask

/-- What a policy keeps of `all` pixels, of which some are selected. -/
def Policy.amount (all selected : Nat) : Policy → Nat
  | .whitelist => selected
  | .blacklist => all - selected

namespace Histogram

/-- The pixels of the selected classes, without the limit of a word. -/
def selectedPixels (histogram : Histogram) (selection : Selection) : Nat :=
  (selection.classes.map fun c => (histogram.count c).toNat).sum

theorem selectedPixels_le (histogram : Histogram) (selection : Selection) :
    histogram.selectedPixels selection ≤ histogram.pixels := by
  have hle := SceneClass.sum_map_le_all selection.nodup fun c => (histogram.count c).toNat
  unfold selectedPixels pixels
  omega

end Histogram

namespace Summary

/-! ## What the summary keeps -/

section Kept

variable {histogram : Histogram}

theorem exact_selected (h : histogram.pixels ≤ 2 ^ 53) (selection : Selection) :
    (selected histogram selection).exact =
      .number (histogram.selectedPixels selection : Int) := by
  have hle := histogram.selectedPixels_le selection
  have hsum : ((selection.classes.map histogram.count).foldr (· + ·) 0).toNat =
      histogram.selectedPixels selection := by
    unfold Histogram.selectedPixels at hle ⊢
    rw [← Histogram.map_toNat_counts] at hle ⊢
    rw [Histogram.toNat_foldr_add] <;> simp only [UInt64.toNat_zero] <;> omega
  unfold selected
  rw [hsum]
  exact Binary.exact_ofInt (Format.double_has_int_of_le (by omega))

/-- In double precision the counts stay exact, and a selection of more
pixels than the record counts leaves none. -/
theorem toNat_keptCount (h : histogram.pixels ≤ 2 ^ 53) (selection : Selection)
    {count : Double} {n : Nat} (hcount : count.exact = .number (n : Int)) (hn : n ≤ 2 ^ 53)
    (policy : Policy) :
    (keptCount count (selected histogram selection) policy).toWord.toNat =
      policy.amount n (histogram.selectedPixels selection) := by
  have hle := histogram.selectedPixels_le selection
  have hselected := exact_selected h selection
  cases policy with
  | whitelist =>
    show (selected histogram selection).toWord.toNat = histogram.selectedPixels selection
    exact Binary.toNat_toWord (by simpa using hselected) (by omega)
  | blacklist =>
    show ((count - selected histogram selection).max (.zero false)).toWord.toNat =
      n - histogram.selectedPixels selection
    have hdiff : (count - selected histogram selection).exact =
        .number ((n : Int) - histogram.selectedPixels selection : Int) := by
      rw [Int.cast_sub]
      apply Binary.exact_sub (by decide) hcount hselected
      rw [← Int.cast_sub]
      exact Format.double_has_int_of_le (by omega)
    have hmax := Binary.exact_max_zero (by decide) hdiff
    refine Binary.toNat_toWord (hmax.trans ?_) (by omega)
    rw [Exact.number.injEq]
    have hcast : max ((n : Int) - histogram.selectedPixels selection) 0 =
        ((n - histogram.selectedPixels selection : Nat) : Int) := by omega
    exact_mod_cast hcast

theorem ofStatistics_eq_ok {record : Statistics} {count : Double}
    (h : Histogram.ofStatistics record = .ok histogram)
    (hcount : record.value .count = some count) (selection : Selection) (policy : Policy) :
    ∃ summary, ofStatistics record selection policy = .ok summary ∧
      summary.counts = histogram.counts ∧
      summary.kept = (keptCount count (selected histogram selection) policy).toWord := by
  unfold ofStatistics
  rw [h, hcount]
  exact ⟨_, rfl, rfl, rfl⟩

end Kept

end Summary

/-! ## Summary and account -/

namespace Account

variable {histogram : Histogram} {outside : UInt64}

/-- The pixels outside were counted with those of no data. -/
theorem exactKept_add_outside (h : outside.toNat ≤ histogram.pixels) (selection : Selection)
    (policy : Policy) :
    exactKept histogram outside selection policy +
        (if policy.keeps (selection.contains .noData) then (outside.toNat : Int) else 0) =
      policy.amount histogram.pixels (histogram.selectedPixels selection) := by
  have hle := histogram.selectedPixels_le selection
  have hsum : (selection.classes.map (exactPixels histogram outside)).sum = _ :=
    sum_exactPixels selection.nodup
  have hcontains : selection.contains .noData = decide (.noData ∈ selection.classes) := rfl
  unfold Histogram.selectedPixels at hle ⊢
  rw [hcontains]
  by_cases hmem : .noData ∈ selection.classes
  · rw [if_pos hmem] at hsum
    cases policy <;> simp only [exactKept, Policy.keeps, Policy.amount, hmem, hsum, decide_true,
      Bool.not_true, Bool.false_eq_true, if_true, if_false] <;> omega
  · rw [if_neg hmem] at hsum
    cases policy <;> simp only [exactKept, Policy.keeps, Policy.amount, hmem, hsum, decide_false,
      Bool.not_false, Bool.false_eq_true, if_true, if_false] <;> omega

end Account

namespace Summary

/-- Both count the same pixels: the summary keeps as many as the account,
and the pixels outside as well if the policy keeps pixels of no data. Class
by class they differ in the class of no data only. -/
theorem summary_and_account_reconcile {record : Statistics} {histogram : Histogram}
    (h : Histogram.ofStatistics record = .ok histogram) (htotal : histogram.pixels ≤ 2 ^ 53)
    {count : Double} (hcount : record.value .count = some count)
    (hexact : count.exact = .number histogram.pixels) {selection : Selection}
    (hselection : selection.isEmpty = false) (policy : Policy) {outside : UInt64}
    (hout : outside.toNat ≤ (histogram.count .noData).toNat) :
    ∃ summary kept, ofStatistics record selection policy = .ok summary ∧
      (Account.ofHistogram histogram outside selection policy).kept = some kept ∧
      summary.kept.toNat = kept.toNat +
        (if policy.keeps (selection.contains .noData) then outside.toNat else 0) ∧
      ∀ c, ((summary.counts.get c).toNat : Int) =
        ((Account.ofHistogram histogram outside selection policy).pixels.get c).toInt +
          if c = .noData then (outside.toNat : Int) else 0 := by
  have hnoData := Histogram.count_le_pixels histogram .noData
  have hle := histogram.selectedPixels_le selection
  obtain ⟨summary, hsummary, hcounts, hkept⟩ := ofStatistics_eq_ok h hcount selection policy
  obtain ⟨inside, kept, hin, hkeeps, hsome, -⟩ :=
    Account.kept_ofHistogram histogram outside hselection policy
  have hwords : histogram.pixels < 2 ^ 63 := by omega
  have hcrop : outside.toNat ≤ histogram.pixels := by omega
  have hinside : inside.toNat = histogram.pixels - outside.toNat :=
    hin ▸ Account.toNat_inside hwords selection policy
  refine ⟨summary, kept, hsummary, hsome, ?_, ?_⟩
  · have hsum := Account.exactKept_add_outside hcrop selection policy
    rw [← Account.toNat_keptPixels_consistent hwords (by omega) hout hinside, ← hkeeps] at hsum
    rw [hkept, toNat_keptCount htotal selection (by simpa using hexact) htotal policy]
    cases hkeeping : policy.keeps (selection.contains .noData) with
    | false =>
      rw [hkeeping, if_neg (by decide)] at hsum
      rw [if_neg (by decide)]
      omega
    | true =>
      rw [hkeeping, if_pos rfl] at hsum
      rw [if_pos rfl]
      omega
  · intro c
    show ((summary.counts.get c).toNat : Int) =
      ((PerClass.ofFn (Account.classPixels histogram outside)).get c).toInt + _
    rw [hcounts, PerClass.get_ofFn, Account.toInt_classPixels hwords (by omega)]
    show ((histogram.count c).toNat : Int) = _
    unfold Account.exactPixels
    omega

/-- The response of the nine pixels: five of no data, three of vegetation
and one with an unknown label. -/
def nineRecord : Statistics where
  value := fun m => if m = .count then some (.ofNat 9) else none
  histogram := some ⟨[5, 3, 1].map .ofNat, [0, 4, 99].map .ofNat⟩

/-- Of no data and vegetation, the summary keeps all eight pixels, and the
account those of them that are inside. -/
theorem four_more_in_the_summary :
    Histogram.ofStatistics nineRecord = .ok Account.ninePixels ∧
      ∃ summary kept,
        ofStatistics nineRecord Account.noDataAndVegetation .whitelist = .ok summary ∧
        (Account.ofHistogram Account.ninePixels 4 Account.noDataAndVegetation .whitelist).kept
          = some kept ∧
        kept.toNat = 4 ∧ summary.kept.toNat = kept.toNat + 4 ∧
        ((summary.counts.get .noData).toNat : Int) = 1 + 4 := by
  have hread : Histogram.ofStatistics nineRecord = .ok Account.ninePixels := by decide +kernel
  have hpixels : Account.ninePixels.pixels = 9 := by decide
  have hcount : nineRecord.value .count = some (.ofNat 9) := rfl
  have hnine : (.ofNat 9 : Double).exact = .number Account.ninePixels.pixels := by
    rw [hpixels]
    exact Binary.exact_ofInt (Format.double_has_int (by decide))
  have hselection : Account.noDataAndVegetation.isEmpty = false := by decide
  have hout : (4 : UInt64).toNat ≤ (Account.ninePixels.count .noData).toNat := by decide
  obtain ⟨summary, kept, hsummary, hkept, hmore, hcounts⟩ :=
    summary_and_account_reconcile hread (by omega) hcount hnine hselection .whitelist hout
  have hfour : (Account.ofHistogram Account.ninePixels 4 Account.noDataAndVegetation
      .whitelist).kept = some 4 := by decide
  refine ⟨hread, summary, kept, hsummary, hkept, ?_, hmore, hcounts .noData⟩
  rw [hfour, Option.some.injEq] at hkept
  rw [← hkept]
  rfl

end Summary

end SceneMask
