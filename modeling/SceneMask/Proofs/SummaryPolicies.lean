-- What the summary keeps under the two policies. A response may have more
-- pixels of the selected classes than the record counts. The summary then
-- keeps all of them and discards none, while the account stays within the
-- pixels inside.
import Mathlib
import SceneMask.Proofs.PolicyDuality
import SceneMask.Proofs.SummaryAgreement

namespace SceneMask

namespace Policy

/-- The opposite policy keeps the rest, as long as there is one. -/
theorem amount_add_amount_opposite (all selected : Nat) (policy : Policy) :
    policy.amount all selected + policy.opposite.amount all selected = max all selected := by
  cases policy <;> simp only [amount, opposite] <;> omega

end Policy

namespace Summary

variable {record : Statistics} {histogram : Histogram} {count : Double} {n : Nat}

/-- A record with a histogram and a count has a summary for each policy. -/
theorem exists_summary (h : Histogram.ofStatistics record = .ok histogram)
    (htotal : histogram.pixels ≤ 2 ^ 53) (hcount : record.value .count = some count)
    (hexact : count.exact = .number (n : Int)) (hn : n ≤ 2 ^ 53) (selection : Selection)
    (policy : Policy) :
    ∃ summary, ofStatistics record selection policy = .ok summary ∧
      summary.kept.toNat = policy.amount n (histogram.selectedPixels selection) := by
  obtain ⟨summary, hsummary, -, hkept⟩ := ofStatistics_eq_ok h hcount selection policy
  refine ⟨summary, hsummary, ?_⟩
  rw [hkept]
  exact toNat_keptCount htotal selection hexact hn policy

/-- A whitelist keeps the selected pixels and a blacklist what the record
counts beyond them, so the two add up to the count just if it is not less
than the selected pixels. The account of the same pixels splits those inside
under any selection, with any number of pixels outside. -/
theorem kept_by_both_policies (h : Histogram.ofStatistics record = .ok histogram)
    (htotal : histogram.pixels ≤ 2 ^ 53) (hcount : record.value .count = some count)
    (hexact : count.exact = .number (n : Int)) (hn : n ≤ 2 ^ 53) (selection : Selection) :
    (∃ whitelisted blacklisted,
      ofStatistics record selection .whitelist = .ok whitelisted ∧
      ofStatistics record selection .blacklist = .ok blacklisted ∧
      whitelisted.kept.toNat = histogram.selectedPixels selection ∧
      blacklisted.kept.toNat = n - histogram.selectedPixels selection ∧
      (whitelisted.kept.toNat ≤ n ∧ blacklisted.kept.toNat ≤ n ∧
          whitelisted.kept.toNat + blacklisted.kept.toNat = n ↔
        histogram.selectedPixels selection ≤ n)) ∧
      ∀ outside, selection.isEmpty = false → ∃ kept other,
        (Account.ofHistogram histogram outside selection .whitelist).kept = some kept ∧
        (Account.ofHistogram histogram outside selection .blacklist).kept = some other ∧
        kept.toNat + other.toNat =
          (Account.ofHistogram histogram outside selection .whitelist).inside.toNat := by
  refine ⟨?_, ?_⟩
  · obtain ⟨whitelisted, hwhite, hkept⟩ :=
      exists_summary h htotal hcount hexact hn selection .whitelist
    obtain ⟨blacklisted, hblack, hrest⟩ :=
      exists_summary h htotal hcount hexact hn selection .blacklist
    refine ⟨whitelisted, blacklisted, hwhite, hblack, hkept, hrest, ?_⟩
    have hsum := Policy.amount_add_amount_opposite n (histogram.selectedPixels selection) .whitelist
    rw [← hkept, Policy.opposite, ← hrest] at hsum
    have hselected : whitelisted.kept.toNat = histogram.selectedPixels selection := hkept
    rw [hsum, ← hselected]
    omega
  · intro outside hselection
    exact Account.kept_add_kept_opposite (by omega) hselection .whitelist

/-- Of the nine pixels three are of vegetation, and six are not. -/
theorem nine_pixels_are_split :
    Histogram.ofStatistics nineRecord = .ok Account.ninePixels ∧
      ∃ whitelisted blacklisted,
        ofStatistics nineRecord Account.vegetationAndWater .whitelist = .ok whitelisted ∧
        ofStatistics nineRecord Account.vegetationAndWater .blacklist = .ok blacklisted ∧
        whitelisted.kept.toNat = 3 ∧ blacklisted.kept.toNat = 6 := by
  have hread : Histogram.ofStatistics nineRecord = .ok Account.ninePixels := by decide +kernel
  have hpixels : Account.ninePixels.pixels = 9 := by decide
  have hselected : Account.ninePixels.selectedPixels Account.vegetationAndWater = 3 := by decide
  have hnine : (.ofNat 9 : Double).exact = .number ((9 : Nat) : Int) :=
    Binary.exact_ofInt (Format.double_has_int (by decide))
  obtain ⟨⟨whitelisted, blacklisted, hwhite, hblack, hkept, hrest, -⟩, -⟩ :=
    kept_by_both_policies hread (by omega) rfl hnine (by omega) Account.vegetationAndWater
  rw [hselected] at hkept hrest
  exact ⟨hread, whitelisted, blacklisted, hwhite, hblack, hkept, hrest⟩

/-- A response with ten pixels of vegetation, in a record that counts five. -/
def fiveRecord : Statistics where
  value := fun m => if m = .count then some (.ofNat 5) else none
  histogram := some ⟨[.ofNat 10], [.ofNat 4]⟩

theorem ten_of_five_pixels_are_kept :
    (fiveRecord.value .count).map Binary.exact = some (.number 5) ∧
      (Histogram.ofStatistics fiveRecord).map Histogram.pixels = .ok 10 ∧
      (ofStatistics fiveRecord Account.vegetationAndWater .whitelist).map Summary.kept = .ok 10 ∧
      (ofStatistics fiveRecord Account.vegetationAndWater .blacklist).map Summary.kept = .ok 0 := by
  decide +kernel

end Summary

end SceneMask
