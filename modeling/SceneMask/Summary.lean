-- Summaries of the statistics of a classification band: how many pixels a
-- policy keeps, and the share of each class. All shares are percent of the
-- count of the record.
import SceneMask.Account

namespace SceneMask

structure Summary where
  kept : UInt64
  keptPercent : Double
  counts : PerClass UInt64
  percents : PerClass Double
deriving DecidableEq

namespace Summary

/-- The pixels of a selection, added as words that wrap around; `selected?`
is the sum that halts where one would. -/
def selected (histogram : Histogram) (selection : Selection) : Double :=
  .ofNat ((selection.classes.map histogram.count).foldr (· + ·) 0).toNat

/-- The pixels that the policy keeps of `count` pixels. -/
def keptCount (count selected : Double) : Policy → Double
  | .whitelist => selected
  | .blacklist => (count - selected).max (.zero false)

def ofStatistics (record : Statistics) (selection : Selection) (policy : Policy) :
    Except Fault Summary := do
  let count ← (record.value .count).elim (.error (.missingKey "count")) .ok
  let histogram ← Histogram.ofStatistics record
  let kept := keptCount count (selected histogram selection) policy
  return {
    kept := kept.toWord
    keptPercent := percent kept count
    counts := histogram.counts
    percents := histogram.counts.map fun n => percent (.ofNat n.toNat) count }

def countsJson (summary : Summary) : Json := summary.counts.toJson fun n => .natural n.toNat

def percentsJson (summary : Summary) : Json := summary.percents.toJson .real

def toJson (summary : Summary) : Json :=
  .object [
    ("whitelist_pixels", .natural summary.kept.toNat),
    ("whitelist_pct", .real summary.keptPercent),
    ("hist_count", summary.countsJson),
    ("hist_pct", summary.percentsJson)]

end Summary

/-- Takes the summary of a classification band into a record, in place of
the histogram. -/
def Statistics.withSummary (record : Statistics) (summary : Summary) : Statistics :=
  ((record.set .whitelistPixels (.ofNat summary.kept.toNat)).set .whitelistPercent
    summary.keptPercent).dropHistogram

end SceneMask
