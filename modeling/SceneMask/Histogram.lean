-- Pixel counts by class. Samples that stand for no class are counted
-- apart and belong to the total only.
import SceneMask.PerClass
import SceneMask.Raster
import SceneMask.Statistics

namespace SceneMask

structure Histogram where
  counts : PerClass UInt64
  unrecognized : UInt64
deriving DecidableEq

namespace Histogram

def empty : Histogram := ⟨.ofFn fun _ => 0, 0⟩

def count (histogram : Histogram) (c : SceneClass) : UInt64 := histogram.counts.get c

def total (histogram : Histogram) : UInt64 :=
  histogram.counts.toList.foldr (· + ·) histogram.unrecognized

/-! ## Counting -/

/-- Counts `n` pixels of a class, or of no class. The counters are words
that wrap around; `tally?` is the count that halts where one would. -/
def tally (histogram : Histogram) (c : Option SceneClass) (n : UInt64) : Histogram :=
  match c with
  | some c => { histogram with counts := histogram.counts.set c (histogram.count c + n) }
  | none => { histogram with unrecognized := histogram.unrecognized + n }

def add (histogram : Histogram) (c : SceneClass) (n : UInt64) : Histogram :=
  histogram.tally (some c) n

def addSample (histogram : Histogram) (sample : Double) : Histogram :=
  histogram.tally (SceneClass.ofSample? sample) 1

def ofPairs (pairs : List (SceneClass × UInt64)) : Histogram :=
  pairs.foldl (fun histogram (c, n) => histogram.add c n) empty

/-- Counts all samples of the first band, masked ones included. -/
def ofRaster (raster : Raster) : Histogram := (raster.bandValues 0).foldl addSample empty

/-! ## From statistics -/

/-- A count of pixels: a whole number that is not negative. -/
def pixelCount (x : Double) : Except Fault UInt64 :=
  if x.isWhole && (Binary.zero false).le x then .ok x.toWord else .error (.notAPixelCount x)

def tallyPair (histogram : Histogram) (pair : Double × Double) : Except Fault Histogram := do
  let n ← pixelCount pair.1
  return histogram.tally (SceneClass.ofSample? pair.2) n

/-- The pixel counts of a record over a classification band, whose values
are class codes. -/
def ofStatistics (record : Statistics) : Except Fault Histogram :=
  match record.histogram with
  | none => .error (.missingKey "histogram")
  | some ⟨counts, labels⟩ =>
    if counts.length ≠ labels.length then
      .error (.histogramLengths counts.length labels.length)
    else (counts.zip labels).foldlM tallyPair empty

end Histogram

end SceneMask
