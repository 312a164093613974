-- Rescaling: each band is stretched so that its valid samples cover a
-- range of their own.
import SceneMask.Raster

namespace SceneMask

/-- The values that a band is stretched onto. -/
structure Range where
  low : Double
  high : Double
deriving DecidableEq

namespace Range

/-- A finite number, between blanks. -/
def readBound (cs : List Char) : Except Fault Double :=
  let cs := trimBlanks cs
  match (Binary.read? cs : Option Double) with
  | some x => if x.isFinite then .ok x else .error (.rangeNotANumber (String.ofList cs))
  | none => .error (.rangeNotANumber (String.ofList cs))

/-- Reads two finite numbers with a comma between them, the lower one
first. -/
def parse (text : String) : Except Fault Range :=
  match text.toList.splitOn ',' with
  | [low, high] => do
    let low ← readBound low
    let high ← readBound high
    if high.le low then throw (.emptyRange low high)
    return ⟨low, high⟩
  | _ => .error (.rangeShape text)

def toJson (range : Range) : Json :=
  .object [("lo", .real range.low), ("hi", .real range.high)]

def ofDocument? (document : Document) : Option Range := do
  let fields ← document.fields? ["lo", "hi"]
  return ⟨← fields.required? "lo" Document.double?, ← fields.required? "hi" Document.double?⟩

/-- The place in the range of a sample between `least` and `least + span`.
Masked samples and bands without span get the lower end. -/
def place (range : Range) (least span sample : Double) (masked : Bool) : Double :=
  let part := if masked || span.le (.zero false) then .zero false else (sample - least) / span
  range.low + part * (range.high - range.low)

end Range

namespace Raster

/-- The least and the greatest of some samples; the infinities if there
are none. -/
def extremes (samples : List Double) : Double × Double :=
  samples.foldl (fun (least, greatest) x => (least.min x, greatest.max x))
    (.infinite false, .infinite true)

/-- One band on its range. -/
def rescaleBand (raster : Raster) (range : Range) (band : Nat) : List Double :=
  let pixels := (raster.bandValues band).zip (raster.bandMask band)
  let (least, greatest) := extremes ((pixels.filter fun pixel => !pixel.2).map Prod.fst)
  pixels.map fun (sample, masked) => range.place least (greatest - least) sample masked

/-- Every band on its range. Integer samples are rounded, a half away from
zero. -/
def rescale (raster : Raster) (ranges : List Range) (type : SampleType) :
    Except Fault Samples :=
  if ranges.length ≠ raster.count then .error (.rangeCount ranges.length raster.count)
  else
    let placed := ranges.zipIdx.flatMap fun (range, band) => raster.rescaleBand range band
    .ok (.ofDoubles type (if type.isInteger then placed.map Binary.roundAway else placed))

end Raster

end SceneMask
