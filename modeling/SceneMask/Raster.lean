-- Masked rasters. The last band of a crop is its alpha band: a pixel with
-- alpha zero lies outside the feature, in every data band.
import SceneMask.Samples

namespace SceneMask

/-! ## Description -/

/-- What a raster says about itself. -/
structure Description where
  count : Nat
  height : Nat
  width : Nat
  type : SampleType
  fill : Fill
  bandNames : Option (List String)
deriving DecidableEq

namespace Description

def fieldNames : List String := ["count", "height", "width", "dtype", "nodata", "band_names"]

/-- Band names are left out where there are none. -/
def toJson (d : Description) : Json :=
  .object ([
    ("count", .natural d.count),
    ("height", .natural d.height),
    ("width", .natural d.width),
    ("dtype", d.type.toJson),
    ("nodata", d.fill.toJson)]
    ++ d.bandNames.toList.map fun names => ("band_names", .strings names))

def ofDocument? (document : Document) : Option Description := do
  let fields ← document.fields? fieldNames
  return {
    count := (← fields.required? "count" Document.natural?).toNat
    height := (← fields.required? "height" Document.natural?).toNat
    width := (← fields.required? "width" Document.natural?).toNat
    type := ← fields.required? "dtype" SampleType.ofDocument?
    fill := ← fields.required? "nodata" Fill.ofDocument?
    bandNames := ← fields.optional? "band_names"
      (Document.nullable? (Document.list? Document.text?)) none }

end Description

/-! ## Rasters -/

/-- Data bands, one after the other and each row by row, and which pixels
of a band lie outside the feature. -/
structure Raster where
  samples : Samples
  outside : List Bool
  count : Nat
  height : Nat
  width : Nat
  fill : Fill
  bandNames : Option (List String)
deriving DecidableEq

namespace Raster

def plane (raster : Raster) : Nat := raster.height * raster.width

def description (raster : Raster) : Description where
  count := raster.count
  height := raster.height
  width := raster.width
  type := raster.samples.type
  fill := raster.fill
  bandNames := raster.bandNames

/-! ## Bands -/

/-- The mask of one band; empty if there is no such band. -/
def bandMask (raster : Raster) (band : Nat) : List Bool :=
  if band < raster.count then raster.outside else []

/-- The masks of all bands in turn. -/
def mask (raster : Raster) : List Bool :=
  (List.replicate raster.count raster.outside).flatten

/-- The samples of one band, masked ones included. -/
def bandValues (raster : Raster) (band : Nat) : List Double :=
  (raster.samples.toDoubles.drop (band * raster.plane)).take raster.plane

def validCount (raster : Raster) (band : Nat) : Nat := (raster.bandMask band).count false

def maskedCount (raster : Raster) (band : Nat) : Nat := (raster.bandMask band).count true

/-- The sample at a place; none outside the raster or the feature. -/
def value? (raster : Raster) (band row column : Nat) : Option Double :=
  if band < raster.count ∧ row < raster.height ∧ column < raster.width then
    let pixel := row * raster.width + column
    match raster.outside[pixel]? with
    | some false => raster.samples.get? (band * raster.plane + pixel)
    | _ => none
  else none

/-- The samples with the fill value in every masked place. -/
def filled (raster : Raster) : Samples :=
  .ofDoubles raster.samples.type
    (raster.samples.toDoubles.zipWith
      (fun sample masked => if masked then raster.fill.toDouble else sample) raster.mask)

/-! ## Band names -/

/-- Names the bands, one name for each. -/
def nameBands (raster : Raster) (names : List String) : Except Fault Raster :=
  if names.length ≠ raster.count then .error (.bandNameCount names.length raster.count)
  else .ok { raster with bandNames := some names }

/-- The names of the bands, or `b1`, `b2` and so on. -/
def bandLabels (raster : Raster) : List String :=
  match raster.bandNames with
  | some names => names
  | none => (List.range raster.count).map fun band => "b" ++ showNat (band + 1)

end Raster

/-! ## Crops -/

/-- A crop as the remote service delivers it: samples, and the sizes of
their array, which should be bands, rows and columns. -/
structure Crop where
  samples : Samples
  shape : List Nat
deriving DecidableEq

namespace Crop

/-- The product of two sizes, if it is a size of 64 bits. -/
def product? (a b : Nat) : Option Nat := if a * b < 0x10000000000000000 then some (a * b) else none

/-- Splits off the alpha band and promotes the samples so that the fill
fits. A crop without declared fill is filled with 0. -/
def decode (crop : Crop) (declared : Option Fill) : Except Fault Raster :=
  match crop.shape with
  | [bands, height, width] =>
    if ((product? bands height).bind fun n => product? n width) ≠ some crop.samples.size then
      .error (.shapeMismatch crop.shape crop.samples.size)
    else if bands < 2 then .error (.tooFewBands bands)
    else do
      let split := (bands - 1) * (height * width)
      let alpha := crop.samples.toDoubles.drop split
      let fill := declared.getD .undeclared
      let type ← crop.samples.type.promote fill
      return {
        samples := (crop.samples.slice 0 split).cast type
        outside := alpha.map fun a => a.eqv (.zero false)
        count := bands - 1
        height
        width
        fill
        bandNames := none }
  | shape => .error (.wrongRank shape.length)

end Crop

end SceneMask
