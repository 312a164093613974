-- Pixel accounts of a classification band over a feature: pixels inside
-- and outside the feature, pixels that a policy keeps and discards, and
-- pixels of each class. The service fills the pixels outside with the
-- class of no data, so these come off the count of that class.
import SceneMask.Histogram
import SceneMask.Selection

namespace SceneMask

/-- A part in percent of a whole; NaN if the whole is zero. -/
def percent (part whole : Double) : Double :=
  if whole.eqv (.zero false) then .nan else part / whole * .ofNat 100

def wordPercent (part whole : UInt64) : Double :=
  percent (.ofNat part.toNat) (.ofNat whole.toNat)

/-! ## Accounts -/

structure Account where
  inside : UInt64
  outside : UInt64
  insidePercent : Double
  outsidePercent : Double
  /-- The pixels that the policy keeps; absent for an empty selection. -/
  kept : Option UInt64
  discarded : Option UInt64
  keptPercent : Option Double
  discardedPercent : Option Double
  pixels : PerClass Int64
  percents : PerClass Double
deriving DecidableEq

namespace Account

/-- The pixels of a class inside the feature. -/
def classPixels (histogram : Histogram) (outside : UInt64) (c : SceneClass) : Int64 :=
  let n := (histogram.count c).toInt64
  if c = .noData then n - outside.toInt64 else n

/-- The pixels that the policy keeps, held between none and all pixels
inside. -/
def keptPixels (pixels : SceneClass → Int64) (inside : UInt64) (selection : Selection)
    (policy : Policy) : UInt64 :=
  let selected := (selection.classes.map pixels).foldr (· + ·) 0
  let kept := match policy with
    | .whitelist => selected
    | .blacklist => inside.toInt64 - selected
  (max 0 (min kept inside.toInt64)).toUInt64

/-- The account of a histogram over a whole crop, of which `outside`
pixels lie outside the feature. -/
def ofHistogram (histogram : Histogram) (outside : UInt64) (selection : Selection)
    (policy : Policy) : Account :=
  let total := histogram.total
  let inside := if outside ≤ total then total - outside else 0
  let crop := inside + outside
  let pixels := classPixels histogram outside
  let kept :=
    if selection.isEmpty then none else some (keptPixels pixels inside selection policy)
  let discarded := kept.map fun n => inside - n
  { inside
    outside
    insidePercent := wordPercent inside crop
    outsidePercent := wordPercent outside crop
    kept
    discarded
    keptPercent := kept.map fun n => wordPercent n inside
    discardedPercent := discarded.map fun n => wordPercent n inside
    pixels := .ofFn pixels
    percents := .ofFn fun c => percent (.ofInt (pixels c).toInt) (.ofNat inside.toNat) }

/-- The account of a classification raster, whose mask tells the pixels
outside. -/
def ofRaster (raster : Raster) : Selection → Policy → Account :=
  ofHistogram (.ofRaster raster) (.ofNat (raster.maskedCount 0))

def toJson (account : Account) : Json :=
  let word (n : UInt64) : Json := .natural n.toNat
  .object [
    ("feature_in_pix", word account.inside),
    ("feature_out_pix", word account.outside),
    ("feature_in_pct", .real account.insidePercent),
    ("feature_out_pct", .real account.outsidePercent),
    ("whitelist_pix", .ofOption word account.kept),
    ("blacklist_pix", .ofOption word account.discarded),
    ("whitelist_pct", .ofOption .real account.keptPercent),
    ("blacklist_pct", .ofOption .real account.discardedPercent),
    ("pix_by_class", account.pixels.toJson .int),
    ("pct_by_class", account.percents.toJson .real)]

end Account

/-! ## Accounts of single bands -/

/-- The pixels of one data band inside and outside the feature. -/
structure BandAccount where
  band : String
  inside : UInt64
  outside : UInt64
  insidePercent : Double
  outsidePercent : Double
deriving DecidableEq

namespace BandAccount

def ofBand (raster : Raster) (name : String) (band : Nat) : BandAccount :=
  let inside : UInt64 := .ofNat (raster.validCount band)
  let outside : UInt64 := .ofNat (raster.maskedCount band)
  { band := name
    inside
    outside
    insidePercent := wordPercent inside (inside + outside)
    outsidePercent := wordPercent outside (inside + outside) }

/-- One account for each data band, under the given names or else the
labels of the raster. -/
def ofRaster (raster : Raster) (names : Option (List String)) :
    Except Fault (List BandAccount) :=
  let names := names.getD raster.bandLabels
  if names.length ≠ raster.count then .error (.bandNameCount names.length raster.count)
  else .ok (names.zipIdx.map fun (name, band) => ofBand raster name band)

def toJson (account : BandAccount) : Json :=
  .object [
    ("band", .string account.band),
    ("feature_in_pix", .natural account.inside.toNat),
    ("feature_out_pix", .natural account.outside.toNat),
    ("feature_in_pct", .real account.insidePercent),
    ("feature_out_pct", .real account.outsidePercent)]

end BandAccount

end SceneMask
