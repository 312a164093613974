-- The reports of the command line: what each request answers, as JSON with
-- its keys in order.
import SceneMask.CommandLine.Request
import SceneMask.Observation
import SceneMask.Tiff

namespace SceneMask

open CommandLine (MaskOptions Request)

namespace Report

/-- Reads the crop of a file. -/
def readCrop (files : Files) (path : String) : Except Failure Crop :=
  match files path with
  | none => .error (.context ("Read failed: " ++ path) .unreadable)
  | some bytes => during ("Decode failed: " ++ path) (Tiff.read bytes)

def readResponse (files : Files) (path : String) : Except Failure Json :=
  files.json "Read failed: " "Invalid JSON: " path

/-- The compiled target of a request, and the parameters for the service. -/
def compile (files : Files) (assets : Option (List String)) (expression : Option String)
    (options : MaskOptions) : Except Fault Json := do
  let config ← options.resolve files
  let request ← Target.ofRequest assets expression
  let target ← config.compile request
  let query := target.query.map fun (key, value) => .object [(key, .string value)]
  return .object [("target", target.toJson), ("query", .array query)]

/-- The description of a crop, and an account for each of its bands. -/
def crop (files : Files) (input : String) (options : MaskOptions) : Except Failure Json := do
  let config ← orFail (options.resolve files)
  let crop ← readCrop files input
  let raster ← orFail (crop.decode (some config.fill))
  let raster ← orFail (config.bandNames.elim (.ok raster) raster.nameBands)
  let accounts ← orFail (BandAccount.ofRaster raster none)
  return .object [
    ("metadata", raster.description.toJson),
    ("feature_counts", .array (accounts.map BandAccount.toJson))]

/-- The account of a classification crop. -/
def account (files : Files) (input : String) (options : MaskOptions) : Except Failure Json := do
  let config ← orFail (options.resolve files)
  let crop ← readCrop files input
  let raster ← orFail (crop.decode none)
  let selection ← orFail config.selection
  return (Account.ofRaster raster selection config.policy).toJson

/-- The summary of a classification response; none without a selection. -/
def summary? (record : Statistics) (selection : Selection) (policy : Policy) :
    Except Fault (Option Summary) :=
  if selection.isEmpty then .ok none
  else (Summary.ofStatistics record selection policy).map some

/-- The account of a classification response, if the pixels outside are
known. -/
def account? (record : Statistics) (outside : Option UInt64) (selection : Selection)
    (policy : Policy) : Except Fault (Option Account) :=
  match outside with
  | none => .ok none
  | some outside => (Histogram.ofStatistics record).map fun histogram =>
    some (.ofHistogram histogram outside selection policy)

/-- The statistics of a response with their context, and what the response
of the classification band adds to them. -/
def stats (files : Files) (response : String) (classResponse : Option String)
    (outside : Option UInt64) (context : List String) (options : MaskOptions) :
    Except Failure Json := do
  let config ← orFail (options.resolve files)
  let json ← readResponse files response
  let context ← Context.parse context
  let observation ← orFail (Observation.parse json context)
  let (observation, extra) ← match classResponse with
    | none => pure (observation, [])
    | some path => do
      let json ← readResponse files path
      let classes ← orFail (Observation.parse json .empty)
      let selection ← orFail config.selection
      let summary? ← orFail (summary? classes.statistics selection config.policy)
      let account? ← orFail (account? classes.statistics outside selection config.policy)
      pure (summary?.elim observation observation.withSummary,
        (summary?.map fun summary => ("whitelist", summary.toJson)).toList
          ++ (account?.map fun account => ("accounting", account.toJson)).toList)
  return .object (extra ++ [
    ("statistics", observation.statistics.toJson),
    ("meta", .ofMap observation.context)])

def ofRequest (files : Files) : Request → Except Failure Json
  | .compile assets expression mask => orFail (compile files assets expression mask)
  | .crop input mask => crop files input mask
  | .account input mask => account files input mask
  | .stats response classResponse outside context mask =>
    stats files response classResponse outside context mask

/-- The report of a request. -/
def run (files : Files) (request : Request) : Except Failure Json :=
  (ofRequest files request).map Json.sortKeys

end Report

end SceneMask
