-- Batches: a manifest of scenes becomes one row for each scene, in the
-- order of the manifest. A scene that cannot be processed gets a blank row
-- and does not disturb the others.
import SceneMask.CommandLine.Request
import SceneMask.Observation
import SceneMask.Retry

namespace SceneMask

/-! ## Scenes -/

structure Scene where
  url : String
  acquisitionTime : String
  cloudCover : Option Double
  /-- The statistics response of the scene. -/
  response : String
  /-- The statistics response of its classification band. -/
  classResponse : Option String
deriving DecidableEq

namespace Scene

def fieldNames : List String :=
  ["scene_url", "acquisition_time", "cloud_cover_scene_pct", "stats_path", "scl_stats_path"]

def ofDocument? (document : Document) : Option Scene := do
  let fields ← document.fields? fieldNames
  return {
    url := ← fields.required? "scene_url" Document.text?
    acquisitionTime := ← fields.required? "acquisition_time" Document.text?
    cloudCover := ← fields.nullable? "cloud_cover_scene_pct" Document.double?
    response := ← fields.required? "stats_path" Document.text?
    classResponse := ← fields.nullable? "scl_stats_path" Document.text? }

/-- The files that a scene names. -/
def paths (scene : Scene) : List String := scene.response :: scene.classResponse.toList

/-- The context of all observations of a scene. -/
def context (scene : Scene) (config : MaskConfig) : Context := .ofList [
  ("scene_url", .string scene.url),
  ("acquisition_time", .string scene.acquisitionTime),
  ("cloud_cover_scene_pct", .ofOption .real scene.cloudCover),
  ("mask_attribute", .string config.classBand),
  ("classes", .strings config.classes),
  ("policy", .string config.policy.name)]

end Scene

/-! ## Observations -/

namespace Batch

/-- What the rows of a batch have in common. -/
structure Settings where
  config : MaskConfig
  selection : Selection
  attempts : Nat

/-- Reads a response, as often as allowed. -/
def observe (files : Files) (attempts : Nat) (path : String) (context : Context) :
    Except Failure Observation :=
  (Attempts.run attempts fun _ => do
    let json ← files.json "reading " "parsing " path
    orFail (Observation.parse json context)).result

/-- Adds the summary of the classification band, with its counts and shares
in the context. -/
def addSummary (observation : Observation) (summary : Summary) : Observation where
  statistics := observation.statistics.withSummary summary
  context := (observation.context.insert "scl_hist_count" summary.countsJson).insert
    "scl_hist_pct" summary.percentsJson

/-- The observation of a scene, with the summary of its classification band
if it has one and there is a selection. -/
def observeScene (files : Files) (settings : Settings) (scene : Scene) :
    Except Failure Observation := do
  let observation ←
    observe files settings.attempts scene.response (scene.context settings.config)
  match scene.classResponse with
  | none => return observation
  | some path => do
    let classes ← observe files settings.attempts path .empty
    if settings.selection.isEmpty then return observation
    let summary ← orFail
      (Summary.ofStatistics classes.statistics settings.selection settings.config.policy)
    return addSummary observation summary

/-- The observation of a scene that cannot be processed. -/
def blankScene (settings : Settings) (scene : Scene) : Observation :=
  .blank (((scene.context settings.config).insert "scl_hist_count" .null).insert
    "scl_hist_pct" .null)

/-! ## Rows -/

/-- The row of a scene, and whether it is blank. Rows have no histogram. -/
def sceneRow (files : Files) (settings : Settings) (scene : Scene) : Except Fault (Row × Bool) :=
  let (observation, blank) := match observeScene files settings scene with
    | .ok observation => (observation, false)
    | .error _ => (blankScene settings scene, true)
  let statistics := observation.statistics.dropHistogram
  ({ observation with statistics } : Observation).row.map fun row => (row, blank)

structure Rows where
  rows : List Row
  /-- How many of the rows are blank. -/
  blank : Nat

/-- The rows of a list of scenes. -/
def rows (files : Files) (config : MaskConfig) (attempts : Nat) (scenes : List Scene) :
    Except Fault Rows := do
  let selection ← config.selection
  let results ← scenes.mapM (sceneRow files ⟨config, selection, attempts⟩)
  return ⟨results.map Prod.fst, results.countP Prod.snd⟩

def Rows.toJson (rows : Rows) : Json := .array (rows.rows.map fun row => (Json.ofMap row).sortKeys)

/-! ## Runs -/

def readManifest (files : Files) (path : String) : Except Failure (List Scene) := do
  let text ← files.text "reading manifest " path
  during ("parsing manifest " ++ path)
    (((Document.read? text).bind (Document.list? Scene.ofDocument?)).elim (.error .notJson) .ok)

/-- The rows that a batch asks for. -/
def run (files : Files) (request : CommandLine.BatchRequest) : Except Failure Rows := do
  let config ← orFail (request.config.elim (.ok .standard) files.maskConfig)
  let scenes ← readManifest files request.manifest
  orFail (rows files config request.attempts scenes)

end Batch

end SceneMask
