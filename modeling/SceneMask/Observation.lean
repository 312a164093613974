-- Observations: statistics with the context that they belong to. A row
-- spreads an observation over columns: the keys of the scene, each of the
-- statistics, and what remains of the context as JSON text.
import SceneMask.Context
import SceneMask.Summary

namespace SceneMask

abbrev Row := KeyMap Json

structure Observation where
  statistics : Statistics
  context : Context

namespace Observation

/-- The observation of a response. -/
def parse (response : Json) (context : Context) : Except Fault Observation :=
  (Statistics.parse response).map fun statistics => ⟨statistics, context⟩

/-- The observation of a response that never came. -/
def blank (context : Context) : Observation := ⟨.blank, context⟩

def withSummary (observation : Observation) (summary : Summary) : Observation :=
  { observation with statistics := observation.statistics.withSummary summary }

/-! ## Rows -/

/-- The keys of the context that become columns of their own. -/
def sceneKeys : List String := ["scene_url", "acquisition_time", "cloud_cover_scene_pct"]

def sceneColumn (context : Context) (key : String) : Except Fault (String × Json) :=
  (context.get? key).elim (.error (.missingKey key)) fun value => .ok (key, value)

/-- The context without the keys of the scene. -/
def remainder (context : Context) : Context := sceneKeys.foldl KeyMap.erase context

def row (observation : Observation) : Except Fault Row := do
  let scene ← sceneKeys.mapM (sceneColumn observation.context)
  let metadata := (Json.ofMap (remainder observation.context)).compact
  return .ofList (scene ++ observation.statistics.fields ++ [("metadata", .string metadata)])

end Observation

namespace Row

/-- The columns of every row: the keys of the scene, the measures, and what
remains of the context. -/
def columns : List String :=
  Observation.sceneKeys ++ Measure.all.map Measure.name ++ ["metadata"]

theorem nodup_columns : columns.Nodup := by decide

example : columns.length = 21 ∧ "histogram" ∉ columns := by decide

end Row

end SceneMask
