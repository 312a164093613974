-- The rows of a batch. Each scene has one row, in its place, and all rows
-- have the same columns. A scene that cannot be processed has a blank row,
-- and no row depends on another scene or its files. In checked words there
-- is one exception: a scene whose pixels overflow halts the whole batch.
import Mathlib
import SceneMask.Proofs.CheckedCounts
import SceneMask.Proofs.Findings
import SceneMask.Proofs.RowRecovery

namespace SceneMask

/-! ## Columns -/

/-- A row belongs to a scene: it has all columns and no others, and those of
the scene say what the manifest does. -/
structure Row.BelongsTo (row : Row) (scene : Scene) : Prop where
  keys : row.keys.Perm Row.columns
  url : row.get? "scene_url" = some (.string scene.url)
  time : row.get? "acquisition_time" = some (.string scene.acquisitionTime)
  cover : row.get? "cloud_cover_scene_pct" = some (.ofOption .real scene.cloudCover)

/-- A row without statistics: every measure is null, and the metadata are
read back as the context of the scene with null for the counts and
shares. -/
structure Row.IsBlank (row : Row) (config : MaskConfig) : Prop where
  measures : ∀ m : Measure, row.get? m.name = some .null
  metadata : row.metadata? = some (.ofList [
    ("mask_attribute", .string config.classBand),
    ("classes", .strings config.classes),
    ("policy", .string config.policy.name),
    ("scl_hist_count", .null),
    ("scl_hist_pct", .null)])

namespace Scene

/-- The entries of a scene in its own columns. -/
def entries (scene : Scene) : List (String × Json) := [
  ("scene_url", .string scene.url),
  ("acquisition_time", .string scene.acquisitionTime),
  ("cloud_cover_scene_pct", .ofOption .real scene.cloudCover)]

theorem keys_entries (scene : Scene) : scene.entries.map Prod.fst = Observation.sceneKeys := rfl

end Scene

namespace MaskConfig

/-- The entries of the masking parameters in the context of a scene. -/
def contextEntries (config : MaskConfig) : List (String × Json) := [
  ("mask_attribute", .string config.classBand),
  ("classes", .strings config.classes),
  ("policy", .string config.policy.name)]

theorem keys_contextEntries (config : MaskConfig) :
    config.contextEntries.map Prod.fst = ["mask_attribute", "classes", "policy"] := rfl

end MaskConfig

namespace Findings

/-- What findings add to the context of a scene: the counts and shares of a
summary, and nulls if there are no findings at all. -/
def contextEntries : Option Findings → List (String × Json)
  | none => [("scl_hist_count", .null), ("scl_hist_pct", .null)]
  | some ⟨_, none⟩ => []
  | some ⟨_, some summary⟩ =>
    [("scl_hist_count", summary.countsJson), ("scl_hist_pct", summary.percentsJson)]

theorem keys_contextEntries (findings : Option Findings) :
    (contextEntries findings).map Prod.fst = [] ∨
      (contextEntries findings).map Prod.fst = ["scl_hist_count", "scl_hist_pct"] := by
  rcases findings with _ | ⟨record, _ | summary⟩
  · exact Or.inr rfl
  · exact Or.inl rfl
  · exact Or.inr rfl

end Findings

/-! ## The row of findings -/

namespace Batch

/-- The metadata of a scene with these findings. -/
def metadataOf (config : MaskConfig) (findings : Option Findings) : Context :=
  .ofList (config.contextEntries ++ Findings.contextEntries findings)

/-- The observation of a scene with these findings; it is blank without
any. -/
def observationOf (config : MaskConfig) (scene : Scene) (findings : Option Findings) :
    Observation where
  statistics := findings.elim .blank Findings.statistics
  context := (scene.context config).insertAll (Findings.contextEntries findings)

/-- The entries of the row of a scene with these findings. -/
def entriesOf (config : MaskConfig) (scene : Scene) (findings : Option Findings) :
    List (String × Json) :=
  scene.entries
    ++ Measure.all.map (fun m =>
      (m.name, .ofOption .real ((observationOf config scene findings).statistics.value m)))
    ++ [("metadata", .string (Json.ofMap (metadataOf config findings)).compact)]

def rowOf (config : MaskConfig) (scene : Scene) (findings : Option Findings) : Row :=
  .ofList (entriesOf config scene findings)

section Row

variable (config : MaskConfig) (scene : Scene) (findings : Option Findings)

theorem get?_metadataOf (key : String) :
    (metadataOf config findings).get? key =
      (config.contextEntries ++ Findings.contextEntries findings).lookup key := by
  apply KeyMap.get?_ofList_of_nodup
  rw [List.map_append, config.keys_contextEntries]
  rcases Findings.keys_contextEntries findings with hkeys | hkeys
  · rw [hkeys]
    decide
  · rw [hkeys]
    decide

theorem keys_entriesOf : (entriesOf config scene findings).map Prod.fst = Row.columns := rfl

theorem nodup_entriesOf : ((entriesOf config scene findings).map Prod.fst).Nodup := by
  rw [keys_entriesOf]
  exact Row.nodup_columns

theorem keys_rowOf : (rowOf config scene findings).keys.Perm Row.columns :=
  KeyMap.keys_ofList_perm (nodup_entriesOf config scene findings)

theorem get?_rowOf_of_mem {key : String} {value : Json}
    (h : (key, value) ∈ entriesOf config scene findings) :
    (rowOf config scene findings).get? key = some value :=
  KeyMap.get?_ofList_of_mem (nodup_entriesOf config scene findings) h

theorem get?_rowOf_scene {key : String} {value : Json} (h : (key, value) ∈ scene.entries) :
    (rowOf config scene findings).get? key = some value := by
  apply get?_rowOf_of_mem
  exact List.mem_append_left _ (List.mem_append_left _ h)

theorem get?_rowOf_measure (m : Measure) :
    (rowOf config scene findings).get? m.name =
      some (.ofOption .real ((observationOf config scene findings).statistics.value m)) := by
  apply get?_rowOf_of_mem
  exact List.mem_append_left _ (List.mem_append_right _ (List.mem_map.2 ⟨m, m.mem_all, rfl⟩))

theorem get?_rowOf_metadata :
    (rowOf config scene findings).get? "metadata" =
      some (.string (Json.ofMap (metadataOf config findings)).compact) := by
  apply get?_rowOf_of_mem
  exact List.mem_append_right _ (List.mem_singleton.2 rfl)

/-- The metadata are read back if what the findings add to them can be
read. -/
theorem metadata?_rowOf
    (h : ∀ entry ∈ Findings.contextEntries findings, entry.2.Readable (Document.depthLimit - 1)) :
    (rowOf config scene findings).metadata? = some (metadataOf config findings) := by
  apply Row.metadata?_of_text (get?_rowOf_metadata config scene findings)
  refine .object (KeyMap.sorted _) ?_
  intro entry hmem
  have hconfig : ∀ entry ∈ config.contextEntries,
      entry.2.Readable (Document.depthLimit - 1) := by
    simp only [MaskConfig.contextEntries, List.forall_mem_cons]
    exact ⟨.string _, Json.readable_strings _ _, .string _, List.forall_mem_nil _⟩
  rcases List.mem_append.1 (KeyMap.mem_of_mem_ofList hmem) with hmem | hmem
  · exact hconfig entry hmem
  · exact h entry hmem

theorem belongsTo_rowOf : (rowOf config scene findings).BelongsTo scene where
  keys := keys_rowOf config scene findings
  url := get?_rowOf_scene config scene findings (by simp [Scene.entries])
  time := get?_rowOf_scene config scene findings (by simp [Scene.entries])
  cover := get?_rowOf_scene config scene findings (by simp [Scene.entries])

theorem isBlank_rowOf : (rowOf config scene none).IsBlank config where
  measures := get?_rowOf_measure config scene none
  metadata := by
    apply metadata?_rowOf
    simp only [Findings.contextEntries, List.forall_mem_cons]
    exact ⟨.null, .null, List.forall_mem_nil _⟩

/-- The entries of an observed context are those of the scene, of the masking
parameters and of the findings. -/
theorem context_observationOf :
    (observationOf config scene findings).context =
      .ofList (scene.entries ++ (config.contextEntries ++ Findings.contextEntries findings)) :=
  KeyMap.insertAll_ofList (scene.entries ++ config.contextEntries) _

/-- The scene stays in the context, whatever is found. -/
theorem get?_observationOf {entry : String × Json} (h : entry ∈ scene.entries) :
    (observationOf config scene findings).context.get? entry.1 = some entry.2 := by
  have hnodup : ((scene.entries
      ++ (config.contextEntries ++ Findings.contextEntries findings)).map Prod.fst).Nodup := by
    rw [List.map_append, List.map_append, scene.keys_entries, config.keys_contextEntries]
    rcases Findings.keys_contextEntries findings with hkeys | hkeys
    · rw [hkeys]
      decide
    · rw [hkeys]
      decide
  rw [context_observationOf]
  exact KeyMap.get?_ofList_of_mem hnodup (List.mem_append_left _ h)

theorem remainder_observationOf :
    Observation.remainder (observationOf config scene findings).context =
      metadataOf config findings := by
  -- None of the keys of the parameters and of the findings is one of the scene.
  have hdrop : KeyMap.drop "cloud_cover_scene_pct" (KeyMap.drop "acquisition_time"
      (KeyMap.drop "scene_url" (scene.entries
        ++ (config.contextEntries ++ Findings.contextEntries findings)))) =
      config.contextEntries ++ Findings.contextEntries findings := by
    rcases findings with _ | ⟨record, _ | summary⟩ <;> rfl
  rw [context_observationOf]
  show (((KeyMap.ofList _).erase _).erase _).erase _ = _
  rw [KeyMap.erase_ofList, KeyMap.erase_ofList, KeyMap.erase_ofList, hdrop]
  rfl

theorem row_observationOf :
    (⟨(observationOf config scene findings).statistics.dropHistogram,
      (observationOf config scene findings).context⟩ : Observation).row =
        .ok (rowOf config scene findings) := by
  have hcolumn : ∀ entry ∈ scene.entries,
      Observation.sceneColumn (observationOf config scene findings).context entry.1 =
        .ok entry := by
    intro entry hmem
    unfold Observation.sceneColumn
    rw [get?_observationOf config scene findings hmem]
    rfl
  have hscene : Observation.sceneKeys.mapM
      (Observation.sceneColumn (observationOf config scene findings).context) =
        .ok scene.entries := by
    have hmap := mapM_eq_ok hcolumn
    rw [List.map_id'] at hmap
    rw [← scene.keys_entries, List.mapM_map]
    exact hmap
  unfold Observation.row
  rw [hscene, remainder_observationOf]
  rfl

end Row

/-! ## The rows of scenes -/

theorem observationOf_none (settings : Settings) (scene : Scene) :
    observationOf settings.config scene none = blankScene settings scene := rfl

theorem observationOf_some (config : MaskConfig) (scene : Scene) (findings : Findings) :
    observationOf config scene (some findings) = findings.observation (scene.context config) := by
  obtain ⟨record, _ | summary⟩ := findings <;> rfl

theorem findings?_eq_none {files : Files} {settings : Settings} {scene : Scene}
    {failure : Failure} (h : observeScene files settings scene = .error failure) :
    scene.findings? files settings.config settings.selection = none := by
  cases hfindings : scene.findings? files settings.config settings.selection with
  | none => rfl
  | some findings =>
    rw [observeScene_eq_ok.2 ⟨findings, hfindings, rfl⟩] at h
    cases h

/-- The row of a scene is that of its findings, and it is blank if there are
none. -/
theorem sceneRow_eq (files : Files) (settings : Settings) (scene : Scene) :
    sceneRow files settings scene =
      .ok (rowOf settings.config scene
          (scene.findings? files settings.config settings.selection),
        (scene.findings? files settings.config settings.selection).isNone) := by
  unfold sceneRow
  cases hobserve : observeScene files settings scene with
  | ok observation =>
    obtain ⟨findings, hfindings, rfl⟩ := observeScene_eq_ok.1 hobserve
    have hrow := row_observationOf settings.config scene (some findings)
    rw [observationOf_some] at hrow
    rw [hfindings]
    dsimp only
    rw [hrow]
    rfl
  | error failure =>
    have hrow := row_observationOf settings.config scene none
    rw [observationOf_none] at hrow
    rw [findings?_eq_none hobserve]
    dsimp only
    rw [hrow]
    rfl

theorem rows_eq (files : Files) (config : MaskConfig) (attempts : Nat) (scenes : List Scene) :
    rows files config attempts scenes = config.selection.map fun selection =>
      ⟨scenes.map fun scene => rowOf config scene (scene.findings? files config selection),
        scenes.countP fun scene => (scene.findings? files config selection).isNone⟩ := by
  unfold rows
  cases config.selection with
  | error fault => rfl
  | ok selection =>
    have hselection : (.ok selection : Except Fault Selection) = .ok selection := rfl
    have hresults := mapM_eq_ok fun scene (_ : scene ∈ scenes) =>
      sceneRow_eq files ⟨config, selection, attempts⟩ scene
    rw [bind_of_eq_ok hselection, bind_of_eq_ok hresults, List.map_map, List.countP_map]
    rfl

end Batch

/-! ## Rows in checked words -/

/-- Both responses of a scene hold statistics, but those of its
classification band overflow when they are summed up. -/
inductive Scene.Overflows (files : Files) (selection : Selection) (scene : Scene) : Prop
  | summary {record classes : Statistics} {path : String}
      (hrecord : files.statistics? scene.response = some record)
      (hpath : scene.classResponse = some path)
      (hclasses : files.statistics? path = some classes)
      (hselection : selection.isEmpty = false)
      (h : Summary.Overflows classes selection)

namespace Batch

/-- The observation of a scene, in checked words. -/
def observeScene? (files : Files) (settings : Settings) (scene : Scene) :
    Halting Failure Observation := do
  let observation ←
    .mk (some (observe files settings.attempts scene.response (scene.context settings.config)))
  match scene.classResponse with
  | none => return observation
  | some path => do
    let classes ← .mk (some (observe files settings.attempts path .empty))
    if settings.selection.isEmpty then return observation
    let summary ← .mk ((Summary.ofStatistics? classes.statistics settings.selection
      settings.config.policy).run.map orFail)
    return addSummary observation summary

/-- What becomes of a scene that was observed, or could not be. -/
def rowOfResult (settings : Settings) (scene : Scene) (result : Except Failure Observation) :
    Except Fault (Row × Bool) :=
  let (observation, blank) := match result with
    | .ok observation => (observation, false)
    | .error _ => (blankScene settings scene, true)
  let statistics := observation.statistics.dropHistogram
  ({ observation with statistics } : Observation).row.map fun row => (row, blank)

/-- The row of a scene, in checked words. A blank row stands for a failure,
and not for a halt. -/
def sceneRow? (files : Files) (settings : Settings) (scene : Scene) : Halting Fault (Row × Bool) :=
  .mk ((observeScene? files settings scene).run.map (rowOfResult settings scene))

/-- The rows of a list of scenes, in checked words. -/
def rows? (files : Files) (config : MaskConfig) (attempts : Nat) (scenes : List Scene) :
    Halting Fault Rows := do
  let selection ← .mk (some config.selection)
  let results ← scenes.mapM (sceneRow? files ⟨config, selection, attempts⟩)
  return ⟨results.map Prod.fst, results.countP Prod.snd⟩

/-- Only the summary of a scene has checked words. -/
theorem haltsIf_observeScene (files : Files) (settings : Settings) (scene : Scene) :
    HaltsIf (scene.Overflows files settings.selection) (observeScene? files settings scene)
      (observeScene files settings scene) := by
  unfold observeScene? observeScene
  cases hpath : scene.classResponse with
  | none =>
    refine (HaltsIf.after fun observation => HaltsIf.never (.ok observation)).congr ?_
    refine ⟨?_, ?_⟩
    · rintro ⟨_, -, hnever⟩
      exact hnever.elim
    · rintro ⟨-, hsome, -⟩
      rw [hpath] at hsome
      cases hsome
  | some path =>
    dsimp only
    cases hselection : settings.selection.isEmpty with
    | true =>
      refine (HaltsIf.after fun observation => HaltsIf.after fun _ =>
        HaltsIf.never (.ok observation)).congr ?_
      refine ⟨?_, ?_⟩
      · rintro ⟨_, -, _, -, hnever⟩
        exact hnever.elim
      · rintro ⟨-, -, -, hselects, -⟩
        rw [hselection] at hselects
        cases hselects
    | false =>
      refine (HaltsIf.after fun observation => HaltsIf.after fun (classes : Observation) =>
        ((Summary.haltsIf_ofStatistics classes.statistics settings.selection
          settings.config.policy).map orFail).bind fun summary =>
            HaltsIf.never (.ok (addSummary observation summary))).congr ?_
      simp only [observe_eq_ok]
      refine ⟨?_, ?_⟩
      · rintro ⟨_, ⟨record, hrecord, rfl⟩, _, ⟨classes, hclasses, rfl⟩, hfull | ⟨_, -, hnever⟩⟩
        · exact .summary hrecord hpath hclasses hselection hfull
        · exact hnever.elim
      · rintro ⟨hrecord, hsome, hclasses, -, hfull⟩
        rw [hpath] at hsome
        cases hsome
        exact ⟨_, ⟨_, hrecord, rfl⟩, _, ⟨_, hclasses, rfl⟩, Or.inl hfull⟩

theorem haltsIf_sceneRow (files : Files) (settings : Settings) (scene : Scene) :
    HaltsIf (scene.Overflows files settings.selection) (sceneRow? files settings scene)
      (sceneRow files settings scene) :=
  (haltsIf_observeScene files settings scene).map (rowOfResult settings scene)

/-- A batch halts where one of its scenes does. -/
theorem haltsIf_rows (files : Files) (config : MaskConfig) (attempts : Nat)
    (scenes : List Scene) :
    HaltsIf (∃ selection, config.selection = .ok selection ∧
        ∃ scene ∈ scenes, scene.Overflows files selection)
      (rows? files config attempts scenes) (rows files config attempts scenes) := by
  refine (HaltsIf.after fun selection => (HaltsIf.mapM
    (haltsIf_sceneRow files ⟨config, selection, attempts⟩)
    (sceneRow_eq files ⟨config, selection, attempts⟩)).bind fun results =>
      HaltsIf.never (.ok (⟨results.map Prod.fst, results.countP Prod.snd⟩ : Rows))).congr ?_
  simp

/-! ## The law -/

/-- Masks all but vegetation. -/
def vegetationOnly : MaskConfig := { MaskConfig.standard with classes := ["VEGETATION"] }

def lostScene : Scene := ⟨"s2/lost", "2022-06-01", none, "lost.json", none⟩

def foundScene : Scene := ⟨"s2/found", "2022-06-11", none, "found.json", none⟩

/-- A single file, with the statistics of the scene that was found. -/
def oneFile : Files := fun path =>
  if path = "found.json" then
    some "\x7b\"statistics\": \x7b\"ndvi\": \x7b\"mean\": 0.5\x7d\x7d\x7d".toUTF8
  else none

/-- The scene that was found, with a response of its classification band. -/
def fullScene : Scene := { foundScene with classResponse := some "full.json" }

/-- The vegetation of that band has one pixel more than a word holds. -/
def fullFiles : Files := fun path =>
  if path = "full.json" then
    some ("\x7b\"statistics\": \x7b\"SCL\": \x7b\"count\": 1, "
      ++ "\"histogram\": [[1.8446744073709552e19, 1.0], [4.0, 4.0]]\x7d\x7d\x7d").toUTF8
  else oneFile path

end Batch

end SceneMask
