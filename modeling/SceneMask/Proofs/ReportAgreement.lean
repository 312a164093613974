-- Batches and the command line agree. The row of a scene is blank just where
-- the report of the same files fails, and else both show the same
-- statistics, the same counts and the same shares.
import Mathlib
import SceneMask.Proofs.BatchRows

namespace SceneMask

open CommandLine (MaskOptions)

/-! ## Values whose keys are in order -/

theorem Json.sortKeys_ofOption_real (x : Option Double) :
    (ofOption real x).sortKeys = ofOption real x := by
  cases x with
  | none => simp [ofOption, sortKeys]
  | some x => exact sortKeys_real x

theorem PerClass.sortKeys_toJson {α : Type} {write : α → Json}
    (h : ∀ a, (write a).sortKeys = write a) (table : PerClass α) :
    (table.toJson write).sortKeys = table.toJson write := by
  unfold toJson
  apply Json.sortKeys_ofMap
  intro entry hmem
  obtain ⟨c, -, rfl⟩ := List.mem_map.1 (KeyMap.mem_of_mem_ofList hmem)
  exact h _

namespace Summary

theorem sortKeys_countsJson (summary : Summary) :
    summary.countsJson.sortKeys = summary.countsJson :=
  PerClass.sortKeys_toJson (fun n => Json.sortKeys_natural n.toNat) summary.counts

theorem sortKeys_percentsJson (summary : Summary) :
    summary.percentsJson.sortKeys = summary.percentsJson :=
  PerClass.sortKeys_toJson Json.sortKeys_real summary.percents

/-- Counts are whole numbers of a word, so they are read back. -/
theorem readable_countsJson (summary : Summary) (depth : Nat) :
    summary.countsJson.Readable (depth + 1) := by
  refine .object (KeyMap.sorted _) ?_
  intro entry hmem
  obtain ⟨c, -, rfl⟩ := List.mem_map.1 (KeyMap.mem_of_mem_ofList hmem)
  have hfits : FitsWord (summary.counts.get c).toNat := by
    have := (summary.counts.get c).toNat_lt
    exact ⟨by omega, by omega⟩
  show (Json.natural (summary.counts.get c).toNat).Readable depth
  rw [Json.natural, dif_pos hfits]
  exact .number (JsonNumber.readsBack_whole hfits)

/-- The counts and shares of a summary in a report. -/
theorem get?_sortKeys_toJson (summary : Summary) :
    summary.toJson.sortKeys.get? "hist_count" = some summary.countsJson ∧
      summary.toJson.sortKeys.get? "hist_pct" = some summary.percentsJson := by
  have hnodup : (List.map Prod.fst [("whitelist_pixels", Json.natural summary.kept.toNat),
      ("whitelist_pct", .real summary.keptPercent), ("hist_count", summary.countsJson),
      ("hist_pct", summary.percentsJson)]).Nodup := by
    show ["whitelist_pixels", "whitelist_pct", "hist_count", "hist_pct"].Nodup
    decide
  unfold toJson
  rw [Json.get?_sortKeys hnodup, Json.get?_sortKeys hnodup]
  constructor
  · exact congrArg some summary.sortKeys_countsJson
  · exact congrArg some summary.sortKeys_percentsJson

end Summary

namespace Statistics

theorem nodup_fields (record : Statistics) : (record.fields.map Prod.fst).Nodup := by
  unfold fields
  cases record.histogram with
  | none =>
    show (Measure.all.map Measure.name ++ []).Nodup
    decide
  | some histogram =>
    show (Measure.all.map Measure.name ++ ["histogram"]).Nodup
    decide

/-- A measure of a record in a report. -/
theorem get?_sortKeys_toJson (record : Statistics) (m : Measure) :
    record.toJson.sortKeys.get? m.name = some (.ofOption .real (record.value m)) := by
  have hfield : record.fields.lookup m.name = some (.ofOption .real (record.value m)) := by
    rw [KeyMap.lookup_eq_some_iff_mem record.nodup_fields]
    exact List.mem_append_left _ (List.mem_map.2 ⟨m, m.mem_all, rfl⟩)
  unfold toJson
  rw [Json.get?_sortKeys record.nodup_fields]
  show (record.fields.lookup m.name).map Json.sortKeys = _
  rw [hfield, Option.map_some, Json.sortKeys_ofOption_real]

end Statistics

/-! ## Configurations and options -/

namespace MaskConfig

/-- Options that write a configuration out in full. -/
def options (config : MaskConfig) : MaskOptions where
  classes := config.classes
  policy := some config.policy
  fill := some config.fill
  classBand := some config.classBand
  bandNames := config.bandNames

theorem resolve_options {config : MaskConfig} (h : config.validate = .ok ()) (files : Files) :
    config.options.resolve files = .ok config := by
  have happly : config.options.applyTo .standard = config := by
    obtain ⟨classBand, classes, policy, fill, bandNames⟩ := config
    cases classes <;> cases bandNames <;> rfl
  exact MaskOptions.resolve_eq_ok.2 ⟨.standard, rfl, happly, h⟩

end MaskConfig

/-! ## Reports of findings -/

namespace Report

/-- The entries of the report of findings, before they are put in order. -/
def entriesOf (findings : Findings) : List (String × Json) :=
  (findings.summary.map fun summary => ("whitelist", summary.toJson)).toList
    ++ [("statistics", findings.statistics.toJson), ("meta", .ofMap .empty)]

variable {files : Files} {options : MaskOptions} {config : MaskConfig} {selection : Selection}
  {response : String} {classResponse : Option String}

/-- A response is read and then parsed, as what its file says. -/
theorem statistics?_of_observation {path : String} {json : Json} {context : Context}
    {observation : Observation} (hjson : readResponse files path = .ok json)
    (h : orFail (Observation.parse json context) = .ok observation) :
    files.statistics? path = some observation.statistics ∧ observation.context = context := by
  obtain ⟨record, hrecord, rfl⟩ := map_eq_ok.1 (orFail_eq_ok.1 h)
  exact ⟨Files.statistics?_eq_some.2 ⟨json, Files.json_eq_ok.1 hjson, hrecord⟩, rfl⟩

theorem observation_of_statistics? {path : String} {record : Statistics}
    (h : files.statistics? path = some record) (context : Context) :
    ∃ json, readResponse files path = .ok json ∧
      orFail (Observation.parse json context) = .ok ⟨record, context⟩ := by
  obtain ⟨json, hjson, hrecord⟩ := Files.statistics?_eq_some.1 h
  exact ⟨json, Files.json_eq_ok.2 hjson, orFail_eq_ok.2 (map_eq_ok.2 ⟨record, hrecord, rfl⟩)⟩

theorem summary?_eq_ok {record : Statistics} {policy : Policy} {summary : Option Summary} :
    orFail (summary? record selection policy) = .ok summary ↔
      if selection.isEmpty then none = summary
      else ∃ s, Summary.ofStatistics record selection policy = .ok s ∧ some s = summary := by
  rw [orFail_eq_ok]
  unfold summary?
  split
  · simp
  · exact map_eq_ok

/-- A report tells the findings in its files, and there is none without
findings. -/
theorem stats_eq_ok {report : Json} (hresolve : options.resolve files = .ok config)
    (hselection : config.selection = .ok selection) :
    stats files response classResponse none [] options = .ok report ↔
      ∃ findings, Findings.read? files selection config.policy response classResponse =
        some findings ∧ report = .object (entriesOf findings) := by
  unfold stats
  rw [hresolve]
  constructor
  · intro h
    obtain ⟨_, hconfig, h⟩ := bind_eq_ok.1 h
    cases hconfig
    obtain ⟨json, hjson, h⟩ := bind_eq_ok.1 h
    obtain ⟨_, hcontext, h⟩ := bind_eq_ok.1 h
    cases hcontext
    obtain ⟨⟨record, context⟩, hobservation, h⟩ := bind_eq_ok.1 h
    obtain ⟨hrecord, rfl⟩ := statistics?_of_observation hjson hobservation
    cases classResponse with
    | none =>
      cases h
      exact ⟨⟨record, none⟩, Findings.read?_eq_some.2 ⟨hrecord, rfl⟩, rfl⟩
    | some path =>
      obtain ⟨classJson, hclassJson, h⟩ := bind_eq_ok.1 h
      obtain ⟨⟨classes, _⟩, hclassObservation, h⟩ := bind_eq_ok.1 h
      obtain ⟨hclasses, rfl⟩ := statistics?_of_observation hclassJson hclassObservation
      obtain ⟨_, hselected, h⟩ := bind_eq_ok.1 h
      rw [hselection] at hselected
      cases hselected
      obtain ⟨summary, hsummary, h⟩ := bind_eq_ok.1 h
      cases h
      refine ⟨⟨record, summary⟩, Findings.read?_eq_some.2 ⟨hrecord,
        Files.summary?_eq_some.2 ⟨classes, hclasses, summary?_eq_ok.1 hsummary⟩⟩, ?_⟩
      cases summary <;> rfl
  · rintro ⟨⟨record, summary⟩, hfindings, rfl⟩
    obtain ⟨hrecord, hsummary⟩ := Findings.read?_eq_some.1 hfindings
    obtain ⟨json, hjson, hobservation⟩ := observation_of_statistics? hrecord .empty
    have hconfig : orFail (.ok config) = .ok config := rfl
    have hcontext : Context.parse [] = .ok .empty := rfl
    rw [bind_of_eq_ok hconfig, bind_of_eq_ok hjson, bind_of_eq_ok hcontext,
      bind_of_eq_ok hobservation]
    cases classResponse with
    | none =>
      cases hsummary
      rfl
    | some path =>
      obtain ⟨classes, hclasses, hsummary⟩ := Files.summary?_eq_some.1 hsummary
      obtain ⟨classJson, hclassJson, hclassObservation⟩ :=
        observation_of_statistics? hclasses .empty
      dsimp only
      rw [bind_of_eq_ok hclassJson, bind_of_eq_ok hclassObservation,
        bind_of_eq_ok (orFail_eq_ok.2 hselection), bind_of_eq_ok (summary?_eq_ok.2 hsummary)]
      cases summary <;> rfl

theorem run_eq_ok {report : Json} (hresolve : options.resolve files = .ok config)
    (hselection : config.selection = .ok selection) :
    run files (.stats response classResponse none [] options) = .ok report ↔
      ∃ findings, Findings.read? files selection config.policy response classResponse =
        some findings ∧ (Json.object (entriesOf findings)).sortKeys = report := by
  unfold run
  rw [map_eq_ok]
  show (∃ json, stats files response classResponse none [] options = .ok json ∧ _) ↔ _
  simp only [stats_eq_ok hresolve hselection]
  constructor
  · rintro ⟨_, ⟨findings, hfindings, rfl⟩, hreport⟩
    exact ⟨findings, hfindings, hreport⟩
  · rintro ⟨findings, hfindings, hreport⟩
    exact ⟨_, ⟨findings, hfindings, rfl⟩, hreport⟩

/-! ## What a report shows -/

theorem nodup_entriesOf (findings : Findings) : ((entriesOf findings).map Prod.fst).Nodup := by
  obtain ⟨record, _ | summary⟩ := findings
  · show ["statistics", "meta"].Nodup
    decide
  · show ["whitelist", "statistics", "meta"].Nodup
    decide

theorem get?_statistics (findings : Findings) :
    (Json.object (entriesOf findings)).sortKeys.get? "statistics" =
      some findings.statistics.toJson.sortKeys := by
  rw [Json.get?_sortKeys (nodup_entriesOf findings)]
  obtain ⟨record, _ | summary⟩ := findings <;> rfl

theorem get?_whitelist (findings : Findings) :
    (Json.object (entriesOf findings)).sortKeys.get? "whitelist" =
      findings.summary.map fun summary => summary.toJson.sortKeys := by
  rw [Json.get?_sortKeys (nodup_entriesOf findings)]
  obtain ⟨record, _ | summary⟩ := findings <;> rfl

end Report

/-! ## Rows and reports -/

namespace Row

/-- A row has the measures of a report. -/
def SharesMeasures (row : Row) (report : Json) : Prop :=
  ∃ statistics, report.get? "statistics" = some statistics ∧
    ∀ m : Measure, ∃ value, row.get? m.name = some value ∧ statistics.get? m.name = some value

/-- The metadata of a row have the counts and shares of a report. They are
read back from their text if the shares can be read. -/
def SharesSummary (row : Row) (report : Json) : Prop :=
  ∃ (metadata : Context) (whitelist counts shares : Json),
    row.get? "metadata" = some (.string (Json.ofMap metadata).compact) ∧
      (shares.Readable (Document.depthLimit - 1) → row.metadata? = some metadata) ∧
      report.get? "whitelist" = some whitelist ∧
      metadata.get? "scl_hist_count" = some counts ∧ whitelist.get? "hist_count" = some counts ∧
      metadata.get? "scl_hist_pct" = some shares ∧ whitelist.get? "hist_pct" = some shares

/-- Neither a row nor a report has counts and shares. -/
def LackSummary (row : Row) (report : Json) : Prop :=
  ∃ metadata : Context, row.get? "metadata" = some (.string (Json.ofMap metadata).compact) ∧
    row.metadata? = some metadata ∧ report.get? "whitelist" = none ∧
      metadata.get? "scl_hist_count" = none ∧ metadata.get? "scl_hist_pct" = none

variable (config : MaskConfig) (scene : Scene) (findings : Findings)

theorem sharesMeasures_rowOf :
    SharesMeasures (Batch.rowOf config scene (some findings))
      (Json.object (Report.entriesOf findings)).sortKeys := by
  refine ⟨_, Report.get?_statistics findings, ?_⟩
  intro m
  exact ⟨_, Batch.get?_rowOf_measure config scene (some findings) m,
    Statistics.get?_sortKeys_toJson findings.statistics m⟩

theorem sharesSummary_rowOf (record : Statistics) (summary : Summary) :
    SharesSummary (Batch.rowOf config scene (some ⟨record, some summary⟩))
      (Json.object (Report.entriesOf ⟨record, some summary⟩)).sortKeys := by
  obtain ⟨hcounts, hshares⟩ := summary.get?_sortKeys_toJson
  refine ⟨_, _, summary.countsJson, summary.percentsJson,
    Batch.get?_rowOf_metadata config scene _, ?_, Report.get?_whitelist _, ?_, hcounts, ?_,
    hshares⟩
  · intro hreadable
    apply Batch.metadata?_rowOf
    simp only [Findings.contextEntries, List.forall_mem_cons]
    exact ⟨summary.readable_countsJson _, hreadable, List.forall_mem_nil _⟩
  · rw [Batch.get?_metadataOf]
    rfl
  · rw [Batch.get?_metadataOf]
    rfl

theorem lackSummary_rowOf (record : Statistics) :
    LackSummary (Batch.rowOf config scene (some ⟨record, none⟩))
      (Json.object (Report.entriesOf ⟨record, none⟩)).sortKeys := by
  refine ⟨_, Batch.get?_rowOf_metadata config scene _, ?_, Report.get?_whitelist _, ?_, ?_⟩
  · exact Batch.metadata?_rowOf config scene _ (List.forall_mem_nil _)
  · rw [Batch.get?_metadataOf]
    rfl
  · rw [Batch.get?_metadataOf]
    rfl

end Row

/-- Every valid configuration can be written as options. The row of a scene
is not blank just where the report of its files under such options comes out,
and then both have the same value for every measure. If there is a response
of the classification band and a selection to sum up, both have the counts
and shares of the same summary, and else neither has any. -/
theorem row_and_report_agree (files : Files) (config : MaskConfig) (attempts : Nat)
    (scene : Scene) (hvalid : config.validate = .ok ()) :
    (∃ options : MaskOptions, options.resolve files = .ok config) ∧
      ∃ selection row blank, config.selection = .ok selection ∧
        Batch.sceneRow files ⟨config, selection, attempts⟩ scene = .ok (row, blank) ∧
        ∀ options : MaskOptions, options.resolve files = .ok config →
          ((∃ report, Report.run files
              (.stats scene.response scene.classResponse none [] options) = .ok report) ↔
            blank = false) ∧
          ∀ report, Report.run files
              (.stats scene.response scene.classResponse none [] options) = .ok report →
            row.SharesMeasures report ∧
              if scene.classResponse.isSome ∧ selection.isEmpty = false then
                row.SharesSummary report
              else row.LackSummary report := by
  obtain ⟨-, -, selection, hselection⟩ := MaskConfig.validate_eq_ok.1 hvalid
  refine ⟨⟨config.options, MaskConfig.resolve_options hvalid files⟩, selection, _, _, hselection,
    Batch.sceneRow_eq files ⟨config, selection, attempts⟩ scene, ?_⟩
  intro options hresolve
  -- Both sides now speak of the same findings.
  simp only [Report.run_eq_ok hresolve hselection]
  constructor
  · rw [Option.isNone_eq_false_iff, Option.isSome_iff_exists]
    constructor
    · rintro ⟨_, findings, hfindings, -⟩
      exact ⟨findings, hfindings⟩
    · rintro ⟨findings, hfindings⟩
      exact ⟨_, findings, hfindings, rfl⟩
  · rintro _ ⟨findings, hfindings, rfl⟩
    have hsummary := Findings.summary_isSome hfindings
    have hscene : scene.findings? files config selection = some findings := hfindings
    rw [hscene]
    refine ⟨Row.sharesMeasures_rowOf config scene findings, ?_⟩
    obtain ⟨record, _ | summary⟩ := findings
    · rw [if_neg fun h => Bool.false_ne_true (hsummary.2 h)]
      exact Row.lackSummary_rowOf config scene record
    · rw [if_pos (hsummary.1 rfl)]
      exact Row.sharesSummary_rowOf config scene record summary

/-- The responses of a scene of five pixels, three of them vegetation. -/
def twoResponses : Files := fun path =>
  if path = "ndvi.json" then
    some "\x7b\"statistics\": \x7b\"ndvi\": \x7b\"mean\": 0.5\x7d\x7d\x7d".toUTF8
  else if path = "classes.json" then
    some ("\x7b\"statistics\": \x7b\"SCL\": \x7b\"count\": 5.0, "
      ++ "\"histogram\": [[3, 2], [4, 5]]\x7d\x7d\x7d").toUTF8
  else none

def vegetationScene : Scene := ⟨"s2/fields", "2022-06-11", none, "ndvi.json", some "classes.json"⟩

theorem a_scene_with_both_responses_agrees :
    Batch.vegetationOnly.validate = .ok () ∧
      ∃ selection row report,
        Batch.sceneRow twoResponses ⟨Batch.vegetationOnly, selection, 3⟩ vegetationScene =
          .ok (row, false) ∧
        Report.run twoResponses (.stats "ndvi.json" (some "classes.json") none []
          Batch.vegetationOnly.options) = .ok report ∧
        row.SharesMeasures report ∧ row.SharesSummary report := by
  have hvalid : Batch.vegetationOnly.validate = .ok () := rfl
  obtain ⟨-, selection, row, blank, hselection, hrow, hoptions⟩ :=
    row_and_report_agree twoResponses Batch.vegetationOnly 3 vegetationScene hvalid
  cases hselection
  obtain ⟨hblank, hagree⟩ := hoptions _ (MaskConfig.resolve_options hvalid twoResponses)
  have hruns : (Report.run twoResponses (.stats "ndvi.json" (some "classes.json") none []
      Batch.vegetationOnly.options)).isOk = true := by
    decide +kernel
  cases hreport : Report.run twoResponses (.stats "ndvi.json" (some "classes.json") none []
      Batch.vegetationOnly.options) with
  | error failure =>
    rw [hreport] at hruns
    cases hruns
  | ok report =>
    obtain ⟨hmeasures, hsummary⟩ := hagree report hreport
    rw [if_pos ⟨rfl, rfl⟩] at hsummary
    rw [hblank.1 ⟨report, hreport⟩] at hrow
    exact ⟨hvalid, _, row, report, hrow, rfl, hmeasures, hsummary⟩

end SceneMask
