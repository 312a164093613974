-- What the files of a scene say: the statistics of its response, and the
-- summary of the response of its classification band. The laws here say
-- that a row of a batch and a report of the command line are two views of
-- these findings, and fail where there are none.
import Mathlib
import SceneMask.Batch
import SceneMask.Proofs.Retries
import SceneMask.Report

namespace SceneMask

/-- Files stay as they are between two attempts, so more attempts come to
the same result. -/
theorem Attempts.result_run_const {α : Type} (limit : Nat) (result : Except Failure α) :
    (run limit fun _ => result).result = result := by
  obtain ⟨k, hk⟩ := exists_isLeast_stops limit fun _ => result
  rw [run_eq hk]

/-! ## What files say -/

namespace Files

/-- The statistics that a file holds: it can be read, it is JSON, and the
JSON is a response with statistics. -/
def statistics? (files : Files) (path : String) : Option Statistics := do
  let text ← files.text? path
  let json ← Json.read? text
  (Statistics.parse json).toOption

theorem json_eq_ok {files : Files} {reading parsing path : String} {json : Json} :
    files.json reading parsing path = .ok json ↔
      (files.text? path).bind Json.read? = some json := by
  unfold Files.json Files.text
  rw [bind_eq_ok]
  simp only [during_eq_ok, elim_error_eq_ok, Option.bind_eq_some_iff]

theorem statistics?_eq_some {files : Files} {path : String} {record : Statistics} :
    files.statistics? path = some record ↔
      ∃ json, (files.text? path).bind Json.read? = some json ∧
        Statistics.parse json = .ok record := by
  unfold statistics?
  simp only [Option.bind_eq_bind, Option.bind_eq_some_iff, toOption_eq_some]
  constructor
  · rintro ⟨text, htext, json, hjson, hrecord⟩
    exact ⟨json, ⟨text, htext, hjson⟩, hrecord⟩
  · rintro ⟨json, ⟨text, htext, hjson⟩, hrecord⟩
    exact ⟨text, htext, json, hjson, hrecord⟩

theorem statistics?_congr {files files' : Files} {path : String} (h : files' path = files path) :
    files'.statistics? path = files.statistics? path := by
  unfold statistics? text?
  rw [h]

/-- The summary of the response of a classification band. The response has
to hold statistics even if there is no selection to sum up. -/
def summary? (files : Files) (selection : Selection) (policy : Policy) (path : String) :
    Option (Option Summary) := do
  let classes ← files.statistics? path
  if selection.isEmpty then return none
  (Summary.ofStatistics classes selection policy).toOption.map some

theorem summary?_eq_some {files : Files} {selection : Selection} {policy : Policy}
    {path : String} {summary : Option Summary} :
    files.summary? selection policy path = some summary ↔
      ∃ classes, files.statistics? path = some classes ∧
        if selection.isEmpty then none = summary
        else ∃ s, Summary.ofStatistics classes selection policy = .ok s ∧ some s = summary := by
  unfold summary?
  simp only [Option.bind_eq_bind, Option.bind_eq_some_iff]
  apply exists_congr
  intro classes
  apply and_congr_right
  intro _
  split
  · simp
  · simp [toOption_eq_some]

end Files

/-- What the responses of a scene say. -/
structure Findings where
  record : Statistics
  summary : Option Summary

namespace Findings

/-- The findings in the files of a response, and of a response of the
classification band if there is one. -/
def read? (files : Files) (selection : Selection) (policy : Policy) (response : String)
    (classResponse : Option String) : Option Findings := do
  let record ← files.statistics? response
  let summary ← classResponse.elim (some none) (files.summary? selection policy)
  return ⟨record, summary⟩

/-- The statistics with the summary in its two measures. -/
def statistics (findings : Findings) : Statistics :=
  findings.summary.elim findings.record findings.record.withSummary

/-- A context with the counts and shares of the summary. -/
def extend (findings : Findings) (context : Context) : Context :=
  findings.summary.elim context fun summary =>
    (context.insert "scl_hist_count" summary.countsJson).insert "scl_hist_pct"
      summary.percentsJson

def observation (findings : Findings) (context : Context) : Observation :=
  ⟨findings.statistics, findings.extend context⟩

variable {files files' : Files} {selection : Selection} {policy : Policy} {response : String}
  {classResponse : Option String}

theorem read?_eq_some {findings : Findings} :
    read? files selection policy response classResponse = some findings ↔
      files.statistics? response = some findings.record ∧
        classResponse.elim (some none) (files.summary? selection policy) =
          some findings.summary := by
  obtain ⟨record, summary⟩ := findings
  unfold read?
  simp only [Option.bind_eq_bind, Option.bind_eq_some_iff, Option.pure_def, Option.some.injEq,
    Findings.mk.injEq]
  constructor
  · rintro ⟨r, hr, s, hs, rfl, rfl⟩
    exact ⟨hr, hs⟩
  · rintro ⟨hr, hs⟩
    exact ⟨record, hr, summary, hs, rfl, rfl⟩

/-- Findings depend on the files that are named and on no others. -/
theorem read?_congr (h : ∀ path ∈ response :: classResponse.toList, files' path = files path) :
    read? files' selection policy response classResponse =
      read? files selection policy response classResponse := by
  have hresponse := Files.statistics?_congr (h response List.mem_cons_self)
  unfold read?
  rw [hresponse]
  cases classResponse with
  | none => rfl
  | some path =>
    have hpath := Files.statistics?_congr (h path (by simp))
    simp only [Option.elim_some, Files.summary?, hpath]

/-- There is a summary if there is a response to sum up and a selection. -/
theorem summary_isSome {findings : Findings}
    (h : read? files selection policy response classResponse = some findings) :
    findings.summary.isSome ↔ classResponse.isSome ∧ selection.isEmpty = false := by
  obtain ⟨-, hsummary⟩ := read?_eq_some.1 h
  cases classResponse with
  | none =>
    rw [Option.elim_none, Option.some.injEq] at hsummary
    simp [← hsummary]
  | some path =>
    obtain ⟨classes, -, hclasses⟩ := Files.summary?_eq_some.1 hsummary
    cases hselection : selection.isEmpty with
    | false =>
      rw [hselection, if_neg (by decide)] at hclasses
      obtain ⟨s, -, hs⟩ := hclasses
      simp [← hs]
    | true =>
      rw [hselection, if_pos rfl] at hclasses
      simp [← hclasses]

end Findings

/-! ## Where findings are missing -/

/-- A scene cannot be processed: its response holds no statistics, or that
of its classification band does not, or these cannot be summed up for the
selection. -/
inductive Scene.Fails (files : Files) (config : MaskConfig) (selection : Selection)
    (scene : Scene) : Prop
  | response (h : files.statistics? scene.response = none)
  | classResponse {path : String} (hpath : scene.classResponse = some path)
      (h : files.statistics? path = none)
  | summary {path : String} {classes : Statistics} {fault : Fault}
      (hpath : scene.classResponse = some path) (hclasses : files.statistics? path = some classes)
      (hselection : selection.isEmpty = false)
      (h : Summary.ofStatistics classes selection config.policy = .error fault)

/-- The findings of a scene. -/
def Scene.findings? (files : Files) (config : MaskConfig) (selection : Selection)
    (scene : Scene) : Option Findings :=
  Findings.read? files selection config.policy scene.response scene.classResponse

theorem Scene.fails_iff {files : Files} {config : MaskConfig} {selection : Selection}
    {scene : Scene} :
    scene.Fails files config selection ↔ scene.findings? files config selection = none := by
  unfold findings? Findings.read? Files.summary?
  constructor
  · intro h
    cases h with
    | response h => simp [h]
    | classResponse hpath h => simp [hpath, h]
    | summary hpath hclasses hselection h =>
      simp [hpath, hclasses, hselection, h, Except.toOption]
  · intro h
    cases hresponse : files.statistics? scene.response with
    | none => exact .response hresponse
    | some record =>
      cases hpath : scene.classResponse with
      | none => simp [hresponse, hpath] at h
      | some path =>
        cases hclasses : files.statistics? path with
        | none => exact .classResponse hpath hclasses
        | some classes =>
          cases hselection : selection.isEmpty with
          | true => simp [hresponse, hpath, hclasses, hselection] at h
          | false =>
            cases hsummary : Summary.ofStatistics classes selection config.policy with
            | error fault => exact .summary hpath hclasses hselection hsummary
            | ok summary =>
              simp [hresponse, hpath, hclasses, hselection, hsummary, Except.toOption] at h

instance (files : Files) (config : MaskConfig) (selection : Selection) (scene : Scene) :
    Decidable (scene.Fails files config selection) :=
  decidable_of_iff (scene.findings? files config selection = none) Scene.fails_iff.symm

/-! ## Readers of findings -/

namespace Batch

theorem observe_eq_ok {files : Files} {attempts : Nat} {path : String} {context : Context}
    {observation : Observation} :
    observe files attempts path context = .ok observation ↔
      ∃ record, files.statistics? path = some record ∧ observation = ⟨record, context⟩ := by
  unfold observe
  rw [Attempts.result_run_const, bind_eq_ok]
  simp only [Files.json_eq_ok, orFail_eq_ok, Observation.parse, map_eq_ok,
    Files.statistics?_eq_some]
  constructor
  · rintro ⟨json, hjson, record, hrecord, rfl⟩
    exact ⟨record, ⟨json, hjson, hrecord⟩, rfl⟩
  · rintro ⟨record, ⟨json, hjson, hrecord⟩, rfl⟩
    exact ⟨json, hjson, record, hrecord, rfl⟩

/-- A scene is observed as its findings say, however often its files are
read. -/
theorem observeScene_eq_ok {files : Files} {settings : Settings} {scene : Scene}
    {observation : Observation} :
    observeScene files settings scene = .ok observation ↔
      ∃ findings, scene.findings? files settings.config settings.selection = some findings ∧
        observation = findings.observation (scene.context settings.config) := by
  unfold observeScene Scene.findings?
  simp only [bind_eq_ok, observe_eq_ok, Findings.read?_eq_some]
  cases scene.classResponse with
  | none =>
    constructor
    · rintro ⟨_, ⟨record, hrecord, rfl⟩, h⟩
      cases h
      exact ⟨⟨record, none⟩, ⟨hrecord, rfl⟩, rfl⟩
    · rintro ⟨⟨record, summary⟩, ⟨hrecord, hsummary⟩, rfl⟩
      cases hsummary
      exact ⟨_, ⟨record, hrecord, rfl⟩, rfl⟩
  | some path =>
    simp only [Option.elim_some, Files.summary?_eq_some]
    constructor
    · rintro ⟨_, ⟨record, hrecord, rfl⟩, h⟩
      obtain ⟨_, hobserve, h⟩ := bind_eq_ok.1 h
      obtain ⟨classes, hclasses, rfl⟩ := observe_eq_ok.1 hobserve
      -- Without a selection the response of the band is read, but not summed up.
      split at h
      · cases h
        exact ⟨⟨record, none⟩, ⟨hrecord, classes, hclasses, by rw [if_pos ‹_›]⟩, rfl⟩
      · obtain ⟨summary, hsummary, h⟩ := bind_eq_ok.1 h
        cases h
        have hsome := orFail_eq_ok.1 hsummary
        exact ⟨⟨record, some summary⟩,
          ⟨hrecord, classes, hclasses, by rw [if_neg ‹_›]; exact ⟨summary, hsome, rfl⟩⟩, rfl⟩
    · rintro ⟨⟨record, summary⟩, ⟨hrecord, classes, hclasses, hsummary⟩, rfl⟩
      refine ⟨_, ⟨record, hrecord, rfl⟩, bind_eq_ok.2 ⟨_, observe_eq_ok.2 ⟨_, hclasses, rfl⟩, ?_⟩⟩
      split at hsummary
      · cases hsummary
        rw [if_pos ‹_›]
        rfl
      · obtain ⟨summary, hsome, rfl⟩ := hsummary
        rw [if_neg ‹_›]
        exact bind_eq_ok.2 ⟨summary, orFail_eq_ok.2 hsome, rfl⟩

end Batch

end SceneMask
