-- Rows lose nothing. An observation has a row just if its context has the
-- keys of the scene. These keys, the statistics and the metadata have
-- columns of their own, and the observation can be read back from them.
import Mathlib
import SceneMask.Proofs.JsonTexts
import SceneMask.Proofs.ResponseGrammar

namespace SceneMask

/-! ## Finite records -/

namespace Statistics

/-- All numbers of a record are finite. -/
structure IsFinite (record : Statistics) : Prop where
  value : ∀ m x, record.value m = some x → x.isFinite = true
  histogram : ∀ h, record.histogram = some h → ∀ x ∈ h.counts ++ h.labels, x.isFinite = true

theorem isMeasure_real (x : Option Double) : IsMeasure (.ofOption .real x) := by
  cases x with
  | none => exact Or.inl rfl
  | some x =>
    by_cases h : x.isFinite = true
    · exact Or.inr ⟨_, Json.real_eq_number h⟩
    · exact Or.inl (dif_neg h)

theorem double?_real {x : Double} (h : x.isFinite = true) : double? (.real x) = some x := by
  rw [Json.real_eq_number h]
  rfl

theorem double?_ofOption {x : Option Double} (h : ∀ y, x = some y → y.isFinite = true) :
    double? (.ofOption .real x) = x := by
  cases x with
  | none => rfl
  | some y => exact double?_real (h y rfl)

theorem map_real_eq {xs : List Double} (h : ∀ x ∈ xs, x.isFinite = true) :
    ∃ numbers : List JsonNumber, xs.map Json.real = numbers.map .number ∧
      (xs.map Json.real).filterMap double? = xs := by
  induction xs with
  | nil => exact ⟨[], rfl, rfl⟩
  | cons x rest ih =>
    obtain ⟨hx, hrest⟩ := List.forall_mem_cons.1 h
    obtain ⟨numbers, hnumbers, hread⟩ := ih hrest
    refine ⟨.real x hx :: numbers, ?_, ?_⟩
    · rw [List.map_cons, hnumbers, Json.real_eq_number hx, List.map_cons]
    · rw [List.map_cons, List.filterMap_cons, double?_real hx, hread]

/-- A histogram of finite numbers reads back. -/
theorem histogram?_toJson {histogram : ValueHistogram}
    (h : ∀ x ∈ histogram.counts ++ histogram.labels, x.isFinite = true) :
    IsHistogram histogram.toJson ∧ histogram? histogram.toJson = some histogram := by
  obtain ⟨counts, hcounts, hreadCounts⟩ :=
    map_real_eq fun x hx => h x (List.mem_append_left _ hx)
  obtain ⟨labels, hlabels, hreadLabels⟩ :=
    map_real_eq fun x hx => h x (List.mem_append_right _ hx)
  constructor
  · refine Or.inr ⟨counts, labels, ?_⟩
    rw [ValueHistogram.toJson, hcounts, hlabels]
  · rw [ValueHistogram.toJson, histogram?, hreadCounts, hreadLabels]

theorem keys_fields (record : Statistics) :
    record.fields.map Prod.fst = Measure.all.map Measure.name ++
      if record.histogram.isSome then ["histogram"] else [] := by
  unfold fields
  cases record.histogram <;> simp

end Statistics

namespace Observation

open Statistics

/-! ## The columns of the scene -/

/-- The entries of a context under some of its keys. -/
def present (context : Context) (keys : List String) : List (String × Json) :=
  keys.filterMap fun key => (context.get? key).map fun value => (key, value)

/-- The first of some keys that a context lacks. -/
def firstAbsent? (context : Context) (keys : List String) : Option String :=
  keys.find? fun key => (context.get? key).isNone

/-- The columns of the scene are there just if no key is absent; the first
one that is absent is reported. -/
theorem mapM_sceneColumn (context : Context) (keys : List String) :
    keys.mapM (sceneColumn context) =
      (firstAbsent? context keys).elim (.ok (present context keys)) fun key =>
        .error (.missingKey key) := by
  induction keys with
  | nil => rfl
  | cons key rest ih =>
    rw [List.mapM_cons, ih]
    unfold sceneColumn firstAbsent? present
    cases hkey : context.get? key with
    | none => simp [hkey, bind, Except.bind]
    | some value =>
      cases hrest : rest.find? fun key => (context.get? key).isNone <;>
        simp [hkey, hrest, bind, Except.bind, pure, Except.pure]

theorem firstAbsent?_eq_none_iff {context : Context} {keys : List String} :
    firstAbsent? context keys = none ↔ ∀ key ∈ keys, (context.get? key).isSome := by
  simp [firstAbsent?, Option.isSome_iff_ne_none]

theorem keys_present {context : Context} {keys : List String}
    (h : ∀ key ∈ keys, (context.get? key).isSome) :
    (present context keys).map Prod.fst = keys := by
  induction keys with
  | nil => rfl
  | cons key rest ih =>
    obtain ⟨hkey, hrest⟩ := List.forall_mem_cons.1 h
    obtain ⟨value, hvalue⟩ := Option.isSome_iff_exists.1 hkey
    have ih := ih hrest
    unfold present at ih ⊢
    simp [hvalue, ih]

theorem lookup_present (context : Context) (keys : List String) (key : String) :
    (present context keys).lookup key = if key ∈ keys then context.get? key else none := by
  induction keys with
  | nil => simp [present]
  | cons first rest ih =>
    unfold present at ih ⊢
    rw [List.filterMap_cons]
    cases hfirst : context.get? first with
    | none =>
      simp only [Option.map_none, ih]
      by_cases hkey : key = first <;> simp [hkey, hfirst]
    | some value =>
      simp only [Option.map_some, KeyMap.lookup_entry, ih]
      by_cases hkey : key = first <;> simp [hkey, hfirst]

theorem get?_erase_keys (context : Context) (keys : List String) (key : String) :
    (keys.foldl KeyMap.erase context).get? key =
      if key ∈ keys then none else context.get? key := by
  induction keys generalizing context with
  | nil => simp
  | cons first rest ih =>
    rw [List.foldl_cons, ih, KeyMap.get?_erase]
    by_cases hkey : key = first <;> simp [hkey]

/-- What remains of a context and the entries of the scene make up the
context. -/
theorem insertAll_present {context : Context}
    (h : ∀ key ∈ sceneKeys, (context.get? key).isSome) :
    (remainder context).insertAll (present context sceneKeys) = context := by
  have hnodup : ((present context sceneKeys).map Prod.fst).Nodup := by
    rw [keys_present h]
    decide
  apply KeyMap.ext_get?
  intro key
  rw [KeyMap.get?_insertAll, KeyMap.lookup_reverse hnodup, lookup_present, remainder,
    get?_erase_keys]
  by_cases hkey : key ∈ sceneKeys <;> simp [hkey]

/-! ## Rows -/

/-- The entries of the row of an observation, in the order in which they
are put in. -/
def entries (observation : Observation) : List (String × Json) :=
  present observation.context sceneKeys ++ observation.statistics.fields
    ++ [("metadata", .string (Json.ofMap (remainder observation.context)).compact)]

theorem row_eq (observation : Observation) :
    observation.row = (firstAbsent? observation.context sceneKeys).elim
      (.ok (.ofList observation.entries)) fun key => .error (.missingKey key) := by
  unfold row
  rw [mapM_sceneColumn]
  cases firstAbsent? observation.context sceneKeys <;> rfl

theorem row_eq_ok_iff {observation : Observation} {row : Row} :
    observation.row = .ok row ↔
      (∀ key ∈ sceneKeys, (observation.context.get? key).isSome) ∧
        row = .ofList observation.entries := by
  rw [row_eq, ← firstAbsent?_eq_none_iff]
  cases firstAbsent? observation.context sceneKeys <;> simp [eq_comm]

theorem row_eq_error_iff {observation : Observation} {fault : Fault} :
    observation.row = .error fault ↔
      ∃ key, firstAbsent? observation.context sceneKeys = some key ∧ fault = .missingKey key := by
  rw [row_eq]
  cases firstAbsent? observation.context sceneKeys <;> simp [eq_comm]

theorem keys_entries {observation : Observation}
    (h : ∀ key ∈ sceneKeys, (observation.context.get? key).isSome) :
    observation.entries.map Prod.fst = sceneKeys ++ (Measure.all.map Measure.name ++
      if observation.statistics.histogram.isSome then ["histogram"] else []) ++ ["metadata"] := by
  simp only [entries, List.map_append, keys_present h, Statistics.keys_fields, List.map_cons,
    List.map_nil]

/-- No column is put in twice, whatever keys the context has. -/
theorem nodup_keys_entries {observation : Observation}
    (h : ∀ key ∈ sceneKeys, (observation.context.get? key).isSome) :
    (observation.entries.map Prod.fst).Nodup := by
  rw [keys_entries h]
  split <;> decide

end Observation

namespace Row

open Observation (sceneKeys sceneColumn present remainder)

/-- A row spreads an observation over its columns: the keys of the scene,
the measures, the metadata, and a histogram if there is one. -/
structure Spreads (row : Row) (observation : Observation) : Prop where
  keys : row.keys.Perm
    (columns ++ if observation.statistics.histogram.isSome then ["histogram"] else [])
  scene : ∀ key ∈ sceneKeys, row.get? key = observation.context.get? key
  measure : ∀ m : Measure,
    row.get? m.name = some (.ofOption .real (observation.statistics.value m))
  histogram : row.get? "histogram" =
    observation.statistics.histogram.map ValueHistogram.toJson
  metadata : row.get? "metadata" =
    some (.string (Json.ofMap (remainder observation.context)).compact)

theorem spreads_of_row {observation : Observation} {row : Row}
    (h : observation.row = .ok row) : row.Spreads observation := by
  obtain ⟨hpresent, rfl⟩ := Observation.row_eq_ok_iff.1 h
  have hkeys := Observation.keys_entries hpresent
  have hnodup := Observation.nodup_keys_entries hpresent
  have hget : ∀ {key value}, (key, value) ∈ observation.entries →
      (KeyMap.ofList observation.entries).get? key = some value :=
    fun hmem => KeyMap.get?_ofList_of_mem hnodup hmem
  constructor
  · refine (KeyMap.keys_ofList_perm hnodup).trans ?_
    rw [hkeys, columns]
    simp only [List.append_assoc]
    exact (List.perm_append_comm.append_left _).append_left _
  · intro key hkey
    obtain ⟨value, hvalue⟩ := Option.isSome_iff_exists.1 (hpresent key hkey)
    rw [hvalue]
    apply hget
    refine List.mem_append_left _ (List.mem_append_left _ ?_)
    exact List.mem_filterMap.2 ⟨key, hkey, by rw [hvalue]; rfl⟩
  · intro m
    apply hget
    refine List.mem_append_left _ (List.mem_append_right _ (List.mem_append_left _ ?_))
    exact List.mem_map.2 ⟨m, m.mem_all, rfl⟩
  · cases hhistogram : observation.statistics.histogram with
    | some histogram =>
      apply hget
      refine List.mem_append_left _ (List.mem_append_right _ (List.mem_append_right _ ?_))
      rw [hhistogram]
      exact List.mem_singleton.2 rfl
    | none =>
      rw [hhistogram] at hkeys
      rw [KeyMap.get?_ofList_of_nodup hnodup, Option.map_none, ← Option.not_isSome_iff_eq_none,
        KeyMap.lookup_isSome_iff_mem, hkeys]
      decide
  · apply hget
    exact List.mem_append_right _ (List.mem_singleton.2 rfl)

/-! ## Reading rows -/

/-- The record that the columns of the statistics hold. -/
def statistics? (row : Row) : Option Statistics :=
  (Statistics.readFields
    (row.entries.filter fun entry => Statistics.fieldNames.contains entry.1)).toOption

/-- The context that the metadata hold. -/
def metadata? (row : Row) : Option Context :=
  match row.get? "metadata" with
  | some (.string text) => (Json.read? text).bind Context.ofJson?
  | _ => none

/-- The text of a context is read back from the metadata, if it can be
read. -/
theorem metadata?_of_text {row : Row} {context : Context}
    (htext : row.get? "metadata" = some (.string (Json.ofMap context).compact))
    (hreadable : (Json.ofMap context).Readable Document.depthLimit) :
    row.metadata? = some context := by
  unfold metadata?
  rw [htext]
  have hread : Json.read? (Json.ofMap context).compact = _ := hreadable.read?_text .compact
  simp only [hread, Option.bind_some]
  exact congrArg some (KeyMap.ofList_entries _)

/-- The observation that a row holds: its record, and its metadata with the
columns of the scene. -/
def observation? (row : Row) : Option Observation := do
  let scene ← (sceneKeys.mapM (sceneColumn row)).toOption
  let statistics ← row.statistics?
  let metadata ← row.metadata?
  return ⟨statistics, metadata.insertAll scene⟩

section Spreads

variable {row : Row} {observation : Observation} (h : row.Spreads observation)

include h

theorem fits_of_spreads (hfinite : observation.statistics.IsFinite) :
    ∀ entry ∈ row.entries, Statistics.Fits entry := by
  rintro ⟨key, value⟩ hmem
  have hget : row.get? key = some value :=
    (KeyMap.lookup_eq_some_iff_mem (KeyMap.nodup_keys row)).2 hmem
  constructor
  · rintro m rfl
    rw [h.measure] at hget
    cases hget
    exact Statistics.isMeasure_real _
  · rintro rfl
    rw [h.histogram] at hget
    obtain ⟨histogram, hhistogram, rfl⟩ := Option.map_eq_some_iff.1 hget
    exact (Statistics.histogram?_toJson (hfinite.histogram _ hhistogram)).1

theorem ofFields_of_spreads (hfinite : observation.statistics.IsFinite) :
    Statistics.ofFields row = observation.statistics := by
  have hvalue : ∀ m : Measure,
      (row.get? m.name).bind Statistics.double? = observation.statistics.value m := by
    intro m
    rw [h.measure, Option.bind_some]
    exact Statistics.double?_ofOption (hfinite.value m)
  have hhistogram :
      (row.get? "histogram").bind Statistics.histogram? = observation.statistics.histogram := by
    rw [h.histogram]
    cases hsome : observation.statistics.histogram with
    | none => rfl
    | some histogram => exact (Statistics.histogram?_toJson (hfinite.histogram _ hsome)).2
  simp only [Statistics.ofFields, hvalue, hhistogram]

/-- The columns of the statistics are read back as the record. -/
theorem statistics?_of_spreads (hfinite : observation.statistics.IsFinite) :
    row.statistics? = some observation.statistics := by
  unfold Row.statistics?
  rw [toOption_eq_some, Statistics.readFields_filter, Statistics.readFields_eq_ok_iff]
  refine ⟨fits_of_spreads h hfinite, ?_⟩
  rw [KeyMap.ofList_entries, ofFields_of_spreads h hfinite]

theorem observation?_of_spreads
    (hpresent : ∀ key ∈ sceneKeys, (observation.context.get? key).isSome)
    (hfinite : observation.statistics.IsFinite)
    (hreadable : (Json.ofMap (remainder observation.context)).Readable Document.depthLimit) :
    row.observation? = some observation := by
  have habsent : Observation.firstAbsent? row sceneKeys = none := by
    rw [Observation.firstAbsent?_eq_none_iff]
    intro key hkey
    rw [h.scene key hkey]
    exact hpresent key hkey
  have hsame : present row sceneKeys = present observation.context sceneKeys := by
    apply List.filterMap_congr
    intro key hkey
    rw [h.scene key hkey]
  unfold Row.observation?
  rw [Observation.mapM_sceneColumn, habsent, hsame, statistics?_of_spreads h hfinite,
    metadata?_of_text h.metadata hreadable]
  simp only [Option.elim_none, Except.toOption, Option.bind_eq_bind, Option.bind_some,
    Observation.insertAll_present hpresent]
  rfl

end Spreads

end Row

namespace Observation

/-- An observation has a row just if its context has all keys of the scene,
and the first one that it lacks is reported otherwise. The row has columns
for these keys, for the measures, for a histogram if there is one, and for
the rest of the context, and each of them has its own value, whatever other
keys the context has. The record is read back from the columns of the
statistics, and the context from the metadata and the columns of the scene,
if the numbers of the record are finite and the metadata can be read. So
different observations have different rows. -/
theorem rows_lose_nothing (observation : Observation) :
    ((∃ row, observation.row = .ok row) ↔
      ∀ key ∈ sceneKeys, (observation.context.get? key).isSome) ∧
    (∀ fault, observation.row = .error fault ↔
      ∃ key, sceneKeys.find? (fun key => (observation.context.get? key).isNone) = some key ∧
        fault = .missingKey key) ∧
    ∀ row, observation.row = .ok row → row.Spreads observation ∧
      (observation.statistics.IsFinite → row.statistics? = some observation.statistics) ∧
      ((Json.ofMap (remainder observation.context)).Readable Document.depthLimit →
        row.metadata? = some (remainder observation.context)) ∧
      (observation.statistics.IsFinite →
        (Json.ofMap (remainder observation.context)).Readable Document.depthLimit →
        row.observation? = some observation ∧
        ∀ other : Observation, other.statistics.IsFinite →
          (Json.ofMap (remainder other.context)).Readable Document.depthLimit →
          other.row = .ok row → other = observation) := by
  refine ⟨?_, fun fault => row_eq_error_iff, ?_⟩
  · simp only [row_eq_ok_iff, exists_and_left, exists_eq, and_true]
  · intro row hrow
    have hspreads := Row.spreads_of_row hrow
    have hpresent := (row_eq_ok_iff.1 hrow).1
    refine ⟨hspreads, Row.statistics?_of_spreads hspreads,
      Row.metadata?_of_text hspreads.metadata, ?_⟩
    intro hfinite hreadable
    have hread := Row.observation?_of_spreads hspreads hpresent hfinite hreadable
    refine ⟨hread, ?_⟩
    intro other hfinite' hreadable' hrow'
    have hread' := Row.observation?_of_spreads (Row.spreads_of_row hrow')
      (row_eq_ok_iff.1 hrow').1 hfinite' hreadable'
    rw [hread] at hread'
    exact (Option.some.inj hread').symm

def half : Double := .ofDecimal false ⟨5, -1⟩

theorem isFinite_half : half.isFinite = true := by decide +kernel

theorem readsBack_half : (JsonNumber.real half isFinite_half).ReadsBack := by decide +kernel

/-- Entries with names of columns that are not their own. -/
def crowdedEntries : List (String × Json) := [
  ("histogram", .null),
  ("mean", .array [.real half, .natural 3]),
  ("metadata", .string "\n")]

def sceneEntries : List (String × Json) := [
  ("scene_url", .string "s2/a"),
  ("acquisition_time", .string "2022-06-01"),
  ("cloud_cover_scene_pct", .natural 20)]

def crowdedContext : Context := .ofList (sceneEntries ++ crowdedEntries)

def halfMean : Statistics where
  value m := if m = .mean then some half else none
  histogram := some ⟨[half], [half]⟩

theorem isFinite_halfMean : halfMean.IsFinite := by
  constructor
  · intro m x hx
    obtain ⟨-, hx⟩ := Option.ite_none_right_eq_some.1 hx
    rw [← Option.some.inj hx]
    exact isFinite_half
  · intro h hh x hx
    rw [← Option.some.inj hh] at hx
    have hx : x = half := by simpa using hx
    rw [hx]
    exact isFinite_half

theorem isSome_crowdedContext : ∀ key ∈ sceneKeys, (crowdedContext.get? key).isSome := by
  have hkeys : (sceneEntries ++ crowdedEntries).map Prod.fst =
      sceneKeys ++ ["histogram", "mean", "metadata"] := rfl
  have hnodup : ((sceneEntries ++ crowdedEntries).map Prod.fst).Nodup := by
    rw [hkeys]
    decide
  intro key hkey
  rw [crowdedContext, KeyMap.get?_ofList_of_nodup hnodup, KeyMap.lookup_isSome_iff_mem, hkeys]
  exact List.mem_append_left _ hkey

theorem readable_crowdedContext :
    (Json.ofMap (remainder crowdedContext)).Readable Document.depthLimit := by
  have hremainder : remainder crowdedContext = .ofList crowdedEntries := by
    show (((KeyMap.ofList _).erase _).erase _).erase _ = _
    rw [KeyMap.erase_ofList, KeyMap.erase_ofList, KeyMap.erase_ofList]
    rfl
  rw [hremainder]
  refine .object (KeyMap.sorted _) ?_
  intro entry hmem
  have hentry : entry ∈ crowdedEntries := KeyMap.mem_of_mem_ofList hmem
  simp only [crowdedEntries, List.mem_cons, List.not_mem_nil, or_false] at hentry
  rcases hentry with rfl | rfl | rfl
  · exact .null
  · refine .array ?_
    simp only [List.forall_mem_cons, Json.real_eq_number isFinite_half]
    exact ⟨.number readsBack_half, .number (JsonNumber.readsBack_whole _), List.forall_mem_nil _⟩
  · exact .string _

theorem a_crowded_context_is_read_back :
    ∃ row, (⟨halfMean, crowdedContext⟩ : Observation).row = .ok row ∧
      row.get? "mean" = some (.real half) ∧
      row.observation? = some ⟨halfMean, crowdedContext⟩ := by
  obtain ⟨hrow, -, hread⟩ := rows_lose_nothing ⟨halfMean, crowdedContext⟩
  obtain ⟨row, hrow⟩ := hrow.2 isSome_crowdedContext
  obtain ⟨hspreads, -, -, hobservation⟩ := hread row hrow
  have hvalue : halfMean.value .mean = some half := by simp [halfMean]
  have hmean := hspreads.measure .mean
  rw [hvalue, Json.ofOption] at hmean
  exact ⟨row, hrow, hmean, (hobservation isFinite_halfMean readable_crowdedContext).1⟩

end Observation

end SceneMask
