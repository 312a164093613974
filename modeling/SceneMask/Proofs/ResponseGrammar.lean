-- The grammar of statistics responses. A response is accepted just if its
-- statistics are one entry whose fields have the right kinds, and the
-- record then has the numbers of these fields. Every other response is a
-- transient fault.
import Mathlib
import SceneMask.Observation
import SceneMask.Proofs.Numerals

namespace SceneMask

/-! ## Paths -/

namespace Json

/-- A path leads from a value to one inside it, by the keys of objects and
the positions of arrays. -/
inductive Leads : List String → Json → Json → Prop
  | here (json : Json) : Leads [] json json
  | key {name : String} {names : List String} {entries : List (String × Json)}
      {value target : Json} (h : entries.lookup name = some value)
      (rest : Leads names value target) : Leads (name :: names) (.object entries) target
  | position {i : Nat} {names : List String} {items : List Json} {value target : Json}
      (h : items[i]? = some value) (rest : Leads names value target) :
      Leads (showNat i :: names) (.array items) target

theorem step?_array_eq_some_iff {name : String} {items : List Json} {value : Json} :
    (array items).step? name = some value ↔ ∃ i, name = showNat i ∧ items[i]? = some value := by
  simp only [step?, Option.bind_eq_bind, Option.bind_eq_some_iff, Option.ite_none_right_eq_some]
  constructor
  · rintro ⟨i, -, hdigits, hitem⟩
    refine ⟨i, ?_, hitem⟩
    rw [showNat, hdigits, String.ofList_toList]
  · rintro ⟨i, rfl, hitem⟩
    have hname : (showNat i).toList = digits i := String.toList_ofList
    refine ⟨i, ?_, hname.symm, hitem⟩
    rw [hname, readDigits?_digits]

theorem path?_eq_some_iff {names : List String} {json target : Json} :
    json.path? names = some target ↔ Leads names json target := by
  induction names generalizing json with
  | nil =>
    constructor
    · intro h
      cases h
      exact .here _
    · rintro ⟨⟩
      rfl
  | cons name names ih =>
    have hcons : json.path? (name :: names) = (json.step? name).bind fun value =>
        value.path? names := List.foldlM_cons ..
    rw [hcons, Option.bind_eq_some_iff]
    constructor
    · rintro ⟨value, hvalue, hrest⟩
      cases json with
      | object entries => exact .key hvalue (ih.1 hrest)
      | array items =>
        obtain ⟨i, rfl, hitem⟩ := step?_array_eq_some_iff.1 hvalue
        exact .position hitem (ih.1 hrest)
      | _ => cases hvalue
    · intro h
      cases h with
      | key hvalue hrest => exact ⟨_, hvalue, ih.2 hrest⟩
      | position hitem hrest =>
        exact ⟨_, step?_array_eq_some_iff.2 ⟨_, rfl, hitem⟩, ih.2 hrest⟩

end Json

/-! ## Names -/

theorem Measure.name_injective {m m' : Measure} (h : m.name = m'.name) : m = m' := by
  have hnodup : (all.map name).Nodup := by decide
  exact List.inj_on_of_nodup_map hnodup m.mem_all m'.mem_all h

namespace Statistics

theorem name_ne_histogram (m : Measure) : m.name ≠ "histogram" := by cases m <;> decide

theorem name_mem_fieldNames (m : Measure) : m.name ∈ fieldNames :=
  List.mem_append_left _ (List.mem_map.2 ⟨m, m.mem_all, rfl⟩)

/-- A name is that of a measure, that of the histogram, or unknown. -/
theorem name_cases (name : String) :
    (∃ m : Measure, name = m.name) ∨ name = "histogram" ∨ name ∉ fieldNames := by
  by_cases hmeasure : ∃ m : Measure, name = m.name
  · exact Or.inl hmeasure
  by_cases hhistogram : name = "histogram"
  · exact Or.inr (Or.inl hhistogram)
  refine Or.inr (Or.inr ?_)
  intro hmem
  rcases List.mem_append.1 hmem with hmem | hmem
  · obtain ⟨m, -, rfl⟩ := List.mem_map.1 hmem
    exact hmeasure ⟨m, rfl⟩
  · exact hhistogram (List.mem_singleton.1 hmem)

/-! ## Where statistics stand -/

/-- Where the statistics of a response stand: under its own key, whatever
value that has, and without that key in its first feature. -/
inductive Stands (response : Json) : Json → Prop
  | own {entries : List (String × Json)} {value : Json} (h : response = .object entries)
      (hvalue : entries.lookup "statistics" = some value) : Stands response value
  | feature {value : Json}
      (h : ∀ entries, response = .object entries → entries.lookup "statistics" = none)
      (hvalue : Json.Leads ["features", "0", "properties", "statistics"] response value) :
      Stands response value

theorem statistics?_eq_some_iff {response value : Json} :
    statistics? response = some value ↔ Stands response value := by
  unfold statistics?
  rw [Option.or_eq_some_iff, Json.path?_eq_some_iff]
  constructor
  · rintro (hown | ⟨hnone, hfeature⟩)
    · cases response with
      | object entries => exact .own rfl hown
      | _ => cases hown
    · refine .feature ?_ hfeature
      rintro entries rfl
      exact hnone
  · rintro (⟨rfl, hvalue⟩ | ⟨h, hvalue⟩)
    · exact Or.inl hvalue
    · refine Or.inr ⟨?_, hvalue⟩
      cases response with
      | object entries => exact h entries rfl
      | _ => rfl

/-! ## Fields -/

/-- The number that a value is. -/
def double? : Json → Option Double
  | .number n => some n.toDouble
  | _ => none

/-- The two lists of numbers that a value is. -/
def histogram? : Json → Option ValueHistogram
  | .array [.array counts, .array labels] =>
    some ⟨counts.filterMap double?, labels.filterMap double?⟩
  | _ => none

def IsMeasure (json : Json) : Prop := json = .null ∨ ∃ n, json = .number n

def IsHistogram (json : Json) : Prop :=
  json = .null ∨ ∃ counts labels : List JsonNumber,
    json = .array [.array (counts.map .number), .array (labels.map .number)]

/-- A field has the right kind; any value will do for an unknown one. -/
structure Fits (entry : String × Json) : Prop where
  measure : ∀ m : Measure, m.name = entry.1 → IsMeasure entry.2
  histogram : entry.1 = "histogram" → IsHistogram entry.2

/-- The record of some fields: their numbers, under the known names. -/
def ofFields (fields : KeyMap Json) : Statistics where
  value m := (fields.get? m.name).bind double?
  histogram := (fields.get? "histogram").bind histogram?

theorem readMeasure_eq_ok_iff {json : Json} {x : Option Double} :
    readMeasure json = .ok x ↔ IsMeasure json ∧ x = double? json := by
  unfold IsMeasure
  cases json <;> simp [readMeasure, readDouble, double?, Except.map, eq_comm]

theorem mapM_readDouble_eq_ok_iff {items : List Json} {xs : List Double} :
    items.mapM readDouble = .ok xs ↔
      ∃ numbers : List JsonNumber, items = numbers.map .number ∧ xs = items.filterMap double? := by
  induction items generalizing xs with
  | nil => simp [pure, Except.pure, eq_comm]
  | cons item rest ih =>
    rw [List.mapM_cons, bind_eq_ok]
    constructor
    · rintro ⟨x, hx, h⟩
      obtain ⟨more, hmore, h⟩ := bind_eq_ok.1 h
      cases h
      obtain ⟨numbers, rfl, rfl⟩ := ih.1 hmore
      cases item with
      | number n =>
        cases hx
        exact ⟨n :: numbers, rfl, rfl⟩
      | _ => cases hx
    · rintro ⟨_ | ⟨n, numbers⟩, hitems, rfl⟩
      · cases hitems
      · cases hitems
        exact ⟨n.toDouble, rfl, bind_eq_ok.2 ⟨_, ih.2 ⟨numbers, rfl, rfl⟩, rfl⟩⟩

theorem readHalf_eq_ok_iff {json : Json} {xs : List Double} :
    readHalf json = .ok xs ↔ ∃ numbers : List JsonNumber,
      json = .array (numbers.map .number) ∧ xs = (numbers.map Json.number).filterMap double? := by
  cases json with
  | array items =>
    rw [readHalf, mapM_readDouble_eq_ok_iff]
    constructor
    · rintro ⟨numbers, rfl, rfl⟩
      exact ⟨numbers, rfl, rfl⟩
    · rintro ⟨numbers, hitems, rfl⟩
      cases hitems
      exact ⟨numbers, rfl, rfl⟩
  | _ => simp [readHalf]

/-- Two lists are read, with nothing after them. -/
theorem readPair_cons_cons_eq_ok_iff {counts labels : Json} {more : List Json}
    {histogram : ValueHistogram} :
    readPair (.array (counts :: labels :: more)) = .ok histogram ↔
      readHalf counts = .ok histogram.counts ∧ readHalf labels = .ok histogram.labels ∧
        more = [] := by
  rw [readPair, bind_eq_ok]
  constructor
  · rintro ⟨xs, hxs, h⟩
    obtain ⟨ys, hys, h⟩ := bind_eq_ok.1 h
    cases more with
    | nil =>
      cases h
      exact ⟨hxs, hys, rfl⟩
    | cons json rest => cases h
  · rintro ⟨hxs, hys, rfl⟩
    exact ⟨_, hxs, bind_eq_ok.2 ⟨_, hys, rfl⟩⟩

theorem readPair_eq_ok_iff {json : Json} {histogram : ValueHistogram} :
    readPair json = .ok histogram ↔ (∃ counts labels : List JsonNumber,
      json = .array [.array (counts.map .number), .array (labels.map .number)]) ∧
        some histogram = histogram? json := by
  constructor
  · intro h
    cases json with
    | array items =>
      rcases items with _ | ⟨first, _ | ⟨second, more⟩⟩
      · simp [readPair] at h
      · obtain ⟨xs, -, hthrow⟩ := bind_eq_ok.1 h
        cases hthrow
      · obtain ⟨hcounts, hlabels, rfl⟩ := readPair_cons_cons_eq_ok_iff.1 h
        obtain ⟨counts, rfl, hxs⟩ := readHalf_eq_ok_iff.1 hcounts
        obtain ⟨labels, rfl, hys⟩ := readHalf_eq_ok_iff.1 hlabels
        refine ⟨⟨counts, labels, rfl⟩, ?_⟩
        rw [histogram?, ← hxs, ← hys]
    | _ => simp [readPair] at h
  · rintro ⟨⟨counts, labels, rfl⟩, hhistogram⟩
    cases hhistogram
    exact readPair_cons_cons_eq_ok_iff.2
      ⟨readHalf_eq_ok_iff.2 ⟨counts, rfl, rfl⟩, readHalf_eq_ok_iff.2 ⟨labels, rfl, rfl⟩, rfl⟩

theorem readHistogram_eq_ok_iff {json : Json} {histogram : Option ValueHistogram} :
    readHistogram json = .ok histogram ↔ IsHistogram json ∧ histogram = histogram? json := by
  have hnull : readHistogram .null = .ok none := rfl
  have hother : json ≠ .null → readHistogram json = (readPair json).map some := by
    intro h
    cases json <;> first | rfl | exact absurd rfl h
  by_cases h : json = .null
  · subst h
    simp [hnull, IsHistogram, histogram?, eq_comm]
  · rw [hother h, map_eq_ok]
    simp only [readPair_eq_ok_iff, IsHistogram, h, false_or]
    constructor
    · rintro ⟨pair, ⟨hshape, hpair⟩, rfl⟩
      exact ⟨hshape, hpair⟩
    · rintro ⟨⟨counts, labels, rfl⟩, rfl⟩
      exact ⟨_, ⟨⟨counts, labels, rfl⟩, rfl⟩, rfl⟩

/-! ## Entries -/

theorem find?_name (m : Measure) : Measure.all.find? (fun m' => m'.name = m.name) = some m := by
  rcases hfind : Measure.all.find? (fun m' => m'.name = m.name) with _ | m'
  · exact absurd (decide_eq_true rfl) (List.find?_eq_none.1 hfind m m.mem_all)
  · have hname : m'.name = m.name := by simpa using List.find?_some hfind
    rw [hfind, Measure.name_injective hname]

section Field

variable (record : Statistics) (fields : KeyMap Json) (m : Measure) (json : Json) {name : String}

theorem readField_measure :
    readField record (m.name, json) = (readMeasure json).map fun x =>
      { record with value := fun m' => if m' = m then x else record.value m' } := by
  unfold readField
  rw [find?_name]
  cases readMeasure json <;> rfl

theorem readField_histogram :
    readField record ("histogram", json) = (readHistogram json).map fun h =>
      { record with histogram := h } := by
  have hfind : Measure.all.find? (fun m => m.name = "histogram") = none := by decide
  unfold readField
  rw [hfind]
  cases readHistogram json <;> rfl

theorem readField_unknown (h : name ∉ fieldNames) : readField record (name, json) = .ok record := by
  have hfind : Measure.all.find? (fun m => m.name = name) = none := by
    rw [List.find?_eq_none]
    intro m _ hname
    rw [← of_decide_eq_true hname] at h
    exact h (name_mem_fieldNames m)
  have hname : name ≠ "histogram" := by
    rintro rfl
    exact h (by decide)
  unfold readField
  rw [hfind]
  exact if_neg hname

theorem ofFields_insert_measure :
    ofFields (fields.insert m.name json) =
      { ofFields fields with
        value := fun m' => if m' = m then double? json else (ofFields fields).value m' } := by
  unfold ofFields
  simp only [KeyMap.get?_insert, (name_ne_histogram m).symm, if_false]
  congr 1
  funext m'
  by_cases h : m' = m
  · simp [h]
  · have hname : m'.name ≠ m.name := fun heq => h (Measure.name_injective heq)
    simp [h, hname]

theorem ofFields_insert_histogram :
    ofFields (fields.insert "histogram" json) =
      { ofFields fields with histogram := histogram? json } := by
  unfold ofFields
  simp only [KeyMap.get?_insert, name_ne_histogram, if_false, if_true, Option.bind_some]

theorem ofFields_insert_unknown (h : name ∉ fieldNames) :
    ofFields (fields.insert name json) = ofFields fields := by
  have hmeasure : ∀ m : Measure, m.name ≠ name := by
    rintro m rfl
    exact h (name_mem_fieldNames m)
  have hhistogram : "histogram" ≠ name := by
    rintro rfl
    exact h (by decide)
  unfold ofFields
  simp only [KeyMap.get?_insert, hmeasure, hhistogram, if_false]

end Field

/-- One entry more: it has to fit, and its value counts from then on. -/
theorem readField_ofFields_eq_ok_iff {fields : KeyMap Json} {entry : String × Json}
    {record : Statistics} :
    readField (ofFields fields) entry = .ok record ↔
      Fits entry ∧ record = ofFields (fields.insert entry.1 entry.2) := by
  obtain ⟨name, json⟩ := entry
  rcases name_cases name with ⟨m, rfl⟩ | rfl | hunknown
  · have hfits : Fits (m.name, json) ↔ IsMeasure json := by
      refine ⟨fun h => h.measure m rfl, fun h => ⟨fun _ _ => h, fun hname => ?_⟩⟩
      exact absurd hname (name_ne_histogram m)
    rw [readField_measure, hfits, ofFields_insert_measure]
    exact map_eq_ok_of_iff fun x => readMeasure_eq_ok_iff
  · have hfits : Fits ("histogram", json) ↔ IsHistogram json := by
      refine ⟨fun h => h.histogram rfl, fun h => ⟨fun m hname => ?_, fun _ => h⟩⟩
      exact absurd hname (name_ne_histogram m)
    rw [readField_histogram, hfits, ofFields_insert_histogram]
    exact map_eq_ok_of_iff fun histogram => readHistogram_eq_ok_iff
  · have hfits : Fits (name, json) := by
      constructor
      · rintro m rfl
        exact absurd (name_mem_fieldNames m) hunknown
      · rintro rfl
        exact absurd (by decide) hunknown
    rw [readField_unknown _ _ hunknown, ofFields_insert_unknown _ _ hunknown, Except.ok.injEq]
    exact ⟨fun h => ⟨hfits, h.symm⟩, fun h => h.2.symm⟩

/-- Entries make a record just if all of them fit. It has their numbers, of
entries with the same name those of the last one. -/
theorem readFields_eq_ok_iff {entries : List (String × Json)} {record : Statistics} :
    readFields entries = .ok record ↔
      (∀ entry ∈ entries, Fits entry) ∧ record = ofFields (.ofList entries) := by
  induction entries using List.reverseRecOn generalizing record with
  | nil =>
    have hblank : blank = ofFields (.ofList []) := rfl
    rw [readFields, List.foldlM_nil, ← hblank]
    simp [pure, Except.pure, eq_comm]
  | append_singleton rest entry ih =>
    have hinsert : KeyMap.ofList (rest ++ [entry]) =
        (KeyMap.ofList rest).insert entry.1 entry.2 := List.foldl_append
    have hread : readFields (rest ++ [entry]) =
        (readFields rest >>= fun before => readField before entry) := by
      simp [readFields, List.foldlM_append]
    rw [hread, bind_eq_ok, hinsert]
    simp only [ih, List.forall_mem_append, List.forall_mem_singleton]
    constructor
    · rintro ⟨before, ⟨hrest, rfl⟩, hentry⟩
      obtain ⟨hfits, rfl⟩ := readField_ofFields_eq_ok_iff.1 hentry
      exact ⟨⟨hrest, hfits⟩, rfl⟩
    · rintro ⟨⟨hrest, hfits⟩, rfl⟩
      exact ⟨_, ⟨hrest, rfl⟩, readField_ofFields_eq_ok_iff.2 ⟨hfits, rfl⟩⟩

/-- Unknown names do not count, not even for the fault that is reported. -/
theorem readFields_filter (entries : List (String × Json)) :
    readFields (entries.filter fun entry => fieldNames.contains entry.1) = readFields entries := by
  unfold readFields
  rw [List.foldlM_filter]
  congr 1
  funext record entry
  split
  · rfl
  · rename_i h
    have hunknown : entry.1 ∉ fieldNames := by simpa using h
    exact (readField_unknown record entry.2 hunknown).symm

/-! ## Responses -/

/-- The statistics of a response are one entry whose fields fit, and make
this record. -/
def Accepts (response : Json) (record : Statistics) : Prop :=
  ∃ name fields, Stands response (.object [(name, .object fields)]) ∧
    (∀ entry ∈ fields, Fits entry) ∧ record = ofFields (.ofList fields)

/-- A response has no statistics, or no entry in them. -/
def Lacks (response : Json) : Prop :=
  (∀ json, ¬Stands response json) ∨ Stands response (.object [])

theorem parse_of_lacks {response : Json} (h : Lacks response) :
    ∃ key, parse response = .error (.missingKey key) := by
  unfold parse
  rcases h with hnone | hempty
  · have hlost : statistics? response = none := by
      rw [Option.eq_none_iff_forall_ne_some]
      intro json hjson
      exact hnone json (statistics?_eq_some_iff.1 hjson)
    exact ⟨_, by rw [hlost]⟩
  · exact ⟨_, by rw [statistics?_eq_some_iff.2 hempty]⟩

theorem parse_of_entry {response : Json} {name : String} {fields : List (String × Json)}
    (h : Stands response (.object [(name, .object fields)])) :
    parse response = (readFields fields).mapError (.badEntry name) := by
  unfold parse
  rw [statistics?_eq_some_iff.2 h]

/-- Whatever else stands there is malformed. -/
theorem parse_of_other {response : Json} (hlacks : ¬Lacks response)
    (h : ∀ name fields, ¬Stands response (.object [(name, .object fields)])) :
    ∃ reason, parse response = .error (.malformedPayload reason) := by
  have hstands : ∃ json, Stands response json := by
    by_contra hnone
    exact hlacks (Or.inl fun json hjson => hnone ⟨json, hjson⟩)
  obtain ⟨json, hjson⟩ := hstands
  have hempty : json ≠ .object [] := by
    rintro rfl
    exact hlacks (Or.inr hjson)
  have hentry : ∀ name fields, json ≠ .object [(name, .object fields)] := by
    rintro name fields rfl
    exact h name fields hjson
  unfold parse
  rw [statistics?_eq_some_iff.2 hjson]
  split
  · contradiction
  · exact absurd (Option.some.inj ‹_›) hempty
  · exact absurd (Option.some.inj ‹_›) (hentry _ _)
  · exact ⟨_, rfl⟩
  · exact ⟨_, rfl⟩
  · exact ⟨_, rfl⟩

theorem parse_of_accepts {response : Json} {record : Statistics} (h : Accepts response record) :
    parse response = .ok record := by
  obtain ⟨name, fields, hstands, hfields⟩ := h
  rw [parse_of_entry hstands, readFields_eq_ok_iff.2 hfields]
  rfl

/-- A response lacks its statistics, is accepted, or is malformed. -/
theorem parse_cases (response : Json) :
    (Lacks response ∧ ∃ key, parse response = .error (.missingKey key)) ∨
      (¬Lacks response ∧ ∃ record, Accepts response record ∧ parse response = .ok record) ∨
      (¬Lacks response ∧ (¬∃ record, Accepts response record) ∧
        ∃ reason, parse response = .error (.malformedPayload reason)) := by
  by_cases hlacks : Lacks response
  · exact Or.inl ⟨hlacks, parse_of_lacks hlacks⟩
  refine Or.inr ?_
  have hmalformed : (∃ reason, parse response = .error (.malformedPayload reason)) →
      ¬∃ record, Accepts response record := by
    rintro ⟨reason, hreason⟩ ⟨record, haccepts⟩
    rw [parse_of_accepts haccepts] at hreason
    cases hreason
  by_cases hentry : ∃ name fields, Stands response (.object [(name, .object fields)])
  · obtain ⟨name, fields, hstands⟩ := hentry
    have hparse := parse_of_entry hstands
    cases hread : readFields fields with
    | ok record =>
      rw [hread] at hparse
      exact Or.inl ⟨hlacks, record, ⟨name, fields, hstands, readFields_eq_ok_iff.1 hread⟩, hparse⟩
    | error reason =>
      rw [hread] at hparse
      exact Or.inr ⟨hlacks, hmalformed ⟨_, hparse⟩, _, hparse⟩
  · have hother := parse_of_other hlacks fun name fields hstands => hentry ⟨name, fields, hstands⟩
    exact Or.inr ⟨hlacks, hmalformed hother, hother⟩

theorem parse_eq_ok_iff {response : Json} {record : Statistics} :
    parse response = .ok record ↔ Accepts response record := by
  refine ⟨fun h => ?_, parse_of_accepts⟩
  rcases parse_cases response with ⟨-, key, hparse⟩ | ⟨-, record', haccepts, hparse⟩ |
    ⟨-, -, reason, hparse⟩
  · rw [hparse] at h
    cases h
  · rw [hparse] at h
    cases h
    exact haccepts
  · rw [hparse] at h
    cases h

end Statistics

namespace Observation

open Statistics

/-- A response is accepted just by its grammar: its statistics, under its own
key or else in its first feature, are one entry whose measures are numbers
or null and whose histogram is a pair of lists of numbers or null. The record
has these numbers, and the context comes back as it was given. A response
without statistics or without an entry in them lacks a key, every other one
is malformed, and both faults are transient. Fields with unknown names never
matter. -/
theorem a_response_is_accepted_just_by_its_grammar (response : Json) (context : Context) :
    (∀ observation, parse response context = .ok observation ↔
      Accepts response observation.statistics ∧ observation.context = context) ∧
    ((∃ key, parse response context = .error (.missingKey key)) ↔ Lacks response) ∧
    ((∃ reason, parse response context = .error (.malformedPayload reason)) ↔
      ¬Lacks response ∧ ¬∃ record, Accepts response record) ∧
    (∀ fault, parse response context = .error fault → fault.isTransient = true) ∧
    ∀ (other : Json) (name : String) (fields fields' : List (String × Json)),
      Stands response (.object [(name, .object fields)]) →
      Stands other (.object [(name, .object fields')]) →
      (fields'.filter fun entry => fieldNames.contains entry.1) =
        (fields.filter fun entry => fieldNames.contains entry.1) →
      parse other context = parse response context := by
  refine ⟨?_, ?_, ?_, ?_, ?_⟩
  · rintro ⟨record, context'⟩
    rw [parse, map_eq_ok]
    simp only [parse_eq_ok_iff, Observation.mk.injEq]
    constructor
    · rintro ⟨_, haccepts, rfl, rfl⟩
      exact ⟨haccepts, rfl⟩
    · rintro ⟨haccepts, rfl⟩
      exact ⟨record, haccepts, rfl, rfl⟩
  · unfold parse
    rcases parse_cases response with ⟨hlacks, key, hparse⟩ | ⟨hlacks, record, -, hparse⟩ |
      ⟨hlacks, -, reason, hparse⟩
    · rw [hparse]
      exact iff_of_true ⟨key, rfl⟩ hlacks
    · rw [hparse]
      exact iff_of_false nofun hlacks
    · rw [hparse]
      exact iff_of_false nofun hlacks
  · unfold parse
    rcases parse_cases response with ⟨hlacks, key, hparse⟩ | ⟨-, record, haccepts, hparse⟩ |
      ⟨hlacks, hnone, reason, hparse⟩
    · rw [hparse]
      exact iff_of_false nofun fun h => h.1 hlacks
    · rw [hparse]
      exact iff_of_false nofun fun h => h.2 ⟨record, haccepts⟩
    · rw [hparse]
      exact iff_of_true ⟨reason, rfl⟩ ⟨hlacks, hnone⟩
  · intro fault h
    unfold parse at h
    rcases parse_cases response with ⟨-, key, hparse⟩ | ⟨-, record, -, hparse⟩ |
      ⟨-, -, reason, hparse⟩
    · rw [hparse] at h
      cases h
      rfl
    · rw [hparse] at h
      cases h
    · rw [hparse] at h
      cases h
      rfl
  · intro other name fields fields' hstands hother hsame
    have hread : readFields fields' = readFields fields := by
      rw [← readFields_filter fields', hsame, readFields_filter]
    rw [parse, parse, parse_of_entry hstands, parse_of_entry hother, hread]

/-- Two pixels of a class, with a key that no record has. -/
def classFields : List (String × Json) := [
  ("count", .natural 2),
  ("histogram", .array [.array [.natural 2], .array [.natural 4]]),
  ("note", .string "two pixels")]

/-- A response with its statistics in the first feature. -/
def classResponse : Json :=
  .object [("features", .array [.object [("properties", .object [("statistics",
    .object [("SCL", .object classFields)])])]])]

theorem an_entry_of_the_first_feature_is_accepted :
    ∃ observation, parse classResponse .empty = .ok observation ∧
      observation.statistics.value .count = some (.ofNat 2) ∧
      observation.statistics.value .mean = none ∧
      observation.statistics.histogram = some ⟨[.ofNat 2], [.ofNat 4]⟩ := by
  have hstands : Stands classResponse (.object [("SCL", .object classFields)]) := by
    refine .feature ?_ (Json.path?_eq_some_iff.1 rfl)
    rintro entries hentries
    cases hentries
    rfl
  have hfits : ∀ entry ∈ classFields, Fits entry := by
    have hunknown : ∀ m : Measure, m.name ≠ "note" := by
      rintro m hm
      have hmem := name_mem_fieldNames m
      rw [hm] at hmem
      exact absurd hmem (by decide)
    simp only [classFields, List.forall_mem_cons]
    refine ⟨⟨fun _ _ => Or.inr ⟨_, rfl⟩, nofun⟩, ⟨?_, fun _ => ?_⟩, ⟨?_, nofun⟩, nofun⟩
    · exact fun m hm => absurd hm (name_ne_histogram m)
    · exact Or.inr ⟨[.whole 2 (by decide)], [.whole 4 (by decide)], rfl⟩
    · exact fun m hm => absurd hm (hunknown m)
  refine ⟨⟨ofFields (.ofList classFields), .empty⟩,
    ((a_response_is_accepted_just_by_its_grammar classResponse .empty).1 _).2
      ⟨⟨"SCL", classFields, hstands, hfits, rfl⟩, rfl⟩, ?_, ?_, ?_⟩
  · rfl
  · rfl
  · rfl

end Observation

end SceneMask
