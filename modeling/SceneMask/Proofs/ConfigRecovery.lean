-- Masking parameters read back from their own text. Written as JSON they are
-- an object with one entry for each field, and each field is read from its
-- own entry. A whole fill stays whole and a real one stays real: the text of
-- a real number shows what it is.
import Mathlib
import SceneMask.MaskConfig
import SceneMask.Proofs.JsonTexts

namespace SceneMask

/-! ## Records -/

namespace Document

theorem mapM_key (entries : List (String × Document)) :
    (entries.map fun entry => (some entry.1, entry.2)).mapM
      (fun (entry : Option String × Document) => entry.1.map fun key => (key, entry.2)) =
        some entries := by
  induction entries with
  | nil => rfl
  | cons entry rest ih => simp [ih]

/-- An object that has known fields only, each of them once, is a record with
these fields. -/
theorem fields?_object {names : List String} {entries : List (String × Document)}
    (hknown : ∀ entry ∈ entries, entry.1 ∈ names) (hnodup : (entries.map Prod.fst).Nodup) :
    fields? names (object (entries.map fun entry => (some entry.1, entry.2))) =
      some ⟨false, entries⟩ := by
  have hfilter : (entries.filter fun entry => names.contains entry.1) = entries := by
    rw [List.filter_eq_self]
    intro entry hmem
    exact List.contains_iff_mem.2 (hknown entry hmem)
  simp only [fields?, mapM_key, Option.bind_eq_bind, Option.bind_some, hfilter, if_pos hnodup]

end Document

namespace Json

theorem entryDocuments_eq_map (entries : List (String × Json)) :
    entryDocuments entries =
      (entries.map fun entry => (entry.1, entry.2.document)).map fun entry =>
        (some entry.1, entry.2) := by
  induction entries with
  | nil => rfl
  | cons head rest ih => simp [entryDocuments, ih]

/-- A record that is written with the fields that its reader knows is read
field by field. -/
theorem fields?_document {names : List String} {entries : List (String × Json)}
    (hkeys : entries.map Prod.fst = names) (hnodup : names.Nodup) :
    ∃ fields, (object entries).document.fields? names = some fields ∧
      ∀ name json, (name, json) ∈ entries →
        ∀ {α : Type} (read? : Document → Option α) (fallback : α),
          fields.optional? name read? fallback = read? json.document := by
  subst hkeys
  have hkeys : (entries.map fun entry => (entry.1, entry.2.document)).map Prod.fst =
      entries.map Prod.fst := by
    rw [List.map_map]
    rfl
  refine ⟨⟨false, entries.map fun entry => (entry.1, entry.2.document)⟩, ?_, ?_⟩
  · rw [document, entryDocuments_eq_map]
    apply Document.fields?_object
    · intro entry hmem
      rw [← hkeys]
      exact List.mem_map_of_mem hmem
    · rw [hkeys]
      exact hnodup
  · intro name json hmem α read? fallback
    have hlookup : (entries.map fun entry => (entry.1, entry.2.document)).lookup name =
        some json.document := by
      rw [KeyMap.lookup_eq_some_iff_mem (by rwa [hkeys])]
      exact List.mem_map.2 ⟨_, hmem, rfl⟩
    simp only [Document.Fields.optional?, hlookup]

theorem list?_strings (items : List String) :
    (strings items).document.list? Document.text? = some items := by
  rw [strings, document, Document.list?]
  induction items with
  | nil => rfl
  | cons s rest ih => simp [documents, document, Document.text?, ih]

end Json

/-! ## Fields -/

theorem Policy.ofName?_name (policy : Policy) : ofName? policy.name = some policy := by
  cases policy with
  | whitelist => rfl
  | blacklist => rfl

namespace Fill

theorem ofDocument?_toJson {fill : Fill} (h : fill.isFinite = true) :
    ofDocument? fill.toJson.document = some fill := by
  cases fill with
  | int n => simp only [toJson, Json.int, Json.document, ofDocument?, word?_toInt]
  | float x => simp only [toJson, Json.real_eq_number h, Json.document, ofDocument?]

/-- The text of a fill is read back if it has the value of the fill. -/
theorem readable_toJson {fill : Fill} (h : fill.isFinite = true)
    (hvalue : ∀ x, fill = float x → Json.KeepsValue x) (depth : Nat) :
    fill.toJson.Readable depth := by
  cases fill with
  | int n => exact .number (JsonNumber.readsBack_whole _)
  | float x =>
    rw [toJson, Json.real_eq_number h]
    exact .number (JsonNumber.readsBack_real h (hvalue x rfl))

end Fill

/-! ## Parameters -/

namespace MaskConfig

/-- The entries of the text, one for each field. -/
def entries (config : MaskConfig) : List (String × Json) := [
  ("mask_attribute", .string config.classBand),
  ("classes", .strings config.classes),
  ("policy", .string config.policy.name),
  ("fill_value", config.fill.toJson),
  ("band_names", .ofOption .strings config.bandNames)]

theorem toJson_eq (config : MaskConfig) : config.toJson = .object config.entries := rfl

/-- The parameters are read from the document that is written for them, each
field from its entry. -/
theorem ofDocument?_toJson {config : MaskConfig} (h : config.fill.isFinite = true) :
    ofDocument? config.toJson.document = some config := by
  have hkeys : config.entries.map Prod.fst = fieldNames := rfl
  obtain ⟨fields, hfields, hread⟩ := Json.fields?_document hkeys (by decide)
  have hbands : (Json.ofOption .strings config.bandNames).document.nullable?
      (Document.list? Document.text?) = some config.bandNames := by
    cases config.bandNames with
    | none => rfl
    | some names =>
      show ((Json.strings names).document.list? Document.text?).map some = _
      rw [Json.list?_strings, Option.map_some]
  rw [toJson_eq, ofDocument?, hfields]
  simp only [Option.bind_eq_bind, Option.bind_some]
  rw [hread "mask_attribute" (.string config.classBand) (by simp [entries]),
    hread "classes" (.strings config.classes) (by simp [entries]),
    hread "policy" (.string config.policy.name) (by simp [entries]),
    hread "fill_value" config.fill.toJson (by simp [entries]),
    hread "band_names" (.ofOption .strings config.bandNames) (by simp [entries]),
    Json.list?_strings, Fill.ofDocument?_toJson h, hbands]
  simp [Json.document, Document.text?, Document.name?, Policy.ofName?_name]

/-- The text of the parameters is read as their document. The entries are not
in order of their keys, and need not be. -/
theorem reads_toJson {config : MaskConfig} (h : config.fill.isFinite = true)
    (hvalue : ∀ x, config.fill = .float x → Json.KeepsValue x) (layout : Json.Layout) :
    Document.Reads (config.toJson.text layout) config.toJson.document := by
  have hbands : (Json.ofOption .strings config.bandNames).Readable 1 := by
    cases config.bandNames with
    | none => exact .null
    | some names => exact Json.readable_strings 0 names
  have hentries : ∀ entry ∈ config.entries, entry.2.Readable 1 := by
    simp only [entries, List.forall_mem_cons]
    exact ⟨.string _, Json.readable_strings 0 _, .string _, Fill.readable_toJson h hvalue 1,
      hbands, List.forall_mem_nil _⟩
  rw [toJson_eq, Json.document]
  exact Document.reads_object layout fun entry hmem =>
    Document.reads_of_readable (hentries entry hmem) layout.deeper

/-- Parameters that pass their check are read back from their text, in any
layout, as what they were: the names and the classes in their own spelling,
band names if there were any, and a whole fill whole and a real one real. So
they put every target under the same mask as before, or fail with the same
fault. What a real number has to bring is that its text has its value. -/
theorem checked_parameters_are_read_back {config : MaskConfig} (h : config.validate = .ok ())
    (hvalue : ∀ x, config.fill = .float x → Json.KeepsValue x) (path : String)
    (layout : Json.Layout) :
    parse path (String.ofList (config.toJson.text layout)) = .ok config ∧
      ∀ target, (parse path (String.ofList (config.toJson.text layout)) >>= (compile · target)) =
        config.compile target := by
  obtain ⟨-, hfinite, -⟩ := validate_eq_ok.1 h
  have hparse : parse path (String.ofList (config.toJson.text layout)) = .ok config := by
    unfold parse
    rw [(reads_toJson hfinite hvalue layout).read?_eq, Option.bind_some,
      ofDocument?_toJson hfinite, Option.elim_some]
    simp only [bind, Except.bind, h]
    rfl
  refine ⟨hparse, fun target => ?_⟩
  rw [hparse]
  rfl

/-- A real number whose text has an exponent. -/
def tinyFill : Double := .ofDecimal true ⟨25, -8⟩

/-- Parameters with odd spellings, and with names of bands that need
escapes. -/
def oddParameters : MaskConfig where
  classBand := " S\"CL\n"
  classes := [" 9\t", "arable", "Water"]
  policy := .blacklist
  fill := .float tinyFill
  bandNames := some ["", "B\x01\\"]

theorem odd_parameters_are_read_back :
    oddParameters.validate = .ok () ∧ Json.KeepsValue tinyFill ∧
      parse "mask.json" oddParameters.toJson.pretty = .ok oddParameters := by
  have hselection : oddParameters.selection =
      .ok ⟨[.cloudHighProbability, .vegetation, .bareSoil, .water], by decide⟩ := rfl
  have hvalid : oddParameters.validate = .ok () :=
    validate_eq_ok.2 ⟨by decide +kernel, by decide +kernel, _, hselection⟩
  have hvalue : Json.KeepsValue tinyFill := by decide +kernel
  refine ⟨hvalid, hvalue, ?_⟩
  refine (checked_parameters_are_read_back hvalid ?_ "mask.json" (.indented 0)).1
  intro x hx
  have htiny : tinyFill = x := Fill.float.inj hx
  subst htiny
  exact hvalue

end MaskConfig

end SceneMask
