-- The masking parameters that all requests of a run share.
import SceneMask.Mask

namespace SceneMask

structure MaskConfig where
  /-- The band that holds the classes. -/
  classBand : String
  /-- Names and codes of classes, and names of groups. -/
  classes : List String
  policy : Policy
  fill : Fill
  bandNames : Option (List String)
deriving DecidableEq

namespace MaskConfig

/-- Masks nothing, and would fill with the real number zero. -/
def standard : MaskConfig where
  classBand := "SCL"
  classes := []
  policy := .whitelist
  fill := .float (.zero false)
  bandNames := none

instance : Inhabited MaskConfig := ⟨standard⟩

def selection (config : MaskConfig) : Except Fault Selection := Selection.parse config.classes

/-- The band that holds the classes has a name, the fill is finite, and the classes make a
selection. -/
def validate (config : MaskConfig) : Except Fault Unit := do
  if (trim config.classBand).isEmpty then throw .blankAttribute
  if !config.fill.isFinite then throw .fillNotFinite
  let _ ← config.selection

theorem validate_eq_ok {config : MaskConfig} :
    config.validate = .ok () ↔ (trim config.classBand).isEmpty = false ∧
      config.fill.isFinite = true ∧ ∃ selection, config.selection = .ok selection := by
  unfold validate
  cases (trim config.classBand).isEmpty with
  | true => simp [throw, throwThe, MonadExceptOf.throw, bind, Except.bind]
  | false =>
    cases config.fill.isFinite with
    | false => simp [throw, throwThe, MonadExceptOf.throw, bind, Except.bind]
    | true =>
      cases config.selection with
      | error fault => simp [bind, Except.bind]
      | ok selection => simp [bind, Except.bind, pure, Except.pure]

/-- Puts a target under the mask of the parameters. -/
def compile (config : MaskConfig) (target : Target) : Except Fault Target := do
  let selection ← config.selection
  Mask.compile ⟨selection, config.policy, config.fill, config.classBand⟩ target

/-! ## JSON -/

def fieldNames : List String :=
  ["mask_attribute", "classes", "policy", "fill_value", "band_names"]

def toJson (config : MaskConfig) : Json :=
  .object [
    ("mask_attribute", .string config.classBand),
    ("classes", .strings config.classes),
    ("policy", .string config.policy.name),
    ("fill_value", config.fill.toJson),
    ("band_names", .ofOption .strings config.bandNames)]

/-- A field that is left out keeps its standard value. -/
def ofDocument? (document : Document) : Option MaskConfig := do
  let fields ← document.fields? fieldNames
  return {
    classBand := ← fields.optional? "mask_attribute" Document.text? standard.classBand
    classes := ← fields.optional? "classes" (Document.list? Document.text?) standard.classes
    policy := ← fields.optional? "policy" (fun d => d.name?.bind Policy.ofName?) standard.policy
    fill := ← fields.optional? "fill_value" Fill.ofDocument? standard.fill
    bandNames := ← fields.optional? "band_names"
      (Document.nullable? (Document.list? Document.text?)) standard.bandNames }

/-- Reads and checks the parameters; `path` says where the text is from. -/
def parse (path text : String) : Except Fault MaskConfig := do
  let config ← ((Document.read? text).bind ofDocument?).elim (.error (.configFile path)) .ok
  config.validate
  return config

end MaskConfig

end SceneMask
