-- What can go wrong in the library's own rules, with the wording of every
-- cause, and the failures of a run, which wrap a cause in its context.
import SceneMask.Number.Shortest
import SceneMask.Text.Quoted

namespace SceneMask

inductive Fault where
  /-- A parameter that contradicts itself or another one. -/
  | configuration (parameter : String) (reason : String)
  /-- Samples of the wrong shape or type. -/
  | typeCompatibility (reason : String)
  /-- A configuration file that cannot be read. -/
  | configFile (path : String)
  /-- A statistics response without a key that it needs. -/
  | missingKey (key : String)
  /-- A statistics response with a key of the wrong shape. -/
  | malformedPayload (reason : String)
deriving DecidableEq, Repr

namespace Fault

def message : Fault → String
  | configuration parameter reason => "invalid `" ++ parameter ++ "`: " ++ reason
  | typeCompatibility reason => "type compatibility: " ++ reason
  | configFile path => "config file " ++ path
  | missingKey key => "statistics response is missing `" ++ key ++ "`"
  | malformedPayload reason => "malformed statistics payload: " ++ reason

/-- The call that met this fault may be tried again. -/
def isTransient : Fault → Bool
  | missingKey _ => true
  | malformedPayload _ => true
  | _ => false

/-! ## Classes and rules -/

def unknownClassCode (code : Nat) : Fault :=
  configuration "classes" ("unknown class code " ++ showNat code)

def unknownClassName (name : String) : Fault :=
  configuration "classes" ("unknown class name " ++ quoted name)

def unknownClassGroup (name : String) : Fault :=
  configuration "classes" ("unknown class group " ++ quoted name)

def repeatedClass (name : String) : Fault :=
  configuration "rule_set" (name ++ " listed more than once")

def unknownPolicy (text : String) : Fault :=
  configuration "policy" ("expected whitelist|blacklist, got " ++ quoted text)

/-! ## Sample types and fill values -/

def unknownSampleType (text : String) : Fault :=
  configuration "dtype" ("unknown dtype " ++ quoted text)

def fillNotANumber (text : String) : Fault :=
  configuration "fill_value" ("not a number: " ++ quoted text)

def fillNotFinite : Fault := configuration "fill_value" "must be finite"

def fillWithoutLiteral (fill : String) : Fault :=
  configuration "fill_value" (fill ++ " has no literal in the expression grammar")

def noExactSuperset (fill sampleType : String) : Fault :=
  typeCompatibility ("nodata value " ++ fill ++ " has no exact " ++ sampleType ++ " superset")

/-! ## Targets and masks -/

def bothTargets : Fault :=
  configuration "assets" "both `assets` and `expression` are set; only one is allowed"

def noTarget : Fault :=
  configuration "expression" "either `assets` or `expression` must be set"

def noAssets : Fault := configuration "assets" "asset list is empty"

def blankExpression : Fault := configuration "expression" "expression is empty"

def blankAttribute : Fault := configuration "mask_attribute" "must name a band"

def assetsCannotBeMasked : Fault :=
  configuration "assets"
    "asset references cannot carry per-pixel conditions; pass an expression instead"

def nothingToMask : Fault := configuration "expression" "no expression to mask"

/-! ## Crops and rasters -/

def wrongRank (dimensions : Nat) : Fault :=
  typeCompatibility
    ("expected (band, row, column) array, got " ++ showNat dimensions ++ " dimension(s)")

def shapeMismatch (shape : List Nat) (samples : Nat) : Fault :=
  typeCompatibility
    ("shape " ++ bracketed (shape.map showNat) ++ " does not match " ++ showNat samples
      ++ " samples")

def tooFewBands (bands : Nat) : Fault :=
  typeCompatibility
    ("need at least one data band and an alpha band, got " ++ showNat bands ++ " band(s)")

def bandNameCount (names bands : Nat) : Fault :=
  configuration "band_names" (showNat names ++ " names for " ++ showNat bands ++ " data bands")

def rangeCount (ranges bands : Nat) : Fault :=
  configuration "rescale" (showNat ranges ++ " ranges for " ++ showNat bands ++ " data bands")

def rangeShape (text : String) : Fault :=
  configuration "rescale" ("expected \"lo,hi\", got " ++ quoted text)

def rangeNotANumber (text : String) : Fault :=
  configuration "rescale" ("not a number: " ++ quoted text)

def emptyRange (low high : Double) : Fault :=
  configuration "rescale"
    ("empty range " ++ String.ofList low.plain ++ "," ++ String.ofList high.plain)

/-! ## Statistics -/

def statisticsNotObject : Fault := malformedPayload "`statistics` is not an object"

def severalEntries (keys : List String) : Fault :=
  malformedPayload
    ("expected one statistics entry, got " ++ showNat keys.length ++ ": "
      ++ bracketed (keys.map quoted))

def entryNotObject (name : String) : Fault :=
  malformedPayload ("statistics entry `" ++ name ++ "` is not an object")

def badEntry (name reason : String) : Fault :=
  malformedPayload ("statistics entry `" ++ name ++ "`: " ++ reason)

def histogramLengths (counts labels : Nat) : Fault :=
  malformedPayload
    ("histogram has " ++ showNat counts ++ " counts for " ++ showNat labels ++ " labels")

def notAPixelCount (count : Double) : Fault :=
  malformedPayload ("histogram count " ++ String.ofList count.plain ++ " is not a pixel count")

end Fault

/-! ## Failures of a run -/

/-- Why a run ended early. A context says what was being done. -/
inductive Failure where
  | fault (fault : Fault)
  /-- A file is missing or is no text. -/
  | unreadable
  /-- A text is no JSON of the expected form. -/
  | notJson
  /-- A file is no image that can be decoded. -/
  | notTiff
  | note (text : String)
  | context (doing : String) (failure : Failure)
deriving DecidableEq, Repr

namespace Failure

/-- Some link of the chain is a transient fault. -/
def isTransient : Failure → Bool
  | fault f => f.isTransient
  | context _ failure => failure.isTransient
  | _ => false

/-- The fault at the end of the chain. -/
def fault? : Failure → Option Fault
  | fault f => some f
  | context _ failure => failure.fault?
  | _ => none

/-- The innermost link. -/
def cause : Failure → Failure
  | context _ failure => failure.cause
  | failure => failure

/-- All texts of the chain, the outermost first. What the system or a
reader reports about a file is not part of them. -/
def texts : Failure → List String
  | fault f => [f.message]
  | note text => [text]
  | context doing failure => doing :: failure.texts
  | _ => []

def message (failure : Failure) : String := ": ".intercalate failure.texts

end Failure

/-- Gives the failure of a step its context. -/
def during {α : Type} (doing : String) (result : Except Failure α) : Except Failure α :=
  result.mapError (.context doing)

/-- The result of a rule, with its fault as a failure. -/
def orFail {α : Type} (result : Except Fault α) : Except Failure α :=
  result.mapError .fault

/-! ## Results of steps -/

section Results

variable {ε ε' α β : Type}

theorem bind_eq_ok {x : Except ε α} {f : α → Except ε β} {b : β} :
    (x >>= f) = .ok b ↔ ∃ a, x = .ok a ∧ f a = .ok b := by
  cases x <;> simp [bind, Except.bind]

theorem bind_of_eq_ok {x : Except ε α} {a : α} {f : α → Except ε β} (h : x = .ok a) :
    (x >>= f) = f a := by
  rw [h]
  rfl

theorem map_eq_ok {x : Except ε α} {f : α → β} {b : β} :
    x.map f = .ok b ↔ ∃ a, x = .ok a ∧ f a = b := by
  cases x <;> simp [Except.map]

/-- A step with one possible result, under a condition, and what is made of
the result. -/
theorem map_eq_ok_of_iff {x : Except ε α} {p : Prop} {a : α}
    (h : ∀ a', x = .ok a' ↔ p ∧ a' = a) {f : α → β} {b : β} :
    x.map f = .ok b ↔ p ∧ b = f a := by
  rw [map_eq_ok]
  constructor
  · rintro ⟨a', ha', rfl⟩
    obtain ⟨hp, rfl⟩ := (h a').1 ha'
    exact ⟨hp, rfl⟩
  · rintro ⟨hp, rfl⟩
    exact ⟨a, (h a).2 ⟨hp, rfl⟩, rfl⟩

theorem elim_error_eq_ok {x : Option α} {cause : ε} {a : α} :
    x.elim (.error cause : Except ε α) .ok = .ok a ↔ x = some a := by
  cases x <;> simp

theorem elim_error_eq_error {x : Option α} {cause cause' : ε} :
    x.elim (.error cause : Except ε α) .ok = .error cause' ↔ cause' = cause ∧ x = none := by
  cases x <;> simp [eq_comm]

theorem toOption_eq_some {x : Except ε α} {a : α} : x.toOption = some a ↔ x = .ok a := by
  cases x <;> simp [Except.toOption]

theorem mapError_eq_ok {x : Except ε α} {f : ε → ε'} {a : α} :
    x.mapError f = .ok a ↔ x = .ok a := by
  constructor
  · intro h
    cases x with
    | error cause => cases h
    | ok b =>
      cases h
      rfl
  · rintro rfl
    rfl

theorem orFail_eq_ok {x : Except Fault α} {a : α} : orFail x = .ok a ↔ x = .ok a :=
  mapError_eq_ok

theorem during_eq_ok {doing : String} {x : Except Failure α} {a : α} :
    during doing x = .ok a ↔ x = .ok a :=
  mapError_eq_ok

/-- Steps that all come to a result make a list of the results. -/
theorem mapM_eq_ok {items : List α} {f : α → Except ε β} {g : α → β}
    (h : ∀ a ∈ items, f a = .ok (g a)) : items.mapM f = .ok (items.map g) := by
  induction items with
  | nil => rfl
  | cons a rest ih =>
    have hrest := ih fun b hb => h b (List.mem_cons_of_mem a hb)
    rw [List.mapM_cons, h a List.mem_cons_self, hrest]
    rfl

end Results

end SceneMask
