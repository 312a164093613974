-- What can be asked for on the command line, and the words for it. Options
-- for masks go over the values of a configuration file.
import SceneMask.CommandLine.Grammar
import SceneMask.Files

namespace SceneMask.CommandLine

/-! ## Values -/

def anyText : String → Except UsageError String := .ok

/-- The path of a file, which is not empty. -/
def path (word : String) : Except UsageError String :=
  if word.isEmpty then .error .invalidValue else .ok word

/-- A value with a reader of its own. -/
def checked {α : Type} (parse : String → Except Fault α) (word : String) : Except UsageError α :=
  (parse word).mapError fun _ => .valueValidation

def unsignedWord (word : String) : Except UsageError UInt64 :=
  (readNat? 0xFFFFFFFFFFFFFFFF word.toList).elim (.error .valueValidation) fun n => .ok (.ofNat n)

/-- A number of attempts, of 32 bits. -/
def attemptCount (word : String) : Except UsageError Nat :=
  match readInt? word.toList with
  | some n => if 0 ≤ n ∧ n ≤ 0xFFFFFFFF then .ok n.toNat else .error .valueValidation
  | none => .error .valueValidation

/-- An action that reads a value and puts it into the settings. -/
def taking {σ α : Type} (parse : String → Except UsageError α) (put : α → σ → σ) : Action σ :=
  .value fun word s => (parse word).map fun a => put a s

/-- The options that every command knows. More messages change no result. -/
def common {σ : Type} : List (Parameter σ) :=
  [⟨"verbose", some 'v', .flag id, false, none, false⟩,
    ⟨"help", some 'h', .help, false, none, false⟩]

/-! ## Masks -/

structure MaskOptions where
  config : Option String := none
  classes : List String := []
  policy : Option Policy := none
  fill : Option Fill := none
  classBand : Option String := none
  bandNames : Option (List String) := none

namespace MaskOptions

def options : List (Parameter MaskOptions) := [
  { name := "config", action := taking path fun p s => { s with config := some p } },
  { name := "classes", separator := some ',', repeats := true,
    action := taking anyText fun c s => { s with classes := s.classes ++ [c] } },
  { name := "policy", action := taking (checked Policy.parse) fun p s =>
      { s with policy := some p } },
  { name := "fill", takesAnyWord := true, action := taking (checked Fill.parse) fun f s =>
      { s with fill := some f } },
  { name := "attribute", action := taking anyText fun a s => { s with classBand := some a } },
  { name := "band-names", separator := some ',', repeats := true,
    action := taking anyText fun n s =>
      { s with bandNames := some (s.bandNames.getD [] ++ [n]) } }]

/-- The options over the values of a configuration. -/
def applyTo (options : MaskOptions) (config : MaskConfig) : MaskConfig where
  classBand := options.classBand.getD config.classBand
  classes := if options.classes.isEmpty then config.classes else options.classes
  policy := options.policy.getD config.policy
  fill := options.fill.getD config.fill
  bandNames := options.bandNames.or config.bandNames

/-- The configuration of a run, checked again with the options over it. -/
def resolve (options : MaskOptions) (files : Files) : Except Fault MaskConfig := do
  let config ← options.config.elim (.ok .standard) files.maskConfig
  let config := options.applyTo config
  config.validate
  return config

theorem resolve_eq_ok {options : MaskOptions} {files : Files} {config : MaskConfig} :
    options.resolve files = .ok config ↔
      ∃ base, options.config.elim (.ok .standard) files.maskConfig = .ok base ∧
        options.applyTo base = config ∧ config.validate = .ok () := by
  unfold resolve
  simp only [bind_eq_ok]
  constructor
  · rintro ⟨base, hbase, _, hvalid, h⟩
    cases h
    exact ⟨base, hbase, rfl, hvalid⟩
  · rintro ⟨base, hbase, rfl, hvalid⟩
    exact ⟨base, hbase, (), hvalid, rfl⟩

end MaskOptions

/-! ## Requests -/

inductive Request where
  | compile (assets : Option (List String)) (expression : Option String) (mask : MaskOptions)
  | crop (input : String) (mask : MaskOptions)
  | account (input : String) (mask : MaskOptions)
  | stats (response : String) (classResponse : Option String) (outside : Option UInt64)
      (context : List String) (mask : MaskOptions)

structure CompileOptions where
  expression : Option String := none
  assets : Option (List String) := none
  mask : MaskOptions := {}

namespace CompileOptions

def grammar : Grammar CompileOptions where
  initial := {}
  operands := []
  options := [
    { name := "expression", letter := some 'e',
      action := taking anyText fun e s => { s with expression := some e } },
    { name := "assets", letter := some 'a', separator := some ',', repeats := true,
      action := taking anyText fun a s => { s with assets := some (s.assets.getD [] ++ [a]) } }]
    ++ MaskOptions.options.map (.within mask fun m s => { s with mask := m }) ++ common

/-- An expression and assets exclude each other. -/
def request (options : CompileOptions) : Except UsageError Request :=
  if options.expression.isSome && options.assets.isSome then .error .argumentConflict
  else .ok (.compile options.assets options.expression options.mask)

end CompileOptions

structure CropOptions where
  input : Option String := none
  mask : MaskOptions := {}

namespace CropOptions

def grammar : Grammar CropOptions where
  initial := {}
  operands := [
    { name := "input", action := taking path fun p s => { s with input := some p } }]
  options := MaskOptions.options.map (.within mask fun m s => { s with mask := m }) ++ common

/-- The crop has to be named. -/
def request (make : String → MaskOptions → Request) (options : CropOptions) :
    Except UsageError Request :=
  options.input.elim (.error .missingArgument) fun input => .ok (make input options.mask)

end CropOptions

structure StatsOptions where
  response : Option String := none
  classResponse : Option String := none
  outside : Option UInt64 := none
  context : List String := []
  mask : MaskOptions := {}

namespace StatsOptions

def grammar : Grammar StatsOptions where
  initial := {}
  operands := [
    { name := "response", action := taking path fun p s => { s with response := some p } }]
  options := [
    { name := "scl", action := taking path fun p s => { s with classResponse := some p } },
    { name := "outside",
      action := taking unsignedWord fun n s => { s with outside := some n } },
    { name := "meta", repeats := true,
      action := taking anyText fun e s => { s with context := s.context ++ [e] } }]
    ++ MaskOptions.options.map (.within mask fun m s => { s with mask := m }) ++ common

/-- The response has to be named, and pixels outside count only beside the
response of the classification band. -/
def request (options : StatsOptions) : Except UsageError Request :=
  match options.response with
  | none => .error .missingArgument
  | some response =>
    if options.outside.isSome && options.classResponse.isNone then .error .missingArgument
    else .ok (.stats response options.classResponse options.outside options.context options.mask)

end StatsOptions

namespace Request

/-- The files that a request names. -/
def paths : Request → List String
  | .compile _ _ mask => mask.config.toList
  | .crop input mask => input :: mask.config.toList
  | .account input mask => input :: mask.config.toList
  | .stats response classResponse _ _ mask =>
    response :: classResponse.toList ++ mask.config.toList

def names : List String := ["compile", "crop", "account", "stats"]

def top : Grammar Unit := ⟨(), common, []⟩

def parse (words : List String) : Except UsageError Request := do
  let (name, rest) ← top.subcommand names top.start words
  if name = "compile" then (← CompileOptions.grammar.read rest).request
  else if name = "crop" then (← CropOptions.grammar.read rest).request crop
  else if name = "account" then (← CropOptions.grammar.read rest).request account
  else (← StatsOptions.grammar.read rest).request

end Request

/-! ## Batches -/

structure BatchOptions where
  manifest : Option String := none
  output : String := "data/stats_rows.json"
  config : Option String := none
  attempts : Nat := 3
  delay : UInt64 := 2000

structure BatchRequest where
  manifest : String
  output : String
  config : Option String
  attempts : Nat
  /-- Milliseconds between two attempts. Files stay as they are while a batch
  runs, so nothing waits for them. -/
  delay : UInt64

namespace BatchOptions

def grammar : Grammar BatchOptions where
  initial := {}
  operands := []
  options := [
    { name := "manifest", letter := some 'm',
      action := taking path fun p s => { s with manifest := some p } },
    { name := "output", letter := some 'o',
      action := taking path fun p s => { s with output := p } },
    { name := "config", letter := some 'c',
      action := taking path fun p s => { s with config := some p } },
    { name := "attempts", action := taking attemptCount fun n s => { s with attempts := n } },
    { name := "delay-ms", action := taking unsignedWord fun n s => { s with delay := n } }]
    ++ common

/-- The manifest has to be named. -/
def request (options : BatchOptions) : Except UsageError BatchRequest :=
  options.manifest.elim (.error .missingArgument) fun manifest =>
    .ok { manifest, output := options.output, config := options.config,
          attempts := options.attempts, delay := options.delay }

end BatchOptions

namespace BatchRequest

/-- The files that a batch names before its manifest is read. -/
def paths (request : BatchRequest) : List String := request.manifest :: request.config.toList

def parse (words : List String) : Except UsageError BatchRequest := do
  (← BatchOptions.grammar.read words).request

end BatchRequest

end SceneMask.CommandLine
