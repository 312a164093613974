-- The grammar of command lines: options with a long name or a letter,
-- flags, and operands. Reading a command line changes settings step by
-- step, one step for each value.
import SceneMask.KeyMap

namespace SceneMask.CommandLine

/-! ## Parameters -/

inductive UsageError where
  | unknownArgument
  | missingArgument
  | argumentConflict
  /-- A value is missing, or is empty where it must not be. -/
  | invalidValue
  | valueValidation
  /-- A flag has a value. -/
  | tooManyValues
  | invalidSubcommand
  | missingSubcommand
  | help
  | helpForMissingSubcommand
deriving DecidableEq, Repr

inductive Action (σ : Type) where
  /-- Stands for itself. -/
  | flag (set : σ → σ)
  /-- Takes a value. -/
  | value (take : String → σ → Except UsageError σ)
  /-- Asks for help and ends the reading. -/
  | help

structure Parameter (σ : Type) where
  name : String
  letter : Option Char := none
  action : Action σ
  repeats : Bool := false
  /-- A value may hold several ones between separators. -/
  separator : Option Char := none
  /-- Takes the next word even if that looks like an option. -/
  takesAnyWord : Bool := false

structure Grammar (σ : Type) where
  initial : σ
  options : List (Parameter σ)
  operands : List (Parameter σ)

variable {σ τ : Type}

/-- A parameter for a part of larger settings. -/
def Parameter.within (get : τ → σ) (put : σ → τ → τ) (p : Parameter σ) : Parameter τ where
  name := p.name
  letter := p.letter
  action := match p.action with
    | .flag set => .flag fun t => put (set (get t)) t
    | .value take => .value fun word t => (take word (get t)).map fun s => put s t
    | .help => .help
  repeats := p.repeats
  separator := p.separator
  takesAnyWord := p.takesAnyWord

/-! ## Reading -/

/-- How far a command line has been read. An option or operand is pending
until the next known one comes, since its value counts only then. -/
structure Reading (σ : Type) where
  settings : σ
  used : List String
  pending : Option (Parameter σ × Option String)
  operands : List (Parameter σ)
  /-- All further words are operands. -/
  operandsOnly : Bool

namespace Reading

/-- The values of a word under a parameter. -/
def split (p : Parameter σ) (word : String) : List String :=
  match p.separator with
  | some c => (word.toList.splitOn c).map String.ofList
  | none => [word]

/-- Notes the use of a parameter, which may be its only one. -/
def use (reading : Reading σ) (p : Parameter σ) : Except UsageError (Reading σ) :=
  if !p.repeats && reading.used.contains p.name then .error .argumentConflict
  else .ok { reading with used := p.name :: reading.used }

/-- Takes a word as the value of a parameter. -/
def take (reading : Reading σ) (p : Parameter σ) (word : String) :
    Except UsageError (Reading σ) :=
  match p.action with
  | .value take => do
    let reading ← reading.use p
    let settings ← (split p word).foldlM (fun s value => take value s) reading.settings
    return { reading with settings }
  | .flag _ | .help => .error .tooManyValues

/-- Takes what is pending; an option must have got its value by now. -/
def resolve (reading : Reading σ) : Except UsageError (Reading σ) :=
  match reading.pending with
  | none => .ok reading
  | some (_, none) => .error .invalidValue
  | some (p, some word) => { reading with pending := none }.take p word

/-- An option without a value attached to it. -/
def option (reading : Reading σ) (p : Parameter σ) : Except UsageError (Reading σ) := do
  let reading ← reading.resolve
  match p.action with
  | .flag set => return { ← reading.use p with settings := set reading.settings }
  | .value _ => return { reading with pending := some (p, none) }
  | .help => throw .help

/-- An option with a value attached to it. -/
def attached (reading : Reading σ) (p : Parameter σ) (word : String) :
    Except UsageError (Reading σ) :=
  match p.action with
  | .value _ => do (← reading.resolve).take p word
  | .flag _ | .help => .error .tooManyValues

/-- The word after two hyphens. -/
def long (options : List (Parameter σ)) (reading : Reading σ) (cs : List Char) :
    Except UsageError (Reading σ) :=
  let (name, rest) := cs.span (· ≠ '=')
  match options.find? fun p => p.name = String.ofList name, rest with
  | none, _ => .error .unknownArgument
  | some p, _ :: word => reading.attached p (String.ofList word)
  | some p, [] => reading.option p

/-- The letters after one hyphen. What follows the letter of an option is
its value, and an equals sign between them does not count. -/
def letters (options : List (Parameter σ)) (reading : Reading σ) :
    List Char → Except UsageError (Reading σ)
  | [] => .ok reading
  | c :: rest =>
    match options.find? fun p => p.letter = some c with
    | none => .error .unknownArgument
    | some p =>
      match p.action, rest with
      | .value _, '=' :: word => reading.attached p (String.ofList word)
      | .value _, word@(_ :: _) => reading.attached p (String.ofList word)
      | _, _ => do letters options (← reading.option p) rest

/-- A word in the place of an operand. -/
def operand (reading : Reading σ) (word : String) : Except UsageError (Reading σ) :=
  match reading.operands with
  | [] => .error .unknownArgument
  | p :: operands => do
    return { ← reading.resolve with pending := some (p, some word), operands }

/-- A word that is no option: a value if one is due, else an operand. -/
def plain (reading : Reading σ) (word : String) : Except UsageError (Reading σ) :=
  match reading.pending with
  | some (p, none) => .ok { reading with pending := some (p, some word) }
  | _ => reading.operand word

/-- The next word belongs to an option that takes any word. -/
def takesAnyWord (reading : Reading σ) : Bool :=
  match reading.pending with
  | some (p, none) => p.takesAnyWord
  | _ => false

def word (options : List (Parameter σ)) (reading : Reading σ) (word : String) :
    Except UsageError (Reading σ) :=
  if reading.operandsOnly then reading.operand word
  else if reading.takesAnyWord then reading.plain word
  else match word.toList with
    | ['-', '-'] => .ok { reading with operandsOnly := true }
    | '-' :: '-' :: cs => reading.long options cs
    | '-' :: c :: cs => reading.letters options (c :: cs)
    | _ => reading.plain word

end Reading

/-- The word looks like an option: it is a hyphen with something after it. -/
def isOption (word : String) : Bool :=
  match word.toList with
  | '-' :: _ :: _ => true
  | _ => false

namespace Grammar

def start (grammar : Grammar σ) : Reading σ where
  settings := grammar.initial
  used := []
  pending := none
  operands := grammar.operands
  operandsOnly := false

/-- The settings of a command line. -/
def read (grammar : Grammar σ) (words : List String) : Except UsageError σ := do
  let reading ← words.foldlM (Reading.word grammar.options) grammar.start
  return (← reading.resolve).settings

/-- The first word that is no option: the name of a subcommand, with the
words after it. The word `help` is such a name too. It asks for help, also
on the subcommand that follows it. -/
def subcommand (grammar : Grammar σ) (names : List String) :
    Reading σ → List String → Except UsageError (String × List String)
  | reading, [] =>
    .error (if reading.used.isEmpty then .helpForMissingSubcommand else .missingSubcommand)
  | reading, word :: rest =>
    let known (word : String) : Bool := word = "help" || names.contains word
    if reading.operandsOnly then
      .error (if known word then .unknownArgument else .invalidSubcommand)
    else if isOption word then do
      grammar.subcommand names (← reading.word grammar.options word) rest
    else if word = "help" then
      match rest with
      | [] => .error .help
      | [name] => .error (if known name then .help else .invalidSubcommand)
      | _ => .error .invalidSubcommand
    else if known word then .ok (word, rest)
    else .error .invalidSubcommand

end Grammar

end SceneMask.CommandLine
