-- Typed values from documents: scalars, lists, names out of a fixed
-- choice, and records. A record is an object whose unknown keys do not
-- count, or an array of its fields in order.
import SceneMask.Json.Document

namespace SceneMask.Document

/-! ## Scalars and lists -/

/-- Any number, a whole one too. -/
def double? : Document → Option Double
  | number (some n) => some n.toDouble
  | _ => none

/-- A whole number of an unsigned word. -/
def natural? : Document → Option UInt64
  | number (some (.whole n _)) => if 0 ≤ n then some (UInt64.ofNat n.toNat) else none
  | _ => none

def text? : Document → Option String
  | string content => content
  | _ => none

def list? {α : Type} (item? : Document → Option α) : Document → Option (List α)
  | array items => items.mapM item?
  | _ => none

/-- The value, or null for none. -/
def nullable? {α : Type} (item? : Document → Option α) : Document → Option (Option α)
  | null => some none
  | document => (item? document).map some

/-- An object with one entry. -/
def single? : Document → Option (String × Document)
  | object [(some key, value)] => some (key, value)
  | _ => none

/-- A name that stands alone, as a string or as the only key of an object
whose value is null. -/
def name? : Document → Option String
  | string content => content
  | object [(key, null)] => key
  | _ => none

/-! ## Records -/

/-- The fields that a record gives. In an array they are there by
position. -/
structure Fields where
  byPosition : Bool
  entries : List (String × Document)

/-- The fields out of `names` that a document gives. A repeated field and
an array with too many items are refused. -/
def fields? (names : List String) : Document → Option Fields
  | array items =>
    if items.length ≤ names.length then some ⟨true, names.zip items⟩ else none
  | object entries => do
    let entries ← entries.mapM fun (key, value) => key.map fun key => (key, value)
    let known := entries.filter fun entry => names.contains entry.1
    if (known.map Prod.fst).Nodup then some ⟨false, known⟩ else none
  | _ => none

namespace Fields

/-- A field that has to be there. -/
def required? {α : Type} (fields : Fields) (name : String) (read? : Document → Option α) :
    Option α :=
  (fields.entries.lookup name).bind read?

/-- A field with a default. -/
def optional? {α : Type} (fields : Fields) (name : String) (read? : Document → Option α)
    (fallback : α) : Option α :=
  match fields.entries.lookup name with
  | none => some fallback
  | some document => read? document

/-- A field that may be null, and may be left out of an object but not of
an array. -/
def nullable? {α : Type} (fields : Fields) (name : String) (read? : Document → Option α) :
    Option (Option α) :=
  match fields.entries.lookup name with
  | none => if fields.byPosition then none else some none
  | some document => document.nullable? read?

end Fields

end SceneMask.Document
