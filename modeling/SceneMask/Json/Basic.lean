-- JSON values. A number is a whole number of 64 bits or a finite binary
-- number, and the two kinds never mix: 5 and 5.0 are different values.
import SceneMask.KeyMap
import SceneMask.Number.Arithmetic
import SceneMask.Number.Decimal

namespace SceneMask

/-- The whole numbers that stay whole: those of a signed or an unsigned
word of 64 bits. -/
def FitsWord (n : Int) : Prop := -0x8000000000000000 ≤ n ∧ n ≤ 0xFFFFFFFFFFFFFFFF

instance (n : Int) : Decidable (FitsWord n) := inferInstanceAs (Decidable (_ ∧ _))

inductive JsonNumber where
  | whole (value : Int) (fits : FitsWord value)
  | real (value : Double) (finite : value.isFinite = true)
deriving DecidableEq

def JsonNumber.toDouble : JsonNumber → Double
  | .whole n _ => .ofInt n
  | .real x _ => x

inductive Json where
  | null
  | bool (value : Bool)
  | number (value : JsonNumber)
  | string (value : String)
  | array (items : List Json)
  | object (entries : List (String × Json))

namespace Json

/-- Reals that are not finite have no numeral; null stands for them. -/
def real (x : Double) : Json :=
  if h : x.isFinite = true then number (.real x h) else null

/-- A count; one that no word holds is a real number. -/
def natural (n : Nat) : Json :=
  if fits : FitsWord n then number (.whole n fits) else real (.ofNat n)

def int (n : Int64) : Json :=
  number (.whole n.toInt ⟨by have := n.le_toInt; omega, by have := n.toInt_lt; omega⟩)

def ofOption {α : Type} (write : α → Json) : Option α → Json
  | none => null
  | some a => write a

def strings (items : List String) : Json := array (items.map string)

def ofMap (map : KeyMap Json) : Json := object map.entries

/-- The value of a key, if this is an object that has it. -/
def get? (key : String) : Json → Option Json
  | object entries => entries.lookup key
  | _ => none

/-- One step of a path: a key of an object, or a position of an array,
written as a numeral without leading zeros. -/
def step? (name : String) : Json → Option Json
  | object entries => entries.lookup name
  | array items => do
    let position ← readDigits? name.toList
    if digits position = name.toList then items[position]? else none
  | _ => none

def path? (names : List String) (json : Json) : Option Json :=
  names.foldlM (fun here name => step? name here) json

end Json

end SceneMask
