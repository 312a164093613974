-- The types of samples: six integer types and the two binary formats.
-- Which values a type holds exactly decides how a crop is promoted when
-- its fill value does not fit.
import SceneMask.Fill

namespace SceneMask

/-! ## The types -/

inductive IntegerType where
  | uint8
  | int8
  | uint16
  | int16
  | uint32
  | int32
deriving DecidableEq, Repr

namespace IntegerType

def least : IntegerType → Int
  | uint8 | uint16 | uint32 => 0
  | int8 => -0x80
  | int16 => -0x8000
  | int32 => -0x80000000

def greatest : IntegerType → Int
  | uint8 => 0xFF
  | int8 => 0x7F
  | uint16 => 0xFFFF
  | int16 => 0x7FFF
  | uint32 => 0xFFFFFFFF
  | int32 => 0x7FFFFFFF

/-- A number is in the range of the type. -/
def Holds (t : IntegerType) (n : Int) : Prop := t.least ≤ n ∧ n ≤ t.greatest

instance (t : IntegerType) (n : Int) : Decidable (t.Holds n) :=
  inferInstanceAs (Decidable (_ ∧ _))

end IntegerType

inductive SampleType where
  | integer (type : IntegerType)
  | float32
  | float64
deriving DecidableEq, Repr

namespace SampleType

/-- The candidates for a promotion, the smallest first. -/
def ladder : List SampleType :=
  [integer .uint8, integer .int8, integer .uint16, integer .int16, integer .uint32,
    integer .int32, float32, float64]

def isInteger : SampleType → Bool
  | integer _ => true
  | _ => false

/-- The least and the greatest finite value. -/
def range : SampleType → Double × Double
  | integer t => (.ofInt t.least, .ofInt t.greatest)
  | float32 =>
    let greatest : Double := (Binary.greatest .single).convert .double
    (-greatest, greatest)
  | float64 => (-Binary.greatest .double, Binary.greatest .double)

/-! ## Names -/

def name : SampleType → String
  | integer .uint8 => "uint8"
  | integer .int8 => "int8"
  | integer .uint16 => "uint16"
  | integer .int16 => "int16"
  | integer .uint32 => "uint32"
  | integer .int32 => "int32"
  | float32 => "float32"
  | float64 => "float64"

def shortName : SampleType → String
  | integer .uint8 => "u8"
  | integer .int8 => "i8"
  | integer .uint16 => "u16"
  | integer .int16 => "i16"
  | integer .uint32 => "u32"
  | integer .int32 => "i32"
  | float32 => "f32"
  | float64 => "f64"

/-- Reads a long or a short name in any case of letters. -/
def parse (text : String) : Except Fault SampleType :=
  let given := lowercase (trim text)
  (ladder.find? fun t => t.name = given || t.shortName = given).elim
    (.error (.unknownSampleType given)) .ok

def toJson (t : SampleType) : Json := .string t.shortName

def ofDocument? (document : Document) : Option SampleType := do
  let given ← document.name?
  ladder.find? fun t => t.shortName = given

/-! ## Exact values -/

/-- The type stores the fill without rounding. -/
def holds : SampleType → Fill → Bool
  | integer t, .int n => decide (t.Holds n.toInt)
  | integer t, .float x => x.isWhole && decide (t.Holds x.truncate)
  | float32, .int n => (Binary.ofInt n.toInt : Single).truncate = n.toInt
  | float32, .float x => !x.isFinite || ((x.convert .single).convert .double).eqv x
  | float64, .int n => (Binary.ofInt n.toInt : Double).truncate = n.toInt
  | float64, .float _ => true

/-- The type stores every value of the other one without rounding. A
single has 24 bits of significand and a double has 53. -/
def contains : SampleType → SampleType → Bool
  | integer t, integer u => t.least ≤ u.least && u.greatest ≤ t.greatest
  | integer _, _ => false
  | float32, integer .uint8 | float32, integer .int8 => true
  | float32, integer .uint16 | float32, integer .int16 => true
  | float32, integer _ => false
  | float32, other => other = float32
  | float64, _ => true

/-- The type that a crop gets so that the fill fits: its own one, or else
the first of the ladder that holds all its values and the fill. -/
def promote (current : SampleType) (fill : Fill) : Except Fault SampleType :=
  if current.holds fill then .ok current
  else
    (ladder.find? fun t => t.contains current && t.holds fill).elim
      (.error (.noExactSuperset fill.text current.name)) .ok

end SampleType

end SceneMask
