-- Sequences of samples of one type, and their conversion through double
-- precision. Integer types hold the whole part, kept inside their range.
import SceneMask.SampleType

namespace SceneMask

namespace SampleType

/-- The values of a type: whole numbers of its range, or numbers of its
binary format. -/
def Value : SampleType → Type
  | integer t => { n : Int // t.Holds n }
  | float32 => Single
  | float64 => Double

instance : (t : SampleType) → DecidableEq t.Value
  | integer t => inferInstanceAs (DecidableEq { n : Int // t.Holds n })
  | float32 => inferInstanceAs (DecidableEq Single)
  | float64 => inferInstanceAs (DecidableEq Double)

def toDouble : (t : SampleType) → t.Value → Double
  | integer _, n => .ofInt n.val
  | float32, x => Binary.convert .double x
  | float64, x => x

end SampleType

theorem IntegerType.holds_zero (t : IntegerType) : t.Holds 0 := by cases t <;> decide

theorem IntegerType.holds_clampInt {f : Format} (t : IntegerType) (x : Binary f) :
    t.Holds (x.clampInt t.least t.greatest) := by
  have h := t.holds_zero
  unfold IntegerType.Holds at *
  unfold Binary.clampInt
  split
  · exact h
  · split <;> omega
  · omega

def SampleType.ofDouble : (t : SampleType) → Double → t.Value
  | .integer t, x => ⟨x.clampInt t.least t.greatest, t.holds_clampInt x⟩
  | .float32, x => x.convert .single
  | .float64, x => x

structure Samples where
  type : SampleType
  values : List type.Value
deriving DecidableEq

namespace Samples

def size (samples : Samples) : Nat := samples.values.length

def isEmpty (samples : Samples) : Bool := samples.values.isEmpty

/-- All samples in double precision, which holds every type exactly. -/
def toDoubles (samples : Samples) : List Double := samples.values.map samples.type.toDouble

def get? (samples : Samples) (i : Nat) : Option Double :=
  samples.values[i]?.map samples.type.toDouble

def ofDoubles (type : SampleType) (values : List Double) : Samples :=
  ⟨type, values.map type.ofDouble⟩

def cast (samples : Samples) (type : SampleType) : Samples :=
  if samples.type = type then samples else ofDoubles type samples.toDoubles

/-- The samples from `start` up to before `stop`. -/
def slice (samples : Samples) (start stop : Nat) : Samples :=
  ⟨samples.type, (samples.values.take stop).drop start⟩

end Samples

end SceneMask
