-- Fill values: what is written into masked pixels and into the other
-- branch of a compiled mask. A fill is a whole number or a binary number,
-- and its text shows which.
import SceneMask.Fault
import SceneMask.Json.Record
import SceneMask.Text.Blank

namespace SceneMask

inductive Fill where
  | int (value : Int64)
  | float (value : Double)
deriving DecidableEq

namespace Fill

/-- The fill of a crop for which none is declared. -/
def undeclared : Fill := int 0

def toDouble : Fill → Double
  | int n => .ofInt n.toInt
  | float x => x

def isFinite : Fill → Bool
  | int _ => true
  | float x => x.isFinite

/-! ## Text -/

/-- Plain decimal text. A finite real number always has a point, so that
nothing reads it as a whole number. -/
def chars : Fill → List Char
  | int n => showInt n.toInt
  | float x =>
    let text := x.plain
    if x.isFinite && !text.contains '.' then text ++ ['.', '0'] else text

def text (fill : Fill) : String := String.ofList fill.chars

/-- The whole numbers of a signed word. -/
def word? (n : Int) : Option Int64 :=
  if -0x8000000000000000 ≤ n ∧ n ≤ 0x7FFFFFFFFFFFFFFF then some (Int64.ofInt n) else none

/-- Reads a whole number if it fits into a word, else a real number. -/
def parse (text : String) : Except Fault Fill :=
  let cs := trimBlanks text.toList
  match (readInt? cs).bind word? with
  | some n => .ok (int n)
  | none =>
    match Binary.read? cs with
    | some x => .ok (float x)
    | none => .error (.fillNotANumber (String.ofList cs))

/-! ## JSON -/

def toJson : Fill → Json
  | int n => .int n
  | float x => .real x

/-- A whole number that fits stays whole; every other number is real. -/
def ofDocument? : Document → Option Fill
  | .number (some (.whole n _)) =>
    some (match word? n with
      | some n => int n
      | none => float (.ofInt n))
  | .number (some (.real x _)) => some (float x)
  | _ => none

end Fill

end SceneMask
