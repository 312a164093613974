-- Decimal numerals: whole numbers with a sign, and decimals with point
-- and exponent. Reading a decimal into a binary format rounds its exact
-- value once, however many digits it has.
import SceneMask.Number.Rounding

namespace SceneMask

/-- A coefficient times a power of ten. -/
structure Decimal where
  coefficient : Nat
  exponent : Int
deriving DecidableEq, Repr

/-- The decimal digits of a number, without leading zeros. -/
def digits (n : Nat) : List Char := Nat.toDigits 10 n

/-- The number that a list of digits writes. -/
def ofDigits (ds : List Char) : Nat := Nat.ofDigitChars 10 ds 0

/-! ## Whole numbers -/

/-- Digits and nothing else, at least one of them. -/
def readDigits? (cs : List Char) : Option Nat :=
  if cs.isEmpty || !cs.all Char.isDigit then none else some (ofDigits cs)

/-- Digits after an optional sign. -/
def readInt? : List Char → Option Int
  | '-' :: cs => (readDigits? cs).map fun n => -(n : Int)
  | '+' :: cs => (readDigits? cs).map fun n => (n : Int)
  | cs => (readDigits? cs).map fun n => (n : Int)

/-- Digits after an optional plus, up to `limit`. -/
def readNat? (limit : Nat) (cs : List Char) : Option Nat :=
  let unsigned := match cs with
    | '+' :: rest => rest
    | _ => cs
  (readDigits? unsigned).filter (· ≤ limit)

def showInt (n : Int) : List Char :=
  if n < 0 then '-' :: digits n.natAbs else digits n.natAbs

def showNat (n : Nat) : String := String.ofList (digits n)

/-! ## Decimals -/

namespace Decimal

/-- The exponent part that may follow the digits, down to the end. -/
def readExponent? : List Char → Option Int
  | [] => some 0
  | c :: cs => if c = 'e' || c = 'E' then readInt? cs else none

/-- Digits with an optional point and an optional exponent. At least one
digit stands before or after the point. -/
def read? (cs : List Char) : Option Decimal :=
  let whole := cs.takeWhile Char.isDigit
  let rest := cs.dropWhile Char.isDigit
  let afterPoint := match rest with
    | '.' :: more => more
    | _ => []
  let fraction := afterPoint.takeWhile Char.isDigit
  let tail := match rest with
    | '.' :: more => more.dropWhile Char.isDigit
    | _ => rest
  if whole.isEmpty && fraction.isEmpty then none
  else (readExponent? tail).map fun exponent =>
    ⟨ofDigits (whole ++ fraction), exponent - fraction.length⟩

/-- Positional text: zeros take the place of the power of ten. -/
def positional (d : Decimal) : List Char :=
  let ds := digits d.coefficient
  if 0 ≤ d.exponent then ds ++ List.replicate d.exponent.natAbs '0'
  else
    let places := d.exponent.natAbs
    if places < ds.length then
      ds.take (ds.length - places) ++ '.' :: ds.drop (ds.length - places)
    else '0' :: '.' :: (List.replicate (places - ds.length) '0' ++ ds)

end Decimal

/-! ## Into binary -/

namespace Binary

variable {f : Format}

/-- The number nearest to a decimal. A decimal far above the format is
infinite and one far below it is zero, so no huge power of ten is ever
computed. -/
def ofDecimal (negative : Bool) (d : Decimal) : Binary f :=
  let top : Int := (digits d.coefficient).length + d.exponent
  if d.coefficient = 0 then zero negative
  else if (f.binades : Int) ≤ 3 * (top - 1) then infinite negative
  else if (f.scale : Int) + 1 ≤ 3 * -top then zero negative
  else if 0 ≤ d.exponent then
    ofRatio negative (d.coefficient * Nat.pow 10 d.exponent.natAbs * f.one) 1
  else
    ofRatio negative (d.coefficient * f.one) (Nat.pow 10 d.exponent.natAbs)

/-- A numeral without sign: a decimal, or a name of a special value in any
case of letters. -/
def readUnsigned? (negative : Bool) (cs : List Char) : Option (Binary f) :=
  match Decimal.read? cs with
  | some d => some (ofDecimal negative d)
  | none =>
    let name := String.ofList (cs.map Char.toLower)
    if name = "inf" || name = "infinity" then some (infinite negative)
    else if name = "nan" then some nan
    else none

/-- A numeral after an optional sign. -/
def read? : List Char → Option (Binary f)
  | '-' :: cs => readUnsigned? true cs
  | '+' :: cs => readUnsigned? false cs
  | cs => readUnsigned? false cs

end Binary

end SceneMask
