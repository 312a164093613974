-- Numerals of JSON texts: their grammar, and the number that a numeral
-- stands for. A numeral with a point or an exponent is a real number. Its
-- leading digits are kept as long as they fit into a word; the power of
-- ten is then applied with rounded steps.
import SceneMask.Json.Basic

namespace SceneMask

/-- The parts of a numeral; `fraction` and `exponent` are absent when the
numeral has no point or no exponent. -/
structure Numeral where
  negative : Bool
  whole : List Char
  fraction : Option (List Char)
  exponent : Option Int
deriving DecidableEq

namespace Numeral

/-! ## Grammar -/

/-- Digits at the front, at least one of them. -/
def scanDigits? (cs : List Char) : Option (List Char × List Char) :=
  let ds := cs.takeWhile Char.isDigit
  if ds.isEmpty then none else some (ds, cs.dropWhile Char.isDigit)

/-- The whole part: a single zero, or digits that do not start with one. -/
def scanWhole? : List Char → Option (List Char × List Char)
  | '0' :: c :: rest => if c.isDigit then none else some (['0'], c :: rest)
  | cs => scanDigits? cs

def scanFraction? : List Char → Option (Option (List Char) × List Char)
  | '.' :: cs => (scanDigits? cs).map fun (ds, rest) => (some ds, rest)
  | cs => some (none, cs)

def scanExponent? : List Char → Option (Option Int × List Char)
  | c :: cs =>
    if c = 'e' || c = 'E' then
      let (negative, unsigned) := match cs with
        | '-' :: rest => (true, rest)
        | '+' :: rest => (false, rest)
        | rest => (false, rest)
      (scanDigits? unsigned).map fun (ds, rest) =>
        (some (if negative then -(ofDigits ds : Int) else ofDigits ds), rest)
    else some (none, c :: cs)
  | [] => some (none, [])

/-- The numeral at the front of a text, and what follows it. -/
def scan? (cs : List Char) : Option (Numeral × List Char) := do
  let (negative, unsigned) := match cs with
    | '-' :: rest => (true, rest)
    | rest => (false, rest)
  let (whole, rest) ← scanWhole? unsigned
  let (fraction, rest) ← scanFraction? rest
  let (exponent, rest) ← scanExponent? rest
  return (⟨negative, whole, fraction, exponent⟩, rest)

/-! ## Value -/

/-- Appends digits to a word as long as the word holds them; gives the
word and the digits left over. -/
def appendDigits (word : Nat) : List Char → Nat × List Char
  | [] => (word, [])
  | c :: cs =>
    let longer := word * 10 + (c.toNat - '0'.toNat)
    if longer < 0x10000000000000000 then appendDigits longer cs else (word, c :: cs)

def powerOfTen (n : Nat) : Double := .ofDecimal false ⟨1, n⟩

/-- The word times a power of ten: one rounded product or quotient, or two
quotients where the power has no finite number of its own. Absent where
the product is infinite. -/
def applyPower (word : Nat) (exponent : Int) : Option Double :=
  let start : Double := .ofNat word
  if 0 ≤ exponent then
    if word = 0 then some start
    else if 308 < exponent then none
    else
      let product := start * powerOfTen exponent.natAbs
      if product.isFinite then some product else none
  else
    let power := exponent.natAbs
    some (start / powerOfTen (min power 308) / powerOfTen (min (power - 308) 308))

def real? (negative : Bool) (word : Nat) (exponent : Int) : Option JsonNumber := do
  let magnitude ← applyPower word exponent
  let value := if negative then -magnitude else magnitude
  if finite : value.isFinite = true then some (.real value finite) else none

/-- The number of a numeral; absent where it is too large. Without point
and exponent it is a whole number if that fits, and a negative zero is
real. -/
def value? (n : Numeral) : Option JsonNumber :=
  let (word, dropped) := appendDigits 0 n.whole
  match n.fraction, n.exponent with
  | none, none =>
    let signed : Int := if n.negative then -word else word
    if dropped.isEmpty && !(n.negative && word == 0) then
      if fits : FitsWord signed then some (.whole signed fits) else real? n.negative word 0
    else real? n.negative word dropped.length
  | fraction, exponent =>
    let ds := fraction.getD []
    let (word, skipped) := appendDigits word ds
    real? n.negative word
      (dropped.length - (ds.length - skipped.length : Nat) + exponent.getD 0)

end Numeral

end SceneMask
