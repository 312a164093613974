-- Arithmetic and comparison of binary numbers. Each operation takes the
-- exact result and rounds it once.
import SceneMask.Number.Rounding

namespace SceneMask.Binary

variable {f : Format}

/-! ## Sums and products -/

def neg : Binary f → Binary f
  | nan => nan
  | infinite negative => infinite (!negative)
  | finite negative rank => finite (!negative) rank

/-- A sum of zero is negative only if both terms are. -/
def add (x y : Binary f) : Binary f :=
  match x, y with
  | nan, _ => nan
  | _, nan => nan
  | infinite a, infinite b => if a = b then infinite a else nan
  | infinite a, finite .. => infinite a
  | finite .., infinite b => infinite b
  | finite a _, finite b _ =>
    let total := x.scaled + y.scaled
    if total = 0 then zero (a && b) else ofRatio (decide (total < 0)) total.natAbs 1

def sub (x y : Binary f) : Binary f := x.add y.neg

def mul (x y : Binary f) : Binary f :=
  match x, y with
  | nan, _ => nan
  | _, nan => nan
  | infinite a, infinite b => infinite (a ^^ b)
  | infinite a, finite b _ => if y.units = 0 then nan else infinite (a ^^ b)
  | finite a _, infinite b => if x.units = 0 then nan else infinite (a ^^ b)
  | finite a _, finite b _ => ofRatio (a ^^ b) (x.units * y.units) f.one

def div (x y : Binary f) : Binary f :=
  match x, y with
  | nan, _ => nan
  | _, nan => nan
  | infinite _, infinite _ => nan
  | infinite a, finite b _ => infinite (a ^^ b)
  | finite a _, infinite b => zero (a ^^ b)
  | finite a _, finite b _ =>
    if y.units = 0 then
      if x.units = 0 then nan else infinite (a ^^ b)
    else ofRatio (a ^^ b) (x.units * f.one) y.units

instance : Neg (Binary f) := ⟨neg⟩
instance : Add (Binary f) := ⟨add⟩
instance : Sub (Binary f) := ⟨sub⟩
instance : Mul (Binary f) := ⟨mul⟩
instance : Div (Binary f) := ⟨div⟩

/-! ## Order -/

/-- The place of a number on the line of ranks; both zeros stand at 0, and
NaN stands nowhere. -/
def place? : Binary f → Option Int
  | nan => none
  | infinite negative => some (if negative then -f.infinityRank else f.infinityRank)
  | finite negative rank => some (if negative then -(rank.val : Int) else rank.val)

/-- Compares the places; false as soon as one of them is NaN. -/
def compareBy (holds : Int → Int → Bool) (x y : Binary f) : Bool :=
  match x.place?, y.place? with
  | some a, some b => holds a b
  | _, _ => false

def lt : Binary f → Binary f → Bool := compareBy (fun a b => decide (a < b))

def le : Binary f → Binary f → Bool := compareBy (fun a b => decide (a ≤ b))

/-- Equality of values: the zeros are equal, and NaN equals nothing. -/
def eqv : Binary f → Binary f → Bool := compareBy (fun a b => decide (a = b))

/-- The smaller number. NaN gives way to the other one. -/
def min (x y : Binary f) : Binary f :=
  if x.isNaN then y else if y.lt x then y else x

/-- The larger number. NaN gives way to the other one. -/
def max (x y : Binary f) : Binary f :=
  if x.isNaN then y else if x.lt y then y else x

/-! ## Whole parts -/

/-- A finite number without fraction. -/
def isWhole (x : Binary f) : Bool := x.isFinite && x.units % f.one == 0

/-- The whole part, toward zero. -/
def truncate (x : Binary f) : Int :=
  let whole : Int := (x.units / f.one : Nat)
  if x.isNegative then -whole else whole

/-- The nearest whole number, a half away from zero. -/
def roundAway : Binary f → Binary f
  | x@(finite negative _) =>
    let whole := (2 * x.units + f.one) / (2 * f.one)
    ofRatio negative (whole * f.one) 1
  | x => x

/-- The whole part, held inside `least` and `greatest`; NaN counts as 0. -/
def clampInt (least greatest : Int) : Binary f → Int
  | nan => 0
  | infinite negative => if negative then least else greatest
  | x => Max.max least (Min.min greatest x.truncate)

/-- The whole part as an unsigned word. Numbers beyond the words go to the
nearest one. -/
def toWord (x : Binary f) : UInt64 := .ofNat (x.clampInt 0 0xFFFFFFFFFFFFFFFF).toNat

end SceneMask.Binary
