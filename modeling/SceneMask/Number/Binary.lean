-- Binary floating-point numbers as exact data. A number is its sign and
-- its rank: its place among the finite magnitudes of the format, counted
-- from zero upward. The rank is the bit pattern without the sign, so the
-- order of magnitudes is the order of ranks.

namespace SceneMask

/-! ## Formats -/

/-- A binary format: the bits of the significand, the exponent `scale` of
its smallest step `2^-scale`, and the binades below infinity, the one of
the subnormal numbers included. -/
structure Format where
  precision : Nat
  scale : Nat
  binades : Nat
deriving DecidableEq, Repr

namespace Format

def single : Format := ⟨24, 149, 255⟩

def double : Format := ⟨53, 1074, 2047⟩

/-- How many ranks one binade holds. -/
def binade (f : Format) : Nat := Nat.pow 2 (f.precision - 1)

/-- How many smallest steps make a one. -/
def one (f : Format) : Nat := Nat.pow 2 f.scale

/-- The first rank that is no finite magnitude. -/
def infinityRank (f : Format) : Nat := f.binades * f.binade

/-- The magnitude of a rank, counted in the smallest steps of the format.
Steps double from one binade to the next; the first two share a step. -/
def magnitude (f : Format) (rank : Nat) : Nat :=
  let doublings := rank / f.binade - 1
  (rank - doublings * f.binade) * Nat.pow 2 doublings

end Format

/-! ## Numbers -/

inductive Binary (f : Format) where
  | nan
  | infinite (negative : Bool)
  | finite (negative : Bool) (rank : Fin f.infinityRank)
deriving DecidableEq, Repr

abbrev Single := Binary .single

abbrev Double := Binary .double

namespace Binary

variable {f : Format}

def isNaN : Binary f → Bool
  | nan => true
  | _ => false

def isFinite : Binary f → Bool
  | finite .. => true
  | _ => false

/-- The magnitude in smallest steps; 0 for what is not finite. -/
def units : Binary f → Nat
  | finite _ rank => f.magnitude rank
  | _ => 0

/-- The value in smallest steps; 0 for what is not finite. -/
def scaled : Binary f → Int
  | x@(finite true _) => -(x.units : Int)
  | x => x.units

def isNegative : Binary f → Bool
  | nan => false
  | infinite negative => negative
  | finite negative _ => negative

/-! ## Bit patterns -/

/-- The weight of the sign bit. -/
def signWeight (f : Format) : Nat := f.infinityRank + f.binade

def toBits : Binary f → Nat
  | nan => f.infinityRank + f.binade / 2
  | infinite negative => (if negative then signWeight f else 0) + f.infinityRank
  | finite negative rank => (if negative then signWeight f else 0) + rank

/-- Reads a bit pattern; all patterns above infinity are NaN. -/
def ofBits (bits : Nat) : Binary f :=
  let negative := decide (signWeight f ≤ bits)
  let rank := bits % signWeight f
  if h : rank < f.infinityRank then finite negative ⟨rank, h⟩
  else if rank = f.infinityRank then infinite negative
  else nan

end Binary

end SceneMask
