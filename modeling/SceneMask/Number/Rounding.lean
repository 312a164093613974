-- One rounding rule for all of arithmetic: the exact quotient goes to the
-- nearest number of the format, and a half goes to the even neighbour.
import SceneMask.Number.Binary

namespace SceneMask

/-- The natural nearest to `num / den`; a half goes to the even one. -/
def nearestQuotient (num den : Nat) : Nat :=
  let quotient := num / den
  let rest := num % den
  if 2 * rest < den then quotient
  else if den < 2 * rest then quotient + 1
  else quotient + quotient % 2

/-- The rank nearest to `num / den` smallest steps. The quotient is cut to
the bits of a significand, and a carry out of them lands on the next
binade by itself, since ranks go on across binades. -/
def Format.nearestRank (f : Format) (num den : Nat) : Nat :=
  let doublings := Nat.log2 (num / den) - (f.precision - 1)
  doublings * f.binade + nearestQuotient num (den * Nat.pow 2 doublings)

namespace Binary

variable {f : Format}

/-- The number nearest to `num / den` smallest steps, with the given sign. -/
def ofRatio (negative : Bool) (num den : Nat) : Binary f :=
  let rank := f.nearestRank num den
  if h : rank < f.infinityRank then finite negative ⟨rank, h⟩ else infinite negative

def zero (negative : Bool) : Binary f := ofRatio negative 0 1

/-- The largest finite number. -/
def greatest (f : Format) : Binary f := ofBits (f.infinityRank - 1)

def ofInt (n : Int) : Binary f := ofRatio (decide (n < 0)) (n.natAbs * f.one) 1

def ofNat (n : Nat) : Binary f := ofInt n

/-- The same number in another format, rounded where it has to be. -/
def convert (g : Format) : Binary f → Binary g
  | nan => nan
  | infinite negative => infinite negative
  | x@(finite negative _) => ofRatio negative (x.units * g.one) f.one

end Binary

end SceneMask
