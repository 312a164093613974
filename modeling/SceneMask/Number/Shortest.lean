-- The shortest decimal that reads back as a given binary number. A
-- decimal reads back if it lies in the interval of values that round to
-- the number; of all such decimals the one with the largest power of ten
-- has the fewest digits, and of two of those the nearer one is taken.
import SceneMask.Number.Decimal

namespace SceneMask

/-- Which of two equally near decimals is taken. -/
inductive TieRule where
  | up
  | even
deriving DecidableEq, Repr

namespace Shortest

/-- Twice the step count of `coefficient * 10^exponent` compared with a
bound: both sides are brought to whole numbers first. -/
def atMost (f : Format) (bound : Nat) (d : Decimal) (strict : Bool) : Bool :=
  let steps := d.coefficient * (2 * f.one)
  let (left, right) :=
    if 0 ≤ d.exponent then (steps * Nat.pow 10 d.exponent.natAbs, bound)
    else (steps, bound * Nat.pow 10 d.exponent.natAbs)
  if strict then decide (left < right) else decide (left ≤ right)

def atLeast (f : Format) (bound : Nat) (d : Decimal) (strict : Bool) : Bool :=
  !atMost f bound d (!strict)

/-- The decimal rounds to the number of that rank. The ends of the
interval belong to it when the rank is even. -/
def readsBack (f : Format) (rank : Nat) (d : Decimal) : Bool :=
  let strict := rank % 2 == 1
  atLeast f (f.magnitude (rank - 1) + f.magnitude rank) d strict
    && atMost f (f.magnitude rank + f.magnitude (rank + 1)) d strict

/-- The multiple of `10^exponent` that reads back, if there is one; only
the two around the number can. -/
def onGrid? (tie : TieRule) (f : Format) (rank : Nat) (exponent : Int) : Option Decimal :=
  let (num, den) :=
    if 0 ≤ exponent then (f.magnitude rank, f.one * Nat.pow 10 exponent.natAbs)
    else (f.magnitude rank * Nat.pow 10 exponent.natAbs, f.one)
  let below : Decimal := ⟨num / den, exponent⟩
  let above : Decimal := ⟨num / den + 1, exponent⟩
  let rest := num % den
  match readsBack f rank below, readsBack f rank above with
  | false, false => none
  | true, false => some below
  | false, true => some above
  | true, true =>
    if 2 * rest < den then some below
    else if den < 2 * rest then some above
    else match tie with
      | .up => some above
      | .even => if num / den % 2 = 0 then some below else some above

/-- Tries ever finer grids. The grid of the format's own steps, the last
one, holds the number itself. -/
def search (tie : TieRule) (f : Format) (rank : Nat) : Nat → Decimal
  | 0 => ⟨f.magnitude rank * Nat.pow 5 f.scale, -f.scale⟩
  | n + 1 =>
    match onGrid? tie f rank (n + 1 - f.scale) with
    | some d => d
    | none => search tie f rank n

/-- A grid so coarse that no multiple of it but zero is near the number;
30103 / 100000 is just above the logarithm of two. -/
def coarsest (f : Format) (rank : Nat) : Nat :=
  let bits : Int := (f.magnitude rank).log2 - f.scale
  (bits * 30103 / 100000 + 2 + f.scale).toNat

end Shortest

/-- The shortest decimal for a rank above 0. -/
def Format.shortest (tie : TieRule) (f : Format) (rank : Nat) : Decimal :=
  Shortest.search tie f rank (Shortest.coarsest f rank)

namespace Binary

variable {f : Format}

/-- Plain positional text without exponent; a tie between two shortest
decimals goes up. -/
def plain : Binary f → List Char
  | nan => "NaN".toList
  | infinite negative => if negative then "-inf".toList else "inf".toList
  | finite negative rank =>
    let text := if rank.val = 0 then ['0'] else (f.shortest .up rank).positional
    if negative then '-' :: text else text

end Binary

end SceneMask
