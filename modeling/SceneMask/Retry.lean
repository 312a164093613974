-- Repeated attempts. An attempt that fails for a transient reason is
-- followed by the next one while there are attempts left.
import SceneMask.Fault

namespace SceneMask

/-- The numbers of the attempts that were made, and how the last one
ended. -/
structure Attempts (α : Type) where
  numbers : List Nat
  result : Except Failure α

namespace Attempts

variable {α : Type}

/-- Goes on from an attempt, with `left` more attempts after it. -/
def runFrom (operation : Nat → Except Failure α) : (left attempt : Nat) → Attempts α
  | 0, attempt => ⟨[attempt], operation attempt⟩
  | left + 1, attempt =>
    match operation attempt with
    | .ok value => ⟨[attempt], .ok value⟩
    | .error failure =>
      if failure.isTransient then
        let later := runFrom operation left (attempt + 1)
        ⟨attempt :: later.numbers, later.result⟩
      else ⟨[attempt], .error failure⟩

/-- Makes at most `limit` attempts, and at least one. -/
def run (limit : Nat) (operation : Nat → Except Failure α) : Attempts α :=
  runFrom operation (limit - 1) 1

end Attempts

end SceneMask
