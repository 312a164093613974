-- The law of repeated attempts. The loop, turn by turn and with a counter
-- of 32 bits, makes its calls in order and returns the outcome of the last
-- one. It stops at the first outcome that does not ask for another attempt,
-- or at the limit, and `Attempts.run` has the same calls and the same result.
import Mathlib
import SceneMask.Retry

namespace SceneMask

/-! ## Transient failures -/

namespace Failure

/-- The links of the chain of causes, the outermost first. -/
def chain : Failure → List Failure
  | context doing failure => context doing failure :: failure.chain
  | failure => [failure]

/-- A statistics response without a key that it needs, or with a key of the
wrong shape. -/
def IsTransientFault (link : Failure) : Prop :=
  (∃ key, link = fault (.missingKey key)) ∨ ∃ reason, link = fault (.malformedPayload reason)

theorem isTransient_fault_iff {f : Fault} :
    (fault f).isTransient = true ↔ (fault f).IsTransientFault := by
  cases f <;> simp [isTransient, Fault.isTransient, IsTransientFault]

theorem isTransient_iff {failure : Failure} :
    failure.isTransient = true ↔ ∃ link ∈ failure.chain, link.IsTransientFault := by
  induction failure with
  | fault f => simp [chain, isTransient_fault_iff]
  | context doing failure ih =>
    have hcontext : ¬ (context doing failure).IsTransientFault := by simp [IsTransientFault]
    simp [chain, isTransient, ih, hcontext]
  | unreadable => simp [chain, isTransient, IsTransientFault]
  | notJson => simp [chain, isTransient, IsTransientFault]
  | notTiff => simp [chain, isTransient, IsTransientFault]
  | note text => simp [chain, isTransient, IsTransientFault]

end Failure

namespace Attempts

variable {α : Type}

/-- An outcome after which there is no other attempt: a success, or a failure
without a transient link. -/
def IsFinal : Except Failure α → Prop
  | .ok _ => True
  | .error failure => ∀ link ∈ failure.chain, ¬ link.IsTransientFault

theorem not_isFinal_iff {outcome : Except Failure α} :
    ¬ IsFinal outcome ↔ ∃ failure, outcome = .error failure ∧ failure.isTransient = true := by
  cases outcome with
  | ok value => simp [IsFinal]
  | error failure => simp [IsFinal, Failure.isTransient_iff]

/-- The calls after which there is no other one: the last that the limit
allows, which is at least one, and each that has a final outcome. Call `n`
ends as `outcomes n`, from call 1 on. -/
def Stops (limit : Nat) (outcomes : Nat → Except Failure α) : Set Nat :=
  {n | n = max limit 1 ∨ 1 ≤ n ∧ IsFinal (outcomes n)}

section Calls

variable {limit k : Nat} {outcomes : Nat → Except Failure α}

theorem exists_isLeast_stops (limit : Nat) (outcomes : Nat → Except Failure α) :
    ∃ k, IsLeast (Stops limit outcomes) k :=
  ⟨_, isLeast_csInf ⟨max limit 1, Or.inl rfl⟩⟩

theorem one_le_of_isLeast (h : IsLeast (Stops limit outcomes) k) : 1 ≤ k := by
  rcases h.1 with hlast | ⟨hpos, -⟩
  · omega
  · exact hpos

theorem le_of_isLeast (h : IsLeast (Stops limit outcomes) k) : k ≤ max limit 1 :=
  h.2 (Or.inl rfl)

/-- All calls before the last one end in a transient failure. -/
theorem transient_of_isLeast (h : IsLeast (Stops limit outcomes) k) {n : Nat} (hn : 1 ≤ n)
    (hnk : n < k) : ∃ failure, outcomes n = .error failure ∧ failure.isTransient = true := by
  rw [← not_isFinal_iff]
  intro hfinal
  have hle := h.2 (Or.inr ⟨hn, hfinal⟩)
  omega

/-! ## The calls of a run -/

theorem runFrom_again {operation : Nat → Except Failure α} {left attempt : Nat}
    {failure : Failure} (h : operation attempt = .error failure)
    (htransient : failure.isTransient = true) :
    runFrom operation (left + 1) attempt =
      ⟨attempt :: (runFrom operation left (attempt + 1)).numbers,
        (runFrom operation left (attempt + 1)).result⟩ := by
  simp [runFrom, h, htransient]

theorem runFrom_stop {operation : Nat → Except Failure α} {left attempt : Nat}
    (h : left = 0 ∨ IsFinal (operation attempt)) :
    runFrom operation left attempt = ⟨[attempt], operation attempt⟩ := by
  cases left with
  | zero => rfl
  | succ left =>
    have hfinal : IsFinal (operation attempt) := h.resolve_left (Nat.succ_ne_zero left)
    rcases houtcome : operation attempt with failure | value
    · have htransient : ¬ failure.isTransient = true := fun h =>
        not_isFinal_iff.2 ⟨failure, houtcome, h⟩ hfinal
      simp [runFrom, houtcome, htransient]
    · simp [runFrom, houtcome]

/-- From a call on, the run goes to the last call. The induction is on the
calls that are still to be made. -/
theorem runFrom_eq {left attempt count : Nat} (hk : IsLeast (Stops limit outcomes) k)
    (hattempt : 1 ≤ attempt) (hleft : attempt + left = max limit 1)
    (hcount : attempt + count = k) :
    runFrom outcomes left attempt = ⟨List.range' attempt (count + 1), outcomes k⟩ := by
  induction count generalizing left attempt with
  | zero =>
    obtain rfl : attempt = k := by omega
    refine runFrom_stop ?_
    rcases hk.1 with hlast | ⟨-, hfinal⟩
    · exact Or.inl (by omega)
    · exact Or.inr hfinal
  | succ count ih =>
    have hle := le_of_isLeast hk
    obtain ⟨left, rfl⟩ : ∃ n, left = n + 1 := ⟨left - 1, by omega⟩
    obtain ⟨failure, houtcome, htransient⟩ :=
      transient_of_isLeast hk hattempt (show attempt < k by omega)
    have hlater : runFrom outcomes left (attempt + 1) =
        ⟨List.range' (attempt + 1) (count + 1), outcomes k⟩ :=
      ih (by omega) (by omega) (by omega)
    rw [runFrom_again houtcome htransient, hlater]
    rfl

theorem run_eq (hk : IsLeast (Stops limit outcomes) k) :
    run limit outcomes = ⟨List.range' 1 k, outcomes k⟩ := by
  have hpos := one_le_of_isLeast hk
  obtain ⟨count, rfl⟩ : ∃ n, k = n + 1 := ⟨k - 1, by omega⟩
  exact runFrom_eq hk (Nat.le_refl 1) (by omega) (by omega)

end Calls

/-! ## The loop in turns -/

/-- Where the loop stands: before a call, or at its end. -/
inductive Loop (α : Type) where
  /-- The attempts that were made, and the number of the next one. -/
  | calling (numbers : List UInt32) (attempt : UInt32)
  /-- The attempts that were made, and what was returned. -/
  | returned (numbers : List UInt32) (result : Except Failure α)

namespace Loop

/-- The number after a number, if the counter has it. -/
def next? (attempt : UInt32) : Option UInt32 :=
  if attempt.toNat + 1 < 2 ^ 32 then some (attempt + 1) else none

/-- One turn calls the operation. It stops at a counter that overflows, and
nothing follows a return. -/
def turn? (limit : UInt32) (outcomes : Nat → Except Failure α) : Loop α → Option (Loop α)
  | returned _ _ => none
  | calling numbers attempt =>
    let made := numbers ++ [attempt]
    match outcomes made.length with
    | .ok value => some (returned made (.ok value))
    | .error failure =>
      if attempt < limit ∧ failure.isTransient = true then
        (next? attempt).map (calling made)
      else some (returned made (.error failure))

/-- Where the loop stands after some turns. -/
def after (limit : UInt32) (outcomes : Nat → Except Failure α) : Nat → Option (Loop α)
  | 0 => some (calling [] 1)
  | turns + 1 => (after limit outcomes turns).bind (turn? limit outcomes)

/-- The numbers are those from 1 to `count`, in order. -/
def Counts (numbers : List UInt32) (count : Nat) : Prop :=
  numbers.map UInt32.toNat = List.range' 1 count

theorem Counts.length_eq {numbers : List UInt32} {count : Nat} (h : Counts numbers count) :
    numbers.length = count := by
  have hlength := congrArg List.length h
  simpa using hlength

theorem Counts.snoc {numbers : List UInt32} {count : Nat} (h : Counts numbers count)
    {attempt : UInt32} (hattempt : attempt.toNat = count + 1) :
    Counts (numbers ++ [attempt]) (count + 1) := by
  unfold Counts at *
  rw [List.map_append, h, List.range'_concat]
  simp [hattempt, Nat.add_comm]

section Turns

variable {limit attempt : UInt32} {outcomes : Nat → Except Failure α} {numbers : List UInt32}
  {count k : Nat}

/-- A turn before the last call goes on to the next number. -/
theorem turn?_again (hk : IsLeast (Stops limit.toNat outcomes) k) (hnumbers : Counts numbers count)
    (hattempt : attempt.toNat = count + 1) (hmore : count + 1 < k) :
    ∃ attempt' : UInt32, attempt'.toNat = count + 2 ∧
      turn? limit outcomes (calling numbers attempt) =
        some (calling (numbers ++ [attempt]) attempt') := by
  obtain ⟨failure, houtcome, htransient⟩ := transient_of_isLeast hk (Nat.succ_pos count) hmore
  have hle := le_of_isLeast hk
  have hlimit := limit.toNat_lt
  have hless : attempt < limit := by
    rw [UInt32.lt_iff_toNat_lt]
    omega
  have hnext : next? attempt = some (attempt + 1) := if_pos (by omega)
  refine ⟨attempt + 1, ?_, ?_⟩
  · rw [UInt32.toNat_add, hattempt]
    exact Nat.mod_eq_of_lt (by simp; omega)
  · simp only [turn?, (hnumbers.snoc hattempt).length_eq, houtcome, hless, htransient, and_self,
      if_true, hnext, Option.map_some]

/-- The turn of the last call returns its outcome. -/
theorem turn?_last (hk : IsLeast (Stops limit.toNat outcomes) k) (hnumbers : Counts numbers count)
    (hattempt : attempt.toNat = count + 1) (hlast : count + 1 = k) :
    turn? limit outcomes (calling numbers attempt) =
      some (returned (numbers ++ [attempt]) (outcomes k)) := by
  have hstop : ∀ failure, outcomes k = .error failure →
      ¬ (attempt < limit ∧ failure.isTransient = true) := by
    rintro failure houtcome ⟨hless, htransient⟩
    rw [UInt32.lt_iff_toNat_lt] at hless
    rcases hk.1 with hend | ⟨-, hfinal⟩
    · omega
    · exact not_isFinal_iff.2 ⟨failure, houtcome, htransient⟩ hfinal
  rcases houtcome : outcomes k with failure | value
  · simp only [turn?, (hnumbers.snoc hattempt).length_eq, hlast, houtcome, hstop failure houtcome,
      if_false]
  · simp only [turn?, (hnumbers.snoc hattempt).length_eq, hlast, houtcome]

/-- Before its last call the loop has made one call each turn. -/
theorem after_of_lt (hk : IsLeast (Stops limit.toNat outcomes) k) (hcount : count < k) :
    ∃ numbers attempt, Counts numbers count ∧ attempt.toNat = count + 1 ∧
      after limit outcomes count = some (calling numbers attempt) := by
  induction count with
  | zero => exact ⟨[], 1, rfl, rfl, rfl⟩
  | succ count ih =>
    obtain ⟨numbers, attempt, hnumbers, hattempt, hafter⟩ := ih (by omega)
    obtain ⟨attempt', hattempt', hturn⟩ := turn?_again hk hnumbers hattempt hcount
    refine ⟨_, attempt', hnumbers.snoc hattempt, hattempt', ?_⟩
    rw [after, hafter, Option.bind_some, hturn]

/-- The loop returns in the turn of its last call. -/
theorem after_eq (hk : IsLeast (Stops limit.toNat outcomes) k) :
    ∃ numbers, numbers.map UInt32.toNat = List.range' 1 k ∧
      after limit outcomes k = some (returned numbers (outcomes k)) := by
  have hpos := one_le_of_isLeast hk
  obtain ⟨count, rfl⟩ : ∃ n, k = n + 1 := ⟨k - 1, by omega⟩
  obtain ⟨numbers, attempt, hnumbers, hattempt, hafter⟩ := after_of_lt hk (Nat.lt_succ_self count)
  refine ⟨_, hnumbers.snoc hattempt, ?_⟩
  rw [after, hafter, Option.bind_some, turn?_last hk hnumbers hattempt rfl]

end Turns

end Loop

/-! ## The law -/

/-- The loop makes the right calls. It returns after `k` turns, where `k` is
the smaller one of the limit, but at least 1, and the first call with a final
outcome. The numbers that it has passed are 1 to `k`, and what it returns is
the outcome of call `k`. A failure is transient exactly if a link of its
chain is. -/
theorem the_loop_makes_exactly_the_right_calls (limit : UInt32)
    (outcomes : Nat → Except Failure α) :
    (∃ k, IsLeast (Stops limit.toNat outcomes) k ∧
      (∃ numbers, numbers.map UInt32.toNat = List.range' 1 k ∧
        Loop.after limit outcomes k = some (.returned numbers (outcomes k))) ∧
      run limit.toNat outcomes = ⟨List.range' 1 k, outcomes k⟩) ∧
    ∀ failure : Failure,
      failure.isTransient = true ↔ ∃ link ∈ failure.chain, link.IsTransientFault := by
  obtain ⟨k, hk⟩ := exists_isLeast_stops limit.toNat outcomes
  exact ⟨⟨k, hk, Loop.after_eq hk, run_eq hk⟩, fun _ => Failure.isTransient_iff⟩

end Attempts

end SceneMask
