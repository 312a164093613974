-- The expressions of the remote service as trees. A text is read by
-- matching parentheses: a call of `where` has three arguments, divided by
-- the commas of depth one, and every other text is a formula, whose meaning
-- is left open. Reading is exact on what a call is written from.
import Mathlib
import SceneMask.Number.Decimal
import SceneMask.Proofs.ExactNumbers

namespace SceneMask

/-! ## Trees -/

inductive Condition where
  /-- A band has a whole number as its value. -/
  | equals (band : List Char) (value : Int)
  | other (text : List Char)
deriving DecidableEq, Repr

inductive Expression where
  /-- Anything but a call of `where`. -/
  | formula (text : List Char)
  | choice (condition : Condition) (matched unmatched : Expression)
deriving DecidableEq, Repr

/-- What the service knows at one pixel: the numbers of the bands, which
other conditions hold, and the values of formulas. -/
structure Pixel (Value : Type) where
  band : List Char → Exact
  holds : List Char → Bool
  value : List Char → Value

namespace Condition

/-- A comparison has a whole number after its equality signs. -/
def read (text : List Char) : Condition :=
  match text.dropWhile (· ≠ '=') with
  | '=' :: '=' :: number =>
    (readInt? number).elim (other text) (equals (text.takeWhile (· ≠ '=')))
  | _ => other text

def eval {Value : Type} (pixel : Pixel Value) : Condition → Bool
  | equals band n => decide (pixel.band band = .number n)
  | other text => pixel.holds text

theorem read_equals {band number : List Char} {n : Int} (hband : '=' ∉ band)
    (hnumber : readInt? number = some n) :
    read (band ++ "==".toList ++ number) = equals band n := by
  have hname : ∀ c ∈ band, decide (c ≠ '=') = true := by
    intro c hc
    rw [decide_eq_true_iff]
    rintro rfl
    exact hband hc
  unfold read
  rw [List.append_assoc, List.dropWhile_append_of_pos hname, List.takeWhile_append_of_pos hname]
  show (readInt? number).elim _ (equals (band ++ [])) = _
  rw [hnumber, List.append_nil]
  rfl

end Condition

namespace Expression

def eval {Value : Type} (pixel : Pixel Value) : Expression → Value
  | formula text => pixel.value text
  | choice condition matched unmatched =>
    if condition.eval pixel then matched.eval pixel else unmatched.eval pixel

/-! ## Tests -/

/-- An end of a run of tests, with the expression that stands there. -/
inductive Arm where
  | matched (e : Expression)
  | last (e : Expression)
deriving DecidableEq

/-- The end that the first `n` tests of an expression lead to. -/
def arm {Value : Type} (pixel : Pixel Value) : Nat → Expression → Arm
  | 0, e => .last e
  | _ + 1, formula text => .last (formula text)
  | n + 1, choice condition matched unmatched =>
    if condition.eval pixel then .matched matched else arm pixel n unmatched

def Arm.expression : Arm → Expression
  | matched e => e
  | last e => e

/-- An expression has the value of the end that its tests lead to. -/
theorem eval_arm {Value : Type} (pixel : Pixel Value) (n : Nat) (e : Expression) :
    (arm pixel n e).expression.eval pixel = e.eval pixel := by
  induction n generalizing e with
  | zero => rfl
  | succ n ih =>
    cases e with
    | formula text => rfl
    | choice condition matched unmatched =>
      rw [arm, eval]
      split
      · rfl
      · exact ih unmatched

/-! ## Reading -/

/-- The parentheses are balanced, with `depth` open ones before the text,
and no comma stands outside of all. -/
def closes : Nat → List Char → Bool
  | depth, [] => depth == 0
  | depth, c :: cs =>
    if c = '(' then closes (depth + 1) cs
    else if c = ')' then depth != 0 && closes (depth - 1) cs
    else (c != ',' || depth != 0) && closes depth cs

/-- Puts a character in front of the first part. -/
def extend (c : Char) : List (List Char) → List (List Char)
  | [] => []
  | part :: rest => (c :: part) :: rest

/-- The arguments of a call, up to the parenthesis that closes it and ends
the text; `depth` parentheses are open inside the first argument. -/
def arguments? : Nat → List Char → Option (List (List Char))
  | _, [] => none
  | depth, c :: cs =>
    if c = '(' then (arguments? (depth + 1) cs).map (extend c)
    else if c = ')' then
      if depth = 0 then if cs.isEmpty then some [[]] else none
      else (arguments? (depth - 1) cs).map (extend c)
    else if c = ',' ∧ depth = 0 then (arguments? 0 cs).map ([] :: ·)
    else (arguments? depth cs).map (extend c)

/-- The arguments of a text that is one call of `where`. -/
def call? : List Char → Option (List Char × List Char × List Char)
  | 'w' :: 'h' :: 'e' :: 'r' :: 'e' :: '(' :: rest =>
    match arguments? 0 rest with
    | some [condition, matched, unmatched] => some (condition, matched, unmatched)
    | _ => none
  | _ => none

/-! ## Arguments -/

/-- What one character does: it closes the call, it divides two arguments,
or it belongs to the first argument, which goes on at the next depth. -/
theorem arguments?_cons_eq_some {depth : Nat} {c : Char} {cs : List Char}
    {parts : List (List Char)} (h : arguments? depth (c :: cs) = some parts) :
    (depth = 0 ∧ parts = [[]]) ∨
      (depth = 0 ∧ ∃ inner, arguments? 0 cs = some inner ∧ parts = [] :: inner) ∨
      ∃ next inner, arguments? next cs = some inner ∧ parts = extend c inner ∧
        ∀ part, closes depth (c :: part) = closes next part := by
  unfold arguments? at h
  split at h
  · rename_i hopen
    obtain ⟨inner, hinner, rfl⟩ := Option.map_eq_some_iff.1 h
    refine Or.inr (Or.inr ⟨depth + 1, inner, hinner, rfl, ?_⟩)
    intro part
    rw [closes, if_pos hopen]
  rename_i hopen
  split at h
  · rename_i hclose
    split at h
    · rename_i hdepth
      split at h
      · exact Or.inl ⟨hdepth, (Option.some.inj h).symm⟩
      · contradiction
    · rename_i hdepth
      obtain ⟨inner, hinner, rfl⟩ := Option.map_eq_some_iff.1 h
      refine Or.inr (Or.inr ⟨depth - 1, inner, hinner, rfl, ?_⟩)
      intro part
      rw [closes, if_neg hopen, if_pos hclose, bne_iff_ne.2 hdepth, Bool.true_and]
  rename_i hclose
  split at h
  · rename_i hcomma
    obtain ⟨inner, hinner, rfl⟩ := Option.map_eq_some_iff.1 h
    exact Or.inr (Or.inl ⟨hcomma.2, inner, hinner, rfl⟩)
  · rename_i hcomma
    obtain ⟨inner, hinner, rfl⟩ := Option.map_eq_some_iff.1 h
    refine Or.inr (Or.inr ⟨depth, inner, hinner, rfl, ?_⟩)
    intro part
    have hinside : (c != ',' || depth != 0) = true := by
      simp only [Bool.or_eq_true, bne_iff_ne]
      tauto
    rw [closes, if_neg hopen, if_neg hclose, hinside, Bool.true_and]

/-- Every argument of a call is balanced, the first one with the depth from
before the text. -/
theorem closes_of_arguments? {depth : Nat} {cs : List Char} {parts : List (List Char)}
    (h : arguments? depth cs = some parts) :
    ∃ first rest, parts = first :: rest ∧ closes depth first = true ∧
      ∀ part ∈ rest, closes 0 part = true := by
  induction cs generalizing depth parts with
  | nil => simp [arguments?] at h
  | cons c cs ih =>
    rcases arguments?_cons_eq_some h with ⟨rfl, rfl⟩ | ⟨rfl, inner, hinner, rfl⟩ |
      ⟨next, inner, hinner, rfl, hcloses⟩
    · exact ⟨[], [], rfl, rfl, by simp⟩
    · obtain ⟨first, rest, rfl, hfirst, hrest⟩ := ih hinner
      exact ⟨[], first :: rest, rfl, rfl, List.forall_mem_cons.2 ⟨hfirst, hrest⟩⟩
    · obtain ⟨first, rest, rfl, hfirst, hrest⟩ := ih hinner
      exact ⟨c :: first, rest, rfl, (hcloses first).trans hfirst, hrest⟩

theorem length_lt_of_mem_arguments? {depth : Nat} {cs : List Char} {parts : List (List Char)}
    (h : arguments? depth cs = some parts) : ∀ part ∈ parts, part.length < cs.length := by
  induction cs generalizing depth parts with
  | nil => simp [arguments?] at h
  | cons c cs ih =>
    intro part hpart
    rw [List.length_cons]
    rcases arguments?_cons_eq_some h with ⟨-, rfl⟩ | ⟨-, inner, hinner, rfl⟩ |
      ⟨next, inner, hinner, rfl, -⟩
    · rw [List.mem_singleton.1 hpart]
      simp
    · rcases List.mem_cons.1 hpart with rfl | hpart
      · simp
      · have := ih hinner part hpart
        omega
    · obtain ⟨first, rest, rfl, -, -⟩ := closes_of_arguments? hinner
      rcases List.mem_cons.1 hpart with rfl | hpart
      · have := ih hinner first List.mem_cons_self
        rw [List.length_cons]
        omega
      · have := ih hinner part (List.mem_cons_of_mem _ hpart)
        omega

theorem call?_eq_some {cs condition matched unmatched : List Char}
    (h : call? cs = some (condition, matched, unmatched)) :
    ∃ rest, cs = "where(".toList ++ rest ∧
      arguments? 0 rest = some [condition, matched, unmatched] := by
  unfold call? at h
  split at h
  · rename_i rest
    split at h
    · rename_i harguments
      cases h
      exact ⟨rest, rfl, harguments⟩
    · contradiction
  · contradiction

theorem call?_length {cs condition matched unmatched : List Char}
    (h : call? cs = some (condition, matched, unmatched)) :
    matched.length < cs.length ∧ unmatched.length < cs.length := by
  obtain ⟨rest, rfl, harguments⟩ := call?_eq_some h
  have hlt := length_lt_of_mem_arguments? harguments
  have hmatched := hlt matched (by simp)
  have hunmatched := hlt unmatched (by simp)
  rw [List.length_append]
  omega

/-- Reads a text whose parentheses are balanced and that has no comma
outside of them. -/
def read? (cs : List Char) : Option Expression :=
  if closes 0 cs then
    match _h : call? cs with
    | none => some (formula cs)
    | some (condition, matched, unmatched) =>
      (read? matched).bind fun m =>
        (read? unmatched).map fun u => choice (.read condition) m u
  else none
termination_by cs.length
decreasing_by
  · exact (call?_length ‹_›).1
  · exact (call?_length ‹_›).2

/-! ## Balanced texts -/

section Balanced

variable {depth : Nat} {cs : List Char}

/-- A text without parentheses and commas is balanced by itself. -/
theorem closes_of_plain (h : ∀ c ∈ cs, c ≠ '(' ∧ c ≠ ')' ∧ c ≠ ',') : closes 0 cs = true := by
  induction cs with
  | nil => rfl
  | cons c cs ih =>
    obtain ⟨⟨hopen, hclose, hcomma⟩, hrest⟩ := List.forall_mem_cons.1 h
    simp [closes, hopen, hclose, hcomma, ih hrest]

/-- What follows a balanced text is at the depth from before it. -/
theorem closes_append (h : closes depth cs = true) (outer : Nat) (rest : List Char) :
    closes (depth + outer) (cs ++ rest) = closes outer rest := by
  induction cs generalizing depth with
  | nil =>
    simp only [closes, beq_iff_eq] at h
    rw [h, Nat.zero_add, List.nil_append]
  | cons c cs ih =>
    unfold closes at h
    rw [List.cons_append, closes]
    split at h
    · rename_i hc
      rw [if_pos hc, Nat.add_right_comm]
      exact ih h
    rename_i hopen
    split at h
    · rename_i hc
      simp only [Bool.and_eq_true, bne_iff_ne] at h
      rw [if_neg hopen, if_pos hc, show depth + outer - 1 = depth - 1 + outer by omega, ih h.2]
      simp
      omega
    · rename_i hclose
      simp only [Bool.and_eq_true, Bool.or_eq_true, bne_iff_ne] at h
      have hinside : (c != ',' || depth + outer != 0) = true := by
        simp only [Bool.or_eq_true, bne_iff_ne]
        exact h.1.imp_right (by omega)
      rw [if_neg hopen, if_neg hclose, ih h.2, hinside, Bool.true_and]

/-- A balanced text stands as a whole in front of the parts after it. -/
theorem arguments?_append (h : closes depth cs = true) (rest : List Char) :
    arguments? depth (cs ++ rest) = (arguments? 0 rest).map fun parts => cs.foldr extend parts := by
  induction cs generalizing depth with
  | nil =>
    simp only [closes, beq_iff_eq] at h
    simp [h]
  | cons c cs ih =>
    unfold closes at h
    rw [List.cons_append, arguments?]
    split at h
    · rename_i hc
      rw [if_pos hc, ih h, Option.map_map]
      rfl
    rename_i hopen
    split at h
    · rename_i hc
      simp only [Bool.and_eq_true, bne_iff_ne] at h
      rw [if_neg hopen, if_pos hc, if_neg h.1, ih h.2, Option.map_map]
      rfl
    · rename_i hclose
      simp only [Bool.and_eq_true, Bool.or_eq_true, bne_iff_ne] at h
      rw [if_neg hopen, if_neg hclose, if_neg (by tauto), ih h.2, Option.map_map]
      rfl

theorem foldr_extend (cs : List Char) (rest : List (List Char)) :
    cs.foldr extend ([] :: rest) = cs :: rest := by
  induction cs with
  | nil => rfl
  | cons c cs ih => rw [List.foldr_cons, ih, extend]

theorem arguments?_append_comma (h : closes depth cs = true) (rest : List Char) :
    arguments? depth (cs ++ ',' :: rest) = (arguments? 0 rest).map (cs :: ·) := by
  rw [arguments?_append h]
  simp [arguments?, Option.map_map, Function.comp_def, foldr_extend]

theorem arguments?_append_close (h : closes depth cs = true) :
    arguments? depth (cs ++ [')']) = some [cs] := by
  rw [arguments?_append h]
  simp [arguments?, foldr_extend]

end Balanced

/-! ## Calls -/

/-- The text of a call. -/
def callText (condition matched unmatched : List Char) : List Char :=
  "where(".toList ++ (condition ++ ',' :: (matched ++ ',' :: (unmatched ++ [')'])))

section Calls

variable {condition matched unmatched : List Char}

theorem closes_callText (hcondition : closes 0 condition = true)
    (hmatched : closes 0 matched = true) (hunmatched : closes 0 unmatched = true) :
    closes 0 (callText condition matched unmatched) = true := by
  have hinside : ∀ {cs : List Char}, closes 0 cs = true → ∀ rest,
      closes 1 (cs ++ rest) = closes 1 rest := by
    intro cs h rest
    exact closes_append h 1 rest
  show closes 1 (condition ++ ',' :: (matched ++ ',' :: (unmatched ++ [')']))) = true
  rw [hinside hcondition]
  show closes 1 (matched ++ ',' :: (unmatched ++ [')'])) = true
  rw [hinside hmatched]
  show closes 1 (unmatched ++ [')']) = true
  rw [hinside hunmatched]
  rfl

theorem call?_callText (hcondition : closes 0 condition = true)
    (hmatched : closes 0 matched = true) (hunmatched : closes 0 unmatched = true) :
    call? (callText condition matched unmatched) = some (condition, matched, unmatched) := by
  have harguments : arguments? 0 (condition ++ ',' :: (matched ++ ',' :: (unmatched ++ [')']))) =
      some [condition, matched, unmatched] := by
    rw [arguments?_append_comma hcondition, arguments?_append_comma hmatched,
      arguments?_append_close hunmatched]
    rfl
  show (match arguments? 0 (condition ++ ',' :: (matched ++ ',' :: (unmatched ++ [')']))) with
    | some [c, m, u] => some (c, m, u)
    | _ => none) = _
  rw [harguments]

theorem closes_of_read? {cs : List Char} {e : Expression} (h : read? cs = some e) :
    closes 0 cs = true := by
  unfold read? at h
  by_contra hcs
  rw [if_neg hcs] at h
  contradiction

/-- A call is read as a choice between what its arguments are read as. -/
theorem read?_callText (hcondition : closes 0 condition = true) {m u : Expression}
    (hmatched : read? matched = some m) (hunmatched : read? unmatched = some u) :
    read? (callText condition matched unmatched) = some (choice (.read condition) m u) := by
  have hm := closes_of_read? hmatched
  have hu := closes_of_read? hunmatched
  rw [read?, if_pos (closes_callText hcondition hm hu)]
  split
  · rename_i hnone
    rw [call?_callText hcondition hm hu] at hnone
    contradiction
  · rename_i c m' u' hsome
    rw [call?_callText hcondition hm hu] at hsome
    cases hsome
    rw [hmatched, hunmatched]
    rfl

end Calls

/-- A text that does not begin with `w` is no call. -/
theorem read?_formula {cs : List Char} (h : closes 0 cs = true) (hw : cs.head? ≠ some 'w') :
    read? cs = some (formula cs) := by
  have hcall : call? cs = none := by
    unfold call?
    split
    · simp at hw
    · rfl
  rw [read?, if_pos h]
  split
  · rfl
  · rename_i hsome
    rw [hcall] at hsome
    contradiction

/-- Every text that is balanced, without a comma outside of parentheses, can
be read. -/
theorem exists_read? (cs : List Char) (h : closes 0 cs = true) : ∃ e, read? cs = some e := by
  induction hn : cs.length using Nat.strong_induction_on generalizing cs with
  | _ n ih =>
    rw [read?, if_pos h]
    split
    · exact ⟨_, rfl⟩
    · rename_i condition matched unmatched hcall
      obtain ⟨rest, -, harguments⟩ := call?_eq_some hcall
      obtain ⟨first, others, hparts, -, hothers⟩ := closes_of_arguments? harguments
      cases hparts
      obtain ⟨hmatched, hunmatched⟩ := call?_length hcall
      obtain ⟨m, hm⟩ := ih _ (by omega) matched (hothers _ (by simp)) rfl
      obtain ⟨u, hu⟩ := ih _ (by omega) unmatched (hothers _ (by simp)) rfl
      rw [hm, hu]
      exact ⟨_, rfl⟩

end Expression

end SceneMask
