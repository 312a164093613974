-- Histograms and summaries in checked words, where a sum that its word does
-- not hold halts the program. Reading a response halts where the pixels of a
-- class, or of none, overflow their counter, and summing up halts where the
-- pixels of the selection do. In every other case the checked run ends with
-- the result, or the fault, of the run whose words wrap around.
import Mathlib
import SceneMask.Proofs.Conservation
import SceneMask.Proofs.ResponseHistograms
import SceneMask.Summary

namespace SceneMask

/-! ## Runs that may halt -/

/-- Steps that end with a result or with a fault, or with neither: a checked
word that cannot hold its number halts the program. -/
abbrev Halting (ε : Type) := ExceptT ε Option

/-- A checked run halts in one case, and in every other case it ends as the
plain run does. -/
structure HaltsIf {ε α : Type} (overflow : Prop) (checked : Halting ε α)
    (plain : Except ε α) : Prop where
  halts : overflow → checked.run = none
  agrees : ¬overflow → checked.run = some plain

namespace HaltsIf

variable {ε ε' α β : Type} {p q : Prop} {checked : Halting ε α} {plain : Except ε α}

theorem run_eq_none_iff (h : HaltsIf p checked plain) : checked.run = none ↔ p := by
  refine ⟨?_, h.halts⟩
  intro hnone
  by_contra hp
  rw [h.agrees hp] at hnone
  cases hnone

theorem run_eq_some_iff (h : HaltsIf p checked plain) {result : Except ε α} :
    checked.run = some result ↔ ¬p ∧ plain = result := by
  refine ⟨?_, ?_⟩
  · intro hsome
    have hp : ¬p := by
      intro hp
      rw [h.halts hp] at hsome
      cases hsome
    rw [h.agrees hp, Option.some.injEq] at hsome
    exact ⟨hp, hsome⟩
  · rintro ⟨hp, rfl⟩
    exact h.agrees hp

theorem congr (h : HaltsIf p checked plain) (hpq : p ↔ q) : HaltsIf q checked plain :=
  ⟨fun hq => h.halts (hpq.2 hq), fun hq => h.agrees fun hp => hq (hpq.1 hp)⟩

/-- A run without checked words never halts. -/
theorem never (result : Except ε α) : HaltsIf False (.mk (some result)) result :=
  ⟨False.elim, fun _ => rfl⟩

/-- A checked number that the run goes on with. -/
theorem lift {x : Option α} {a : α} (hnone : p → x = none) (hsome : ¬p → x = some a) :
    HaltsIf p (liftM x : Halting ε α) (.ok a) := by
  refine ⟨?_, ?_⟩
  · intro hp
    rw [hnone hp]
    rfl
  · intro hp
    rw [hsome hp]
    rfl

theorem map (h : HaltsIf p checked plain) (f : Except ε α → Except ε' β) :
    HaltsIf p (.mk (checked.run.map f)) (f plain) := by
  refine ⟨?_, ?_⟩
  · intro hp
    rw [ExceptT.run_mk, h.halts hp, Option.map_none]
  · intro hp
    rw [ExceptT.run_mk, h.agrees hp, Option.map_some]

/-- One run after the other halts where the first one does, or where the
second one does with what the first one came to. -/
theorem bind {q : α → Prop} {next : α → Halting ε β} {next' : α → Except ε β}
    (h : HaltsIf p checked plain) (hnext : ∀ a, HaltsIf (q a) (next a) (next' a)) :
    HaltsIf (p ∨ ∃ a, plain = .ok a ∧ q a) (checked >>= next) (plain >>= next') := by
  by_cases hp : p
  · have hrun : (checked >>= next).run = none := by
      rw [ExceptT.run_bind, h.halts hp]
      rfl
    exact ⟨fun _ => hrun, fun hnot => absurd (Or.inl hp) hnot⟩
  · have hchecked := h.agrees hp
    cases plain with
    | error cause =>
      refine ⟨?_, ?_⟩
      · rintro (hhalts | ⟨a, ha, -⟩)
        · exact absurd hhalts hp
        · cases ha
      · intro _
        rw [ExceptT.run_bind, hchecked]
        rfl
    | ok a =>
      have hrun : (checked >>= next).run = (next a).run := by
        rw [ExceptT.run_bind, hchecked]
        rfl
      refine ⟨?_, ?_⟩
      · rintro (hhalts | ⟨_, ha, hq⟩)
        · exact absurd hhalts hp
        · cases ha
          rw [hrun, (hnext a).halts hq]
      · intro hnot
        rw [hrun, (hnext a).agrees fun hq => hnot (Or.inr ⟨a, rfl, hq⟩)]
        rfl

/-- Only the second run has checked words. -/
theorem after {q : α → Prop} {next : α → Halting ε β} {next' : α → Except ε β}
    (h : ∀ a, HaltsIf (q a) (next a) (next' a)) :
    HaltsIf (∃ a, plain = .ok a ∧ q a) (.mk (some plain) >>= next) (plain >>= next') :=
  ((never plain).bind h).congr (iff_of_eq (false_or _))

/-- A run over a list in which no item has a fault halts where it halts at
one of the items. -/
theorem mapM {items : List α} {overflow : α → Prop} {f : α → Halting ε β} {f' : α → Except ε β}
    {g : α → β} (h : ∀ a, HaltsIf (overflow a) (f a) (f' a)) (hok : ∀ a, f' a = .ok (g a)) :
    HaltsIf (∃ a ∈ items, overflow a) (items.mapM f) (items.mapM f') := by
  induction items with
  | nil => exact (never (.ok [])).congr (by simp)
  | cons a rest ih =>
    have hrest : rest.mapM f' = .ok (rest.map g) := mapM_eq_ok fun a _ => hok a
    rw [List.mapM_cons, List.mapM_cons]
    refine ((h a).bind fun b => ih.bind fun bs => never (.ok (b :: bs))).congr ?_
    simp [hok, hrest]

end HaltsIf

/-! ## Histograms -/

namespace Histogram

open Checked (add?)

/-- Counts `n` pixels of a class, or of no class, if the counter holds them. -/
def tally? (histogram : Histogram) (c : Option SceneClass) (n : UInt64) : Option Histogram :=
  match c with
  | some c => do
    let sum ← add? (histogram.count c) n
    return { histogram with counts := histogram.counts.set c sum }
  | none => do
    let sum ← add? histogram.unrecognized n
    return { histogram with unrecognized := sum }

def tallyPair? (histogram : Histogram) (pair : Double × Double) : Halting Fault Histogram := do
  let n ← .mk (some (pixelCount pair.1))
  histogram.tally? (SceneClass.ofSample? pair.2) n

/-- The pixel counts of a record, in checked words. -/
def ofStatistics? (record : Statistics) : Halting Fault Histogram :=
  match record.histogram with
  | none => throw (.missingKey "histogram")
  | some ⟨counts, labels⟩ =>
    if counts.length ≠ labels.length then throw (.histogramLengths counts.length labels.length)
    else (counts.zip labels).foldlM tallyPair? empty

/-! ## Pixels of a response -/

/-- The pairs up to the first count that is no number of pixels. -/
def reached (pairs : List (Double × Double)) : List (Double × Double) :=
  pairs.takeWhile fun pair => pair.1.IsPixelCount

/-- Reading comes to all pairs if all counts are numbers of pixels. -/
theorem reached_pairs {response : ValueHistogram} (h : response.Countable) :
    reached response.pairs = response.pairs := by
  apply List.takeWhile_eq_self_iff.2
  intro pair hpair
  rw [decide_eq_true_iff]
  apply h.counts
  rw [← h.map_fst_pairs]
  exact List.mem_map_of_mem hpair

/-! ## Halts -/

theorem tally?_eq (histogram : Histogram) (c : Option SceneClass) (n : UInt64) :
    histogram.tally? c n =
      if (histogram.counter c).toNat + n.toNat < 2 ^ 64 then some (histogram.tally c n)
      else none := by
  unfold tally? add? counter tally
  cases c with
  | some c =>
    dsimp only
    split <;> rfl
  | none =>
    dsimp only
    split <;> rfl

theorem haltsIf_tallyPair (histogram : Histogram) (pair : Double × Double) :
    HaltsIf (pair.1.IsPixelCount ∧
        2 ^ 64 ≤ (histogram.counter (pairTally pair).1).toNat + (pairTally pair).2.toNat)
      (histogram.tallyPair? pair) (histogram.tallyPair pair) := by
  have hstep : ∀ n, HaltsIf (2 ^ 64 ≤ (histogram.counter (pairTally pair).1).toNat + n.toNat)
      (liftM (histogram.tally? (pairTally pair).1 n) : Halting Fault Histogram)
      (.ok (histogram.tally (pairTally pair).1 n)) := by
    intro n
    rw [tally?_eq]
    exact .lift (fun h => if_neg (Nat.not_lt.2 h)) (fun h => if_pos (Nat.not_le.1 h))
  refine (HaltsIf.after hstep).congr ?_
  simp [pixelCount_eq_ok_iff, pairTally]

/-- One pair more: either its own counter overflows, or a counter does on the
way from there. -/
theorem overflow_cons_iff (start : Histogram) (pair : Double × Double)
    (rest : List (Double × Double)) :
    ((pair.1.IsPixelCount ∧
        2 ^ 64 ≤ (start.counter (pairTally pair).1).toNat + (pairTally pair).2.toNat) ∨
      ∃ next, start.tallyPair pair = .ok next ∧
        ∃ c, 2 ^ 64 ≤ (next.counter c).toNat + pixelsOf ((reached rest).map pairTally) c) ↔
      ∃ c, 2 ^ 64 ≤ (start.counter c).toNat +
        pixelsOf ((reached (pair :: rest)).map pairTally) c := by
  by_cases hcount : pair.1.IsPixelCount
  · have hreached : reached (pair :: rest) = pair :: reached rest := by simp [reached, hcount]
    simp only [tallyPair_eq_ok_iff, hcount, true_and, exists_eq_left, hreached, List.map_cons,
      pixelsOf_cons]
    by_cases hfull :
        2 ^ 64 ≤ (start.counter (pairTally pair).1).toNat + (pairTally pair).2.toNat
    · simp only [hfull, true_or, true_iff]
      refine ⟨(pairTally pair).1, ?_⟩
      rw [if_pos rfl]
      omega
    · simp only [hfull, false_or]
      apply exists_congr
      intro c
      rw [counter_tally]
      by_cases hc : (pairTally pair).1 = c
      · subst hc
        rw [if_pos rfl, if_pos rfl, toNat_add_of_lt (by omega), Nat.add_assoc]
      · rw [if_neg hc, if_neg hc, Nat.zero_add]
  · have hreached : reached (pair :: rest) = [] := by simp [reached, hcount]
    simpa [tallyPair_eq_ok_iff, hcount, hreached, pixelsOf] using
      fun c => (start.counter c).toNat_lt

theorem haltsIf_foldlM (pairs : List (Double × Double)) (start : Histogram) :
    HaltsIf (∃ c, 2 ^ 64 ≤ (start.counter c).toNat + pixelsOf ((reached pairs).map pairTally) c)
      (pairs.foldlM tallyPair? start) (pairs.foldlM tallyPair start) := by
  induction pairs generalizing start with
  | nil =>
    refine (HaltsIf.never (.ok start)).congr ?_
    simpa [reached, pixelsOf] using fun c => (start.counter c).toNat_lt
  | cons pair rest ih =>
    rw [List.foldlM_cons, List.foldlM_cons]
    exact ((haltsIf_tallyPair start pair).bind ih).congr
      (overflow_cons_iff start pair rest)

/-- Reading a response overflows: the counts up to the first one that is no
number of pixels leave the word of a counter. -/
def CounterOverflows (response : ValueHistogram) : Prop :=
  response.counts.length = response.labels.length ∧
    ∃ c, 2 ^ 64 ≤ pixelsOf ((reached response.pairs).map pairTally) c

/-- A counter that does not overflow has all pixels of its class. -/
theorem toNat_count_of_fits {response : ValueHistogram} (hcountable : response.Countable)
    (hfits : ¬CounterOverflows response) (c : SceneClass) :
    ((tallyAll (response.pairs.map pairTally)).count c).toNat =
      pixelsOf (response.pairs.map pairTally) (some c) := by
  refine (toNat_counter_tallyAll _ (some c)).trans (Nat.mod_eq_of_lt ?_)
  by_contra hfull
  refine hfits ⟨hcountable.lengths, some c, ?_⟩
  rw [reached_pairs hcountable]
  exact Nat.not_lt.1 hfull

theorem haltsIf_ofStatistics (record : Statistics) :
    HaltsIf (∃ response, record.histogram = some response ∧ CounterOverflows response)
      (ofStatistics? record) (ofStatistics record) := by
  unfold ofStatistics? ofStatistics CounterOverflows
  rcases record.histogram with _ | ⟨counts, labels⟩
  · exact (HaltsIf.never (.error _)).congr (by simp)
  dsimp only
  by_cases hlengths : counts.length = labels.length
  · rw [if_neg (not_not.2 hlengths), if_neg (not_not.2 hlengths)]
    refine (haltsIf_foldlM (counts.zip labels) empty).congr ?_
    simp [hlengths, counter_empty, ValueHistogram.pairs]
  · rw [if_pos hlengths, if_pos hlengths]
    exact (HaltsIf.never (.error _)).congr (by simp [hlengths])

end Histogram

namespace Summary

open Checked (add?)
open Histogram (pixelsOf pairTally)

/-- The pixels of a selection, if a word holds them. -/
def selected? (histogram : Histogram) (selection : Selection) : Option Double := do
  let sum ← (selection.classes.map histogram.count).foldlM add? 0
  return .ofNat sum.toNat

/-- The summary of a histogram of which some pixels are kept. -/
def ofKept (histogram : Histogram) (count kept : Double) : Summary where
  kept := kept.toWord
  keptPercent := percent kept count
  counts := histogram.counts
  percents := histogram.counts.map fun n => percent (.ofNat n.toNat) count

/-- The summary of a record, in checked words. -/
def ofStatistics? (record : Statistics) (selection : Selection) (policy : Policy) :
    Halting Fault Summary := do
  let count ← .mk (some ((record.value .count).elim (.error (.missingKey "count")) .ok))
  let histogram ← Histogram.ofStatistics? record
  let selected ← selected? histogram selection
  return ofKept histogram count (keptCount count selected policy)

theorem haltsIf_selected (histogram : Histogram) (selection : Selection) :
    HaltsIf (2 ^ 64 ≤ (selection.classes.map fun c => (histogram.count c).toNat).sum)
      (liftM (selected? histogram selection) : Halting Fault Double)
      (.ok (selected histogram selection)) := by
  have hwords := histogram.map_toNat_counts selection.classes
  apply HaltsIf.lift
  · intro hfull
    unfold selected?
    rw [Checked.foldlM_add?_eq_none (by rw [hwords]; simpa using hfull)]
    rfl
  · intro hfits
    rw [Nat.not_le, ← hwords] at hfits
    obtain ⟨sum, hfold, hsum⟩ :=
      Checked.foldlM_add? (selection.classes.map histogram.count) 0 (by simpa using hfits)
    have hselected : sum = (selection.classes.map histogram.count).foldr (· + ·) 0 := by
      apply UInt64.toNat_inj.1
      rw [hsum, Histogram.toNat_foldr_add (by simpa using hfits), Nat.add_comm]
    unfold selected? selected
    rw [hfold, hselected]
    rfl

/-- Summing up a record overflows. It gets there with a count and a
histogram of two lists of one length. Then a counter does not hold its
pixels, or no count has a fault and a word does not hold the pixels of the
selection. -/
inductive Overflows (record : Statistics) (selection : Selection) : Prop
  | counter {response : ValueHistogram} (hcount : (record.value .count).isSome)
      (hresponse : record.histogram = some response)
      (h : Histogram.CounterOverflows response)
  | selected {response : ValueHistogram} (hcount : (record.value .count).isSome)
      (hresponse : record.histogram = some response) (hcountable : response.Countable)
      (h : 2 ^ 64 ≤ (selection.classes.map fun c =>
        pixelsOf (response.pairs.map pairTally) (some c)).sum)

theorem haltsIf_ofStatistics (record : Statistics) (selection : Selection) (policy : Policy) :
    HaltsIf (Overflows record selection) (ofStatistics? record selection policy)
      (ofStatistics record selection policy) := by
  refine (HaltsIf.after fun count => (Histogram.haltsIf_ofStatistics record).bind
    fun histogram => (haltsIf_selected histogram selection).bind fun selected =>
      HaltsIf.never (.ok (ofKept histogram count (keptCount count selected policy)))).congr ?_
  simp only [elim_error_eq_ok, Histogram.ofStatistics_eq_ok_iff]
  refine ⟨?_, ?_⟩
  · rintro ⟨count, hcount, ⟨response, hresponse, hcounter⟩ |
      ⟨_, ⟨response, hresponse, hcountable, rfl⟩, hselected | ⟨_, -, hnever⟩⟩⟩
    · exact .counter (Option.isSome_of_eq_some hcount) hresponse hcounter
    · refine .selected (Option.isSome_of_eq_some hcount) hresponse hcountable (hselected.trans ?_)
      apply List.sum_le_sum
      intro c _
      exact (Histogram.toNat_counter_tallyAll _ (some c)).trans_le (Nat.mod_le _ _)
    · exact hnever.elim
  · intro h
    cases h with
    | counter hcount hresponse hcounter =>
      obtain ⟨count, hcount⟩ := Option.isSome_iff_exists.1 hcount
      exact ⟨count, hcount, Or.inl ⟨_, hresponse, hcounter⟩⟩
    | @selected response hcount hresponse hcountable hselected =>
      obtain ⟨count, hcount⟩ := Option.isSome_iff_exists.1 hcount
      refine ⟨count, hcount, ?_⟩
      by_cases hcounter : Histogram.CounterOverflows response
      · exact Or.inl ⟨response, hresponse, hcounter⟩
      · refine Or.inr ⟨_, ⟨response, hresponse, hcountable, rfl⟩, Or.inl ?_⟩
        simpa only [Histogram.toNat_count_of_fits hcountable hcounter] using hselected

end Summary

end SceneMask
