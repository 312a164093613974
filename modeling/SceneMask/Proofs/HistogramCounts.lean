-- The laws of histograms in natural numbers. As long as all pixels fit
-- into a word, no counter overflows, and the histogram of a band counts
-- each sample once, under its class or apart.
import Mathlib
import SceneMask.Histogram
import SceneMask.Proofs.ClassNumbers
import SceneMask.Selection

namespace SceneMask

namespace Histogram

/-! ## One count more -/

/-- All pixels of a histogram, without the limit of a word. -/
def pixels (histogram : Histogram) : Nat :=
  (SceneClass.all.map fun c => (histogram.count c).toNat).sum + histogram.unrecognized.toNat

theorem count_tally (histogram : Histogram) (c : Option SceneClass) (n : UInt64)
    (d : SceneClass) : (histogram.tally c n).count d =
      if c = some d then histogram.count d + n else histogram.count d := by
  cases c with
  | none => simp [tally, count]
  | some c =>
    simp only [tally, count, PerClass.get_set, Option.some.injEq]
    by_cases h : c = d
    · subst h
      simp
    · simp [h]

theorem count_le_pixels (histogram : Histogram) (c : SceneClass) :
    (histogram.count c).toNat ≤ histogram.pixels := by
  have h := SceneClass.sum_map_le_all (List.nodup_singleton c) fun d => (histogram.count d).toNat
  simp only [List.map_singleton, List.sum_singleton] at h
  unfold pixels
  omega

theorem toNat_add_of_lt {a b : UInt64} (h : a.toNat + b.toNat < 2 ^ 64) :
    (a + b).toNat = a.toNat + b.toNat := by
  rw [UInt64.toNat_add, Nat.mod_eq_of_lt h]

theorem pixels_tally {histogram : Histogram} (c : Option SceneClass) {n : UInt64}
    (h : histogram.pixels + n.toNat < 2 ^ 64) :
    (histogram.tally c n).pixels = histogram.pixels + n.toNat := by
  cases c with
  | none =>
    have hfit : histogram.unrecognized.toNat + n.toNat < 2 ^ 64 := by
      unfold pixels at h
      omega
    show (SceneClass.all.map fun c => (histogram.count c).toNat).sum
      + (histogram.unrecognized + n).toNat = _
    rw [toNat_add_of_lt hfit, ← Nat.add_assoc]
    rfl
  | some c =>
    have hfit : ∀ d, (histogram.count d).toNat + n.toNat < 2 ^ 64 := by
      intro d
      have := count_le_pixels histogram d
      omega
    have hcount : ∀ d, ((histogram.tally (some c) n).count d).toNat =
        if d = c then (histogram.count d).toNat + n.toNat else (histogram.count d).toNat := by
      intro d
      rw [count_tally]
      by_cases hdc : d = c
      · simp [hdc, toNat_add_of_lt (hfit c)]
      · simp [hdc, Ne.symm hdc]
    unfold pixels
    simp only [hcount]
    rw [SceneClass.sum_map_add_at SceneClass.nodup_all, if_pos (SceneClass.mem_all c)]
    show _ + histogram.unrecognized.toNat = _
    omega

/-- A sum of words that a word holds is the sum of their numbers. -/
theorem toNat_foldr_add {xs : List UInt64} {n : UInt64}
    (h : (xs.map UInt64.toNat).sum + n.toNat < 2 ^ 64) :
    (xs.foldr (· + ·) n).toNat = (xs.map UInt64.toNat).sum + n.toNat := by
  induction xs with
  | nil => simp
  | cons x rest ih =>
    rw [List.map_cons, List.sum_cons] at h
    have hrest := ih (by omega)
    rw [List.foldr_cons, List.map_cons, List.sum_cons, toNat_add_of_lt] <;> rw [hrest] <;> omega

theorem map_toNat_counts (histogram : Histogram) (cs : List SceneClass) :
    (cs.map histogram.count).map UInt64.toNat = cs.map fun c => (histogram.count c).toNat := by
  rw [List.map_map]
  rfl

/-- The total in a word is the number of all pixels. -/
theorem toNat_total {histogram : Histogram} (h : histogram.pixels < 2 ^ 64) :
    histogram.total.toNat = histogram.pixels := by
  unfold pixels at h ⊢
  rw [← map_toNat_counts] at h ⊢
  exact toNat_foldr_add h

/-! ## Counters -/

/-- The counter of a class, or the one apart. -/
def counter (histogram : Histogram) : Option SceneClass → UInt64
  | some c => histogram.count c
  | none => histogram.unrecognized

theorem counter_tally (histogram : Histogram) (c : Option SceneClass) (n : UInt64)
    (d : Option SceneClass) : (histogram.tally c n).counter d =
      if c = d then histogram.counter d + n else histogram.counter d := by
  cases d with
  | some d => exact count_tally histogram c n d
  | none => cases c <;> simp [tally, counter]

/-- The counters are all there is to a histogram. -/
theorem ext_counter {histogram other : Histogram}
    (h : ∀ c, histogram.counter c = other.counter c) : histogram = other := by
  obtain ⟨⟨cells⟩, unrecognized⟩ := histogram
  obtain ⟨⟨cells'⟩, unrecognized'⟩ := other
  have hnone : unrecognized = unrecognized' := h none
  have hcells : cells = cells' := by
    apply Vector.ext
    intro code hcode
    have hclass := h (some (.ofCode ⟨code, hcode⟩))
    have hback : ∀ i : Fin 12, (SceneClass.ofCode i).code = i := by decide
    simpa [counter, count, PerClass.get, hback] using hclass
  rw [hnone, hcells]

/-! ## Many counts -/

/-- Counts pixels of classes, or of no class, one after the other. -/
def tallyAll (tallies : List (Option SceneClass × UInt64)) : Histogram :=
  tallies.foldl (fun histogram t => histogram.tally t.1 t.2) empty

theorem tallyAll_append_singleton (tallies : List (Option SceneClass × UInt64))
    (t : Option SceneClass × UInt64) :
    tallyAll (tallies ++ [t]) = (tallyAll tallies).tally t.1 t.2 := by
  simp [tallyAll]

theorem counter_empty (c : Option SceneClass) : empty.counter c = 0 := by
  unfold counter count empty
  cases c with
  | some c => exact PerClass.get_ofFn (fun _ => 0) c
  | none => rfl

theorem pixels_empty : empty.pixels = 0 := by decide

/-- The pixels of one class, or of none. -/
def pixelsOf (tallies : List (Option SceneClass × UInt64)) (c : Option SceneClass) : Nat :=
  ((tallies.filter fun t => t.1 = c).map fun t => t.2.toNat).sum

theorem pixelsOf_cons (t : Option SceneClass × UInt64) (rest : List (Option SceneClass × UInt64))
    (c : Option SceneClass) :
    pixelsOf (t :: rest) c = (if t.1 = c then t.2.toNat else 0) + pixelsOf rest c := by
  unfold pixelsOf
  rw [List.filter_cons]
  by_cases hc : t.1 = c <;> simp [hc]

/-- A counter that wraps around is short of its pixels by whole words. -/
theorem toNat_counter_tallyAll (tallies : List (Option SceneClass × UInt64))
    (c : Option SceneClass) :
    ((tallyAll tallies).counter c).toNat = pixelsOf tallies c % 2 ^ 64 := by
  induction tallies using List.reverseRecOn with
  | nil => simp [tallyAll, pixelsOf, counter_empty]
  | append_singleton tallies t ih =>
    rw [tallyAll_append_singleton, counter_tally]
    unfold pixelsOf at ih ⊢
    rw [List.filter_append, List.map_append, List.sum_append]
    by_cases hc : t.1 = c
    · rw [if_pos hc, UInt64.toNat_add, ih]
      simp [hc]
    · rw [if_neg hc, ih]
      simp [hc]

theorem pixelsOf_le (tallies : List (Option SceneClass × UInt64)) (c : Option SceneClass) :
    pixelsOf tallies c ≤ (tallies.map fun t => t.2.toNat).sum := by
  have hsome : (tallies.filter fun t => t.1 = c).Sublist tallies := List.filter_sublist
  exact (hsome.map _).sum_le_sum fun _ _ => Nat.zero_le _

/-- Every pixel is counted once, and each counter counts its own. -/
theorem counts_of_tallies {tallies : List (Option SceneClass × UInt64)}
    (h : (tallies.map fun t => t.2.toNat).sum < 2 ^ 64) :
    (tallyAll tallies).pixels = (tallies.map fun t => t.2.toNat).sum ∧
      ∀ c, ((tallyAll tallies).counter c).toNat = pixelsOf tallies c := by
  constructor
  · induction tallies using List.reverseRecOn with
    | nil => exact pixels_empty
    | append_singleton tallies t ih =>
      rw [List.map_append, List.sum_append, List.map_singleton, List.sum_singleton] at h ⊢
      have hpixels := ih (by omega)
      rw [tallyAll_append_singleton, pixels_tally] <;> omega
  · intro c
    rw [toNat_counter_tallyAll, Nat.mod_eq_of_lt ((pixelsOf_le tallies c).trans_lt h)]

/-- The order of the counts does not matter, since words are added in any
order. -/
theorem tallyAll_perm {tallies other : List (Option SceneClass × UInt64)}
    (h : other.Perm tallies) : tallyAll other = tallyAll tallies := by
  apply h.foldl_eq'
  intro s _ t _ histogram
  apply ext_counter
  intro c
  rw [counter_tally, counter_tally, counter_tally, counter_tally]
  by_cases hs : s.1 = c
  · by_cases ht : t.1 = c
    · simp only [hs, ht, if_true]
      rw [UInt64.add_assoc, UInt64.add_comm s.2, ← UInt64.add_assoc]
    · simp [hs, ht]
  · simp [hs]

/-! ## A whole band -/

theorem foldl_addSample (samples : List Double) :
    samples.foldl addSample empty =
      tallyAll (samples.map fun x => (SceneClass.ofSample? x, 1)) := by
  unfold tallyAll
  rw [List.foldl_map]
  rfl

/-- Every sample is counted once, and each counter counts its class. -/
theorem counts_of_samples (samples : List Double) (h : samples.length < 2 ^ 64) :
    (samples.foldl addSample empty).pixels = samples.length ∧
      ∀ c, ((samples.foldl addSample empty).count c).toNat =
        samples.countP fun x => SceneClass.ofSample? x = some c := by
  have hone : (1 : UInt64).toNat = 1 := rfl
  have hsum : ((samples.map fun x => (SceneClass.ofSample? x, (1 : UInt64))).map
      fun t => t.2.toNat).sum = samples.length := by
    rw [List.map_map]
    simp [Function.comp_def, hone]
  obtain ⟨hpixels, hcounter⟩ := counts_of_tallies (hsum.trans_lt h)
  rw [foldl_addSample]
  refine ⟨hpixels.trans hsum, ?_⟩
  intro c
  refine (hcounter (some c)).trans ?_
  unfold pixelsOf
  rw [List.filter_map, List.map_map, List.countP_eq_length_filter]
  simp [hone, Function.comp_def]

end Histogram

end SceneMask
