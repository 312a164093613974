-- The law of promotion. The type that a crop gets for its fill has every
-- sample of the crop and the fill, and no type that comes before it on the
-- ladder has them all. Only a whole number that is no double has no type.
import Mathlib
import SceneMask.Proofs.Representability

namespace SceneMask

/-- A search finds the first item that passes. -/
theorem find?_eq_some_iff_first {α : Type} [DecidableEq α] {p : α → Bool} {xs : List α} {a : α}
    (h : a ∈ xs) :
    xs.find? p = some a ↔ p a = true ∧ ∀ b ∈ xs, p b = true → xs.idxOf a ≤ xs.idxOf b := by
  induction xs with
  | nil => cases h
  | cons x rest ih =>
    rw [List.find?_cons]
    rcases hx : p x with _ | _
    · -- the head does not pass, so it is neither the result nor before it
      have hne : ∀ b, p b = true → x ≠ b := by
        rintro b hb rfl
        rw [hx] at hb
        cases hb
      constructor
      · intro hfind
        have hpass := List.find?_some hfind
        have hfirst := (ih (List.mem_of_find?_eq_some hfind)).1 hfind
        refine ⟨hpass, fun b hb hb' => ?_⟩
        have hrest := (List.mem_cons.1 hb).resolve_left (Ne.symm (hne b hb'))
        rw [List.idxOf_cons_ne _ (hne a hpass), List.idxOf_cons_ne _ (hne b hb')]
        exact Nat.succ_le_succ (hfirst.2 b hrest hb')
      · rintro ⟨hpass, hfirst⟩
        have hrest := (List.mem_cons.1 h).resolve_left (Ne.symm (hne a hpass))
        refine (ih hrest).2 ⟨hpass, fun b hb hb' => ?_⟩
        have hle := hfirst b (List.mem_cons_of_mem x hb) hb'
        rw [List.idxOf_cons_ne _ (hne a hpass), List.idxOf_cons_ne _ (hne b hb')] at hle
        exact Nat.le_of_succ_le_succ hle
    · constructor
      · intro hfind
        obtain rfl : x = a := Option.some.inj hfind
        exact ⟨hx, fun b _ _ => by simp⟩
      · rintro ⟨-, hfirst⟩
        have hle := hfirst x List.mem_cons_self hx
        by_cases hxa : x = a
        · rw [hxa]
        · rw [List.idxOf_cons_ne _ hxa, List.idxOf_cons_self] at hle
          omega

namespace SampleType

/-! ## The ladder -/

/-- The place of a type on the ladder. -/
def rung (t : SampleType) : Nat := ladder.idxOf t

/-- How many bytes a sample has. -/
def width : SampleType → Nat
  | integer .uint8 | integer .int8 => 1
  | integer .uint16 | integer .int16 => 2
  | integer .uint32 | integer .int32 | float32 => 4
  | float64 => 8

theorem mem_ladder (t : SampleType) : t ∈ ladder := by
  rcases t with t | _ | _
  · cases t <;> decide
  · decide
  · decide

theorem width_le_of_rung_le {t u : SampleType} (h : t.rung ≤ u.rung) : t.width ≤ u.width := by
  have hall : ∀ t ∈ ladder, ∀ u ∈ ladder, t.rung ≤ u.rung → t.width ≤ u.width := by decide
  exact hall t (mem_ladder t) u (mem_ladder u) h

/-- A type comes after all types that it contains, so the current type of a
crop is the first one that has its samples. -/
theorem rung_le_of_contains {t u : SampleType} (h : t.contains u = true) : u.rung ≤ t.rung := by
  have hall : ∀ t ∈ ladder, ∀ u ∈ ladder, t.contains u = true → u.rung ≤ t.rung := by decide
  exact hall t (mem_ladder t) u (mem_ladder u) h

/-! ## The search -/

/-- The type has every sample of the current type, and the fill. -/
structure Suits (t current : SampleType) (fill : Fill) : Prop where
  samples : ∀ v : current.Value, t.Has (current.exact v)
  fill : t.Has fill.exact

theorem suits_iff {t current : SampleType} {fill : Fill} :
    t.Suits current fill ↔ (t.contains current && t.holds fill) = true := by
  rw [Bool.and_eq_true, contains_iff_has, holds_iff_has]
  exact ⟨fun h => ⟨h.samples, h.fill⟩, fun h => ⟨h.1, h.2⟩⟩

theorem suits_self {current : SampleType} {fill : Fill} (h : current.holds fill = true) :
    current.Suits current fill :=
  ⟨fun v => ⟨v, rfl⟩, has_of_holds h⟩

theorem find?_suits {current t : SampleType} {fill : Fill} :
    (ladder.find? fun u => u.contains current && u.holds fill) = some t ↔
      t.Suits current fill ∧ ∀ u : SampleType, u.Suits current fill → t.rung ≤ u.rung := by
  rw [find?_eq_some_iff_first (mem_ladder t)]
  simp only [suits_iff, mem_ladder, true_implies]
  rfl

/-- The short cut for a fill that fits agrees with the search. -/
theorem promote_eq_ok_iff {current t : SampleType} {fill : Fill} :
    current.promote fill = .ok t ↔
      t.Suits current fill ∧ ∀ u : SampleType, u.Suits current fill → t.rung ≤ u.rung := by
  rw [← find?_suits]
  unfold promote
  by_cases hholds : current.holds fill = true
  · have hfirst : ∀ u : SampleType, u.Suits current fill → current.rung ≤ u.rung := fun u hu =>
      rung_le_of_contains (contains_iff_has.2 hu.samples)
    rw [if_pos hholds, find?_suits.2 ⟨suits_self hholds, hfirst⟩]
    simp
  · rw [if_neg hholds, elim_error_eq_ok]

theorem promote_eq_error_iff {current : SampleType} {fill : Fill} {fault : Fault} :
    current.promote fill = .error fault ↔
      fault = .noExactSuperset fill.text current.name ∧
        ∀ t : SampleType, ¬ t.Suits current fill := by
  unfold promote
  by_cases hholds : current.holds fill = true
  · rw [if_pos hholds]
    constructor
    · intro h
      cases h
    · rintro ⟨-, hnone⟩
      exact absurd (suits_self hholds) (hnone current)
  · have hsearch : (ladder.find? fun u => u.contains current && u.holds fill) = none ↔
        ∀ t : SampleType, ¬ t.Suits current fill := by
      simp only [List.find?_eq_none, suits_iff, mem_ladder, true_implies]
    rw [if_neg hholds, ← hsearch, elim_error_eq_error]

/-! ## Fills without a type -/

/-- Double precision has every sample, so it fails on nothing but the fill. -/
theorem exists_suits_iff {current : SampleType} {fill : Fill} :
    (∃ t : SampleType, t.Suits current fill) ↔ Format.double.Has fill.exact := by
  constructor
  · rintro ⟨t, ht⟩
    exact ht.fill.double
  · intro h
    exact ⟨float64, fun v => Has.double ⟨v, rfl⟩, h⟩

theorem not_double_has_iff {fill : Fill} :
    ¬ Format.double.Has fill.exact ↔
      ∃ n, fill = .int n ∧ ¬ Format.double.Has (.number n.toInt) := by
  cases fill with
  | int n => simp [Fill.exact]
  | float x =>
    have hx : Format.double.Has (Fill.float x).exact := ⟨x, rfl⟩
    simp [hx]

theorem exists_promote_iff (current : SampleType) {fill : Fill} :
    (∃ t, current.promote fill = .ok t) ↔ float64.holds fill = true := by
  rw [holds_iff_has]
  constructor
  · rintro ⟨t, h⟩
    exact (promote_eq_ok_iff.1 h).1.fill.double
  · intro h
    rcases hpromote : current.promote fill with fault | t
    · obtain ⟨t, ht⟩ := exists_suits_iff.2 h
      exact absurd ht ((promote_eq_error_iff.1 hpromote).2 t)
    · exact ⟨t, rfl⟩

/-! ## The law -/

/-- Promotion is the least safe choice. Its type has all samples and the
fill, no type before it on the ladder or narrower than it does, and it needs
no further promotion. It fails exactly for a whole number that is no double,
and such a number has no type at all. -/
theorem promotion_is_the_least_safe_choice (current : SampleType) (fill : Fill) :
    (∀ t, current.promote fill = .ok t →
      t.Suits current fill ∧
      (∀ u : SampleType, u.rung < t.rung → ¬ u.Suits current fill) ∧
      (∀ u : SampleType, u.width < t.width → ¬ u.Suits current fill) ∧
      t.promote fill = .ok t) ∧
    ((∃ fault, current.promote fill = .error fault) ↔
      ∃ n, fill = .int n ∧ ¬ Format.double.Has (.number n.toInt)) ∧
    ∀ fault, current.promote fill = .error fault →
      (∃ reason, fault = .typeCompatibility reason) ∧ ∀ t : SampleType, ¬ t.Has fill.exact := by
  refine ⟨?_, ?_, ?_⟩
  · intro t h
    obtain ⟨hsuits, hfirst⟩ := promote_eq_ok_iff.1 h
    refine ⟨hsuits, fun u hu hsuits' => ?_, fun u hu hsuits' => ?_, ?_⟩
    · exact absurd (hfirst u hsuits') (Nat.not_le.2 hu)
    · exact absurd (width_le_of_rung_le (hfirst u hsuits')) (Nat.not_le.2 hu)
    · exact if_pos (holds_iff_has.2 hsuits.fill)
  · simp only [promote_eq_error_iff, exists_eq_left, ← not_exists, exists_suits_iff,
      not_double_has_iff]
  · intro fault h
    obtain ⟨rfl, hnone⟩ := promote_eq_error_iff.1 h
    rw [← not_exists, exists_suits_iff] at hnone
    exact ⟨⟨_, rfl⟩, fun t ht => hnone ht.double⟩

/-- No integer type and no single has all words of 32 bits and the fill -1. -/
example : (integer .uint32).promote (.int (-1)) = .ok float64 := by decide +kernel

end SampleType

end SceneMask
