-- The laws of the classes. Every class is in the list of all of them, once,
-- and has a whole number of its own, by which a sample stands for it.
import Mathlib
import SceneMask.Proofs.ExactNumbers
import SceneMask.SceneClass

namespace SceneMask

namespace SceneClass

/-! ## All classes -/

theorem mem_all (c : SceneClass) : c ∈ all := by cases c <;> decide

theorem nodup_all : all.Nodup := by decide

theorem sum_map_le_all {cs : List SceneClass} (h : cs.Nodup) (n : SceneClass → Nat) :
    (cs.map n).sum ≤ (all.map n).sum := by
  obtain ⟨part, hperm, hsub⟩ := List.subperm_of_subset h fun c _ => mem_all c
  calc (cs.map n).sum = (part.map n).sum := ((hperm.map n).sum_eq).symm
    _ ≤ (all.map n).sum := (hsub.map n).sum_le_sum fun _ _ => Nat.zero_le _

/-- A class stands at most once in a list without repeats, so what is added
to its number is added to the sum at most once. -/
theorem sum_map_add_at {M : Type} [AddCommMonoid M] {cs : List SceneClass} (h : cs.Nodup)
    (n : SceneClass → M) (c : SceneClass) (k : M) :
    (cs.map fun d => if d = c then n d + k else n d).sum =
      (cs.map n).sum + if c ∈ cs then k else 0 := by
  induction cs with
  | nil => simp
  | cons d rest ih =>
    obtain ⟨hd, hrest⟩ := List.nodup_cons.1 h
    rw [List.map_cons, List.sum_cons, List.map_cons, List.sum_cons, ih hrest]
    by_cases hdc : d = c
    · subst hdc
      simp only [hd, List.mem_cons_self, if_true, if_false, add_zero]
      rw [add_right_comm]
    · have hmem : c ∈ d :: rest ↔ c ∈ rest := by
        rw [List.mem_cons]
        exact or_iff_right (Ne.symm hdc)
      simp only [hdc, hmem, if_false]
      rw [add_assoc]

/-! ## Numbers of classes -/

/-- The whole number that stands for a class in its band. -/
def value (c : SceneClass) : Int := (c.code : Nat)

theorem ofCode?_eq_some_iff {n : Nat} {c : SceneClass} : ofCode? n = some c ↔ n = c.code := by
  constructor
  · intro h
    obtain ⟨hn, hc⟩ := List.getElem?_eq_some_iff.1 h
    subst hc
    have hcode : ∀ i : Fin 12, (i : Nat) = (all.get i).code := by decide
    exact hcode ⟨n, hn⟩
  · rintro rfl
    exact ofCode?_code c

/-- A sample stands for a class exactly if it is the number of the class. -/
theorem ofSample?_eq_some_iff {x : Double} {c : SceneClass} :
    ofSample? x = some c ↔ x.exact = .number c.value := by
  rw [Binary.exact_eq_int_iff]
  unfold ofSample? value
  constructor
  · intro h
    split at h
    · rename_i hx
      simp only [Bool.and_eq_true, decide_eq_true_eq] at hx
      have hcode := ofCode?_eq_some_iff.1 h
      exact ⟨hx.1, by omega⟩
    · contradiction
  · rintro ⟨hwhole, htruncate⟩
    rw [htruncate, hwhole]
    simp [ofCode?_code]

theorem ofSample?_eq_none_iff {x : Double} :
    ofSample? x = none ↔ ∀ c ∈ all, x.exact ≠ .number c.value := by
  rw [Option.eq_none_iff_forall_ne_some]
  simp only [ne_eq, ofSample?_eq_some_iff, mem_all, forall_const]

end SceneClass

end SceneMask
