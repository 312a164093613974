-- The laws of trimming. Blanks around a text make no difference to what is
-- left of it, a trimmed text stays as it is, and nothing is left of a text
-- exactly if it is blank all over.
import Mathlib
import SceneMask.Text.Blank

namespace SceneMask

variable {left right cs : List Char}

/-- Blanks and nothing else. -/
def AllBlank (cs : List Char) : Prop := ∀ c ∈ cs, isBlank c = true

theorem mem_of_mem_trimBlanks {c : Char} (h : c ∈ trimBlanks cs) : c ∈ cs := by
  unfold trimBlanks at h
  rw [List.mem_reverse] at h
  have hback := (List.dropWhile_sublist isBlank).subset h
  rw [List.mem_reverse] at hback
  exact (List.dropWhile_sublist isBlank).subset hback

theorem isBlank_of_visible {c : Char} (hlow : 33 ≤ c.toNat) (hhigh : c.toNat ≤ 126) :
    isBlank c = false := by
  simp [isBlank, blankRanges]
  omega

theorem isBlank_of_isDigit {c : Char} (h : c.isDigit = true) : isBlank c = false := by
  obtain ⟨hlow, hhigh⟩ := Char.isDigit_iff_toNat.1 h
  exact isBlank_of_visible (le_trans (by decide) hlow) (le_trans hhigh (by decide))

theorem isBlank_of_isUpper {c : Char} (h : c.isUpper = true) : isBlank c = false := by
  simp only [Char.isUpper, decide_eq_true_eq] at h
  have hlow : 65 ≤ c.toNat := h.1
  have hhigh : c.toNat ≤ 90 := h.2
  exact isBlank_of_visible (by omega) (by omega)

/-! ## Texts that are trimmed -/

theorem trimBlanks_trimBlanks (cs : List Char) :
    trimBlanks (trimBlanks cs) = trimBlanks cs := by
  set front := cs.dropWhile isBlank with hcs
  -- Trimming the back leaves a prefix, which starts as the front does.
  have hinit : front.rdropWhile isBlank <+: front := List.rdropWhile_prefix _ _
  have hfront : (front.rdropWhile isBlank).dropWhile isBlank = front.rdropWhile isBlank := by
    rw [List.dropWhile_eq_self_iff]
    intro hlength
    have hkept : front.dropWhile isBlank = front := by
      rw [hcs, List.dropWhile_idempotent]
    rw [hinit.getElem hlength]
    exact List.dropWhile_eq_self_iff.1 hkept _
  show ((front.rdropWhile isBlank).dropWhile isBlank).rdropWhile isBlank = _
  rw [hfront, List.rdropWhile_idempotent]
  rfl

/-- A text with no blank at either end is trimmed. -/
theorem trimBlanks_of_ends {first last : Char} (hfirst : isBlank first = false)
    (hlast : isBlank last = false) (cs : List Char) :
    trimBlanks (first :: (cs ++ [last])) = first :: (cs ++ [last]) := by
  simp [trimBlanks, hfirst, hlast]

theorem trimBlanks_of_no_blank (h : ∀ c ∈ cs, isBlank c = false) : trimBlanks cs = cs := by
  have hkeep : ∀ ds : List Char, (∀ c ∈ ds, isBlank c = false) → ds.dropWhile isBlank = ds := by
    intro ds hds
    rw [List.dropWhile_eq_self_iff]
    intro hlength
    simp [hds _ (List.getElem_mem hlength)]
  unfold trimBlanks
  rw [hkeep cs h, hkeep cs.reverse (by simpa using h), List.reverse_reverse]

/-! ## Texts between blanks -/

theorem trimBlanks_append_left (h : AllBlank left) (cs : List Char) :
    trimBlanks (left ++ cs) = trimBlanks cs := by
  unfold trimBlanks
  rw [List.dropWhile_append_of_pos h]

theorem trimBlanks_append_right (h : AllBlank right) (cs : List Char) :
    trimBlanks (cs ++ right) = trimBlanks cs := by
  have hback : ∀ c ∈ right.reverse, isBlank c = true :=
    fun c hc => h c (List.mem_reverse.1 hc)
  unfold trimBlanks
  rw [List.dropWhile_append]
  split
  · rename_i hempty
    rw [List.isEmpty_iff.1 hempty, List.dropWhile_eq_nil_iff.2 h]
  · rw [List.reverse_append, List.dropWhile_append_of_pos hback]

theorem trimBlanks_between (hleft : AllBlank left) (hright : AllBlank right) (cs : List Char) :
    trimBlanks (left ++ cs ++ right) = trimBlanks cs := by
  rw [trimBlanks_append_right hright, trimBlanks_append_left hleft]

theorem trimBlanks_eq_nil_iff : trimBlanks cs = [] ↔ AllBlank cs := by
  constructor
  · intro h
    have hfront : cs.dropWhile isBlank = [] := by
      by_contra hne
      have hlast : ∀ c ∈ cs.dropWhile isBlank, isBlank c = true := by
        unfold trimBlanks at h
        rw [List.reverse_eq_nil_iff, List.dropWhile_eq_nil_iff] at h
        simpa using h
      have hhead := List.head_dropWhile_not isBlank hne
      rw [hlast _ (List.head_mem hne)] at hhead
      contradiction
    exact List.dropWhile_eq_nil_iff.1 hfront
  · intro h
    unfold trimBlanks
    rw [List.dropWhile_eq_nil_iff.2 h]
    rfl

end SceneMask
