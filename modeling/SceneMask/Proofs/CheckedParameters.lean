-- The law of checked parameters. What a check has accepted can only fail on a
-- target: on assets, and on texts with nothing but blanks between their
-- semicolons, and even on these only if some classes are selected. What a check
-- has refused masks no target, unless it selects no classes.
import Mathlib
import SceneMask.CommandLine.Request
import SceneMask.Proofs.Pieces
import SceneMask.Proofs.Selections

namespace SceneMask

open CommandLine (MaskOptions)

/-! ## Blank targets -/

namespace Target

/-- The texts of a target; assets have none. -/
def texts : Target → List String
  | assets _ => []
  | expression text => [text]
  | expressions texts => texts

/-- Blanks and nothing else stand between the semicolons of the texts. -/
def IsBlank (target : Target) : Prop :=
  ∀ text ∈ target.texts, ∀ part ∈ text.toList.splitOn ';', AllBlank part

theorem pieces_eq_flatMap (target : Target) :
    target.pieces = target.texts.flatMap Mask.pieces := by
  cases target with
  | assets names => rfl
  | expression text => rw [pieces, texts, List.flatMap_singleton]
  | expressions texts => rfl

theorem pieces_eq_nil_iff {target : Target} : target.pieces = [] ↔ target.IsBlank := by
  have htext : ∀ text, Mask.pieces text = [] ↔ ∀ part ∈ text.toList.splitOn ';', AllBlank part := by
    intro text
    simp [Mask.pieces_eq, trimBlanks_eq_nil_iff]
  rw [pieces_eq_flatMap, List.flatMap_eq_nil_iff, IsBlank]
  simp only [htext]

end Target

/-! ## Targets under a mask -/

namespace Mask

variable {mask : Mask} {target : Target} {fault : Fault}

theorem compile_of_empty (hempty : mask.selection.isEmpty = true) :
    mask.compile target = .ok target := if_pos hempty

/-- A mask that selects classes without a band or a number to fill with fails on every
target. -/
theorem exists_compile_error (hselects : mask.selection.isEmpty = false)
    (h : (trim mask.classBand).isEmpty = true ∨ mask.fill.isFinite = false) (target : Target) :
    ∃ fault, mask.compile target = .error fault := by
  unfold compile
  rw [hselects, if_neg Bool.false_ne_true]
  split
  · exact ⟨_, rfl⟩
  · rename_i hnamed
    rw [h.resolve_left hnamed]
    exact ⟨_, rfl⟩

/-- A mask with a band and with a number to fill with fails on the target only. -/
theorem compile_eq_error_iff (hselects : mask.selection.isEmpty = false)
    (hnamed : (trim mask.classBand).isEmpty = false) (hfinite : mask.fill.isFinite = true) :
    mask.compile target = .error fault ↔
      target.isAssets = true ∧ fault = .assetsCannotBeMasked ∨
      target.isAssets = false ∧ target.IsBlank ∧ fault = .nothingToMask := by
  cases htarget : target.isAssets with
  | true =>
    cases target with
    | assets names => simp [compile, hselects, hnamed, hfinite, eq_comm]
    | expression text => contradiction
    | expressions texts => contradiction
  | false =>
    rw [compile_of_pieces hselects htarget, hnamed, hfinite, ← Target.pieces_eq_nil_iff]
    cases target.pieces <;> simp [compilePieces, eq_comm]

end Mask

/-! ## The law -/

namespace MaskConfig

variable {config : MaskConfig} {selection : Selection}

/-- The mask of the parameters, for the selection that their classes make. -/
def mask (config : MaskConfig) (selection : Selection) : Mask :=
  ⟨selection, config.policy, config.fill, config.classBand⟩

theorem compile_of_selection (h : config.selection = .ok selection) (target : Target) :
    config.compile target = (config.mask selection).compile target :=
  bind_of_eq_ok h

theorem validate_of_parse {path text : String} (h : parse path text = .ok config) :
    config.validate = .ok () := by
  obtain ⟨read, -, hchecked⟩ := bind_eq_ok.1 h
  obtain ⟨_, hvalid, hconfig⟩ := bind_eq_ok.1 hchecked
  cases hconfig
  exact hvalid

theorem validate_of_maskConfig {files : Files} {path : String}
    (h : files.maskConfig path = .ok config) : config.validate = .ok () := by
  unfold Files.maskConfig at h
  cases htext : files.text? path with
  | none =>
    rw [htext] at h
    cases h
  | some text =>
    rw [htext] at h
    exact validate_of_parse h

theorem compile_eq_error_iff (h : config.validate = .ok ())
    (hselection : config.selection = .ok selection) {target : Target} {fault : Fault} :
    config.compile target = .error fault ↔ selection.classes ≠ [] ∧
      (target.isAssets = true ∧ fault = .assetsCannotBeMasked ∨
        target.isAssets = false ∧ target.IsBlank ∧ fault = .nothingToMask) := by
  obtain ⟨hnamed, hfinite, -⟩ := validate_eq_ok.1 h
  rw [compile_of_selection hselection]
  cases hselects : (config.mask selection).selection.isEmpty with
  | true =>
    have hclasses : selection.classes = [] := List.isEmpty_iff.1 hselects
    rw [Mask.compile_of_empty hselects]
    simp [hclasses]
  | false =>
    rw [Mask.compile_eq_error_iff hselects hnamed hfinite]
    exact (and_iff_right (List.isEmpty_eq_false_iff.1 hselects)).symm

theorem exists_compile_error (h : config.validate ≠ .ok ())
    (hselection : ∀ selection, config.selection = .ok selection → selection.isEmpty = false)
    (target : Target) : ∃ fault, config.compile target = .error fault := by
  cases hread : config.selection with
  | error fault =>
    refine ⟨fault, ?_⟩
    unfold compile
    rw [hread]
    rfl
  | ok selection =>
    rw [compile_of_selection hread]
    apply Mask.exists_compile_error (hselection selection hread)
    by_contra hgood
    simp only [not_or, Bool.not_eq_true, Bool.not_eq_false] at hgood
    exact h (validate_eq_ok.2 ⟨hgood.1, hgood.2, selection, hread⟩)

/-- Parameters that pass their check make a selection, and put every target
under a mask but those that cannot have one: with some classes selected, assets
fail on `assets`, and texts without a piece on `expression`. All parameters pass
their check that are read from a text or from a file, or come from the options of
a run. Parameters that do not pass their check fail on every target, unless their
classes make an empty selection. -/
theorem checked_parameters_fail_on_the_target_only (config : MaskConfig) :
    (config.validate = .ok () → ∃ selection, config.selection = .ok selection ∧
      ∀ target fault, config.compile target = .error fault ↔ selection.classes ≠ [] ∧
        (target.isAssets = true ∧ fault = .assetsCannotBeMasked ∧
            fault.parameter? = some "assets" ∨
          target.isAssets = false ∧ target.IsBlank ∧ fault = .nothingToMask ∧
            fault.parameter? = some "expression")) ∧
    (((∃ path text, parse path text = .ok config) ∨
        (∃ (files : Files) (path : String), files.maskConfig path = .ok config) ∨
        ∃ (options : MaskOptions) (files : Files), options.resolve files = .ok config) →
      config.validate = .ok ()) ∧
    (config.validate ≠ .ok () →
      (∃ selection, config.selection = .ok selection ∧ selection.classes = []) ∨
        ∀ target, ∃ fault, config.compile target = .error fault) := by
  refine ⟨fun hvalid => ?_, ?_, fun hinvalid => ?_⟩
  · obtain ⟨-, -, selection, hselection⟩ := validate_eq_ok.1 hvalid
    refine ⟨selection, hselection, fun target fault => ?_⟩
    rw [compile_eq_error_iff hvalid hselection]
    refine and_congr_right fun _ => or_congr (and_congr_right fun _ => ?_)
      (and_congr_right fun _ => and_congr_right fun _ => ?_)
    · refine ⟨?_, And.left⟩
      rintro rfl
      exact ⟨rfl, rfl⟩
    · refine ⟨?_, And.left⟩
      rintro rfl
      exact ⟨rfl, rfl⟩
  · rintro (⟨path, text, h⟩ | ⟨files, path, h⟩ | ⟨options, files, h⟩)
    · exact validate_of_parse h
    · exact validate_of_maskConfig h
    · obtain ⟨_, -, -, hvalid⟩ := MaskOptions.resolve_eq_ok.1 h
      exact hvalid
  · by_cases hempty : ∃ selection, config.selection = .ok selection ∧ selection.classes = []
    · exact Or.inl hempty
    · right
      apply exists_compile_error hinvalid
      intro selection hselection
      rw [Selection.isEmpty, List.isEmpty_eq_false_iff]
      exact fun hclasses => hempty ⟨selection, hselection, hclasses⟩

end MaskConfig

end SceneMask
