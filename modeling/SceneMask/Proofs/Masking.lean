-- The laws of masking. The text of a compiled mask is read back as one
-- chain of tests around each piece, and the chain gives the piece where the
-- policy keeps the class of the pixel, and the fill everywhere else.
import Mathlib
import SceneMask.Mask
import SceneMask.Proofs.ClassNumbers
import SceneMask.Proofs.Expression
import SceneMask.Proofs.Numerals
import SceneMask.Proofs.Trimming

namespace SceneMask

/-! ## Splitting -/

theorem not_mem_of_mem_splitOn {a : Char} {cs piece : List Char} (h : piece ∈ cs.splitOn a) :
    a ∉ piece := by
  induction cs generalizing piece with
  | nil =>
    rw [List.splitOn_nil, List.mem_singleton] at h
    simp [h]
  | cons c cs ih =>
    rw [List.splitOn_cons_eq_if_modifyHead] at h
    split at h
    · rcases List.mem_cons.1 h with rfl | h
      · simp
      · exact ih h
    · rename_i hc
      rcases hsplit : cs.splitOn a with _ | ⟨first, rest⟩
      · rw [hsplit] at h
        simp at h
      · rw [hsplit, List.modifyHead_cons] at h
        rw [hsplit] at ih
        rcases List.mem_cons.1 h with rfl | h
        · have hfirst := ih (List.mem_cons_self)
          simp only [List.mem_cons, not_or]
          exact ⟨fun ha => hc (by simp [ha]), hfirst⟩
        · exact ih (List.mem_cons_of_mem _ h)

/-- Texts that each end with a separator split into the texts and an empty
rest. -/
theorem splitOn_flatMap_append {a : Char} {entries : List (List Char)}
    (h : ∀ entry ∈ entries, a ∉ entry) :
    (entries.flatMap fun entry => entry ++ [a]).splitOn a = entries ++ [[]] := by
  induction entries with
  | nil => rfl
  | cons entry rest ih =>
    obtain ⟨hentry, hrest⟩ := List.forall_mem_cons.1 h
    rw [List.flatMap_cons, List.append_assoc, List.singleton_append,
      List.splitOn_append_cons_self_of_not_mem hentry, ih hrest, List.cons_append]

/-! ## Chains of tests -/

namespace Expression

/-- Tests for classes, the first one outermost. -/
def chain (band : List Char) (matched unmatched : Expression) : List SceneClass → Expression
  | [] => unmatched
  | c :: rest => choice (.equals band c.value) matched (chain band matched unmatched rest)

/-- The first test that holds decides, so only membership counts. -/
theorem arm_chain {Value : Type} (pixel : Pixel Value) (band : List Char)
    (matched unmatched : Expression) (classes : List SceneClass) :
    arm pixel classes.length (chain band matched unmatched classes) =
      if ∃ c ∈ classes, pixel.band band = .number c.value then .matched matched
      else .last unmatched := by
  induction classes with
  | nil => simp [chain, arm]
  | cons c rest ih =>
    rw [chain, List.length_cons, arm, ih, Condition.eval]
    simp only [decide_eq_true_eq, List.exists_mem_cons_iff]
    by_cases hc : pixel.band band = .number c.value
    · rw [if_pos hc, if_pos (Or.inl hc)]
    · rw [if_neg hc]
      simp only [hc, false_or]

end Expression

namespace Target

/-- The pieces that a mask covers; assets have none. -/
def pieces : Target → List (List Char)
  | assets _ => []
  | expression text => Mask.pieces text
  | expressions texts => texts.flatMap Mask.pieces

theorem not_mem_piece {target : Target} {piece : List Char} (h : piece ∈ target.pieces) :
    ';' ∉ piece := by
  have htext : ∀ text : String, piece ∈ Mask.pieces text → ';' ∉ piece := by
    intro text hpiece hmem
    obtain ⟨part, hpart, rfl⟩ := List.mem_map.1 (List.mem_of_mem_filter hpiece)
    exact not_mem_of_mem_splitOn hpart (mem_of_mem_trimBlanks hmem)
  cases target with
  | assets names => contradiction
  | expression text => exact htext text h
  | expressions texts =>
    obtain ⟨text, -, hpiece⟩ := List.mem_flatMap.1 h
    exact htext text hpiece

end Target

namespace Mask

/-! ## Reading a mask back -/

/-- The characters with a meaning in the grammar. -/
def reserved : List Char := ['(', ')', ',', ';', '=']

/-- A mask that has a text: some classes, a band whose name stands apart
from the grammar, and a fill that is a number. -/
structure Writable (mask : Mask) : Prop where
  selects : mask.selection.isEmpty = false
  named : (trim mask.classBand).isEmpty = false
  plain : ∀ c ∈ mask.classBand.toList, c ∉ reserved
  finite : mask.fill.isFinite = true

theorem Writable.plain_test {mask : Mask} (h : mask.Writable) (n : Nat) :
    ∀ c ∈ mask.classBand.toList ++ "==".toList ++ digits n,
      c ≠ '(' ∧ c ≠ ')' ∧ c ≠ ',' := by
  intro c hc
  rcases List.mem_append.1 hc with hc | hc
  · rcases List.mem_append.1 hc with hc | hc
    · have := h.plain c hc
      simp only [reserved, List.mem_cons] at this
      tauto
    · have hequals : c = '=' := by simpa using hc
      rw [hequals]
      decide
  · have := isDigit_of_mem_digits hc
    refine ⟨?_, ?_, ?_⟩ <;> (rintro rfl; contradiction)

theorem plain_of_numeric {cs : List Char} (h : Numeric cs) :
    ∀ c ∈ cs, c ≠ '(' ∧ c ≠ ')' ∧ c ≠ ',' ∧ c ≠ ';' ∧ c ≠ 'w' := by
  intro c hc
  refine ⟨?_, ?_, ?_, ?_, ?_⟩ <;> (rintro rfl; simpa using h _ hc)

/-- The policy of a mask keeps a number of the class band. -/
def keepsNumber (mask : Mask) (x : Exact) : Bool :=
  mask.policy.keeps (decide (∃ c ∈ mask.selection.classes, x = .number c.value))

/-- The expression of a mask around a base expression. -/
def tree (mask : Mask) (base : Expression) : Expression :=
  let fill := Expression.formula mask.fill.chars
  let band := mask.classBand.toList
  match mask.policy with
  | .whitelist => .chain band base fill mask.selection.classes
  | .blacklist => .chain band fill base mask.selection.classes

/-- The end of a mask's chain where the base stands. -/
def baseArm (mask : Mask) (base : Expression) : Expression.Arm :=
  match mask.policy with
  | .whitelist => .matched base
  | .blacklist => .last base

/-- The end of a mask's chain where the fill stands. -/
def fillArm (mask : Mask) : Expression.Arm :=
  match mask.policy with
  | .whitelist => .last (.formula mask.fill.chars)
  | .blacklist => .matched (.formula mask.fill.chars)

theorem baseArm_ne_fillArm (mask : Mask) (base : Expression) :
    mask.baseArm base ≠ mask.fillArm := by
  unfold baseArm fillArm
  cases mask.policy <;> simp

/-- The tests lead to the base exactly where the policy keeps the pixel. -/
theorem arm_tree {Value : Type} (mask : Mask) (base : Expression) (pixel : Pixel Value) :
    (mask.tree base).arm pixel mask.selection.size =
      if mask.keepsNumber (pixel.band mask.classBand.toList) then mask.baseArm base
      else mask.fillArm := by
  unfold tree baseArm fillArm keepsNumber Selection.size
  cases mask.policy with
  | whitelist =>
    simp only [Expression.arm_chain, Policy.keeps, decide_eq_true_eq]
  | blacklist =>
    simp only [Expression.arm_chain, Policy.keeps, Bool.not_eq_true', decide_eq_false_iff_not]
    rw [ite_not]

theorem eval_tree {Value : Type} (mask : Mask) (base : Expression) (pixel : Pixel Value) :
    (mask.tree base).eval pixel =
      if mask.keepsNumber (pixel.band mask.classBand.toList) then base.eval pixel
      else pixel.value mask.fill.chars := by
  rw [← Expression.eval_arm pixel mask.selection.size, arm_tree]
  unfold baseArm fillArm
  split
  · cases mask.policy <;> rfl
  · cases mask.policy <;> rfl

section Text

variable {mask : Mask}

theorem branch_eq_callText (band matched rest : List Char) (c : SceneClass) :
    branch band matched rest c =
      Expression.callText (band ++ "==".toList ++ digits c.code) matched rest := by
  unfold branch Expression.callText
  rw [show ",".toList = [','] from rfl, show ")".toList = [')'] from rfl]
  simp only [List.append_assoc, List.cons_append, List.nil_append]

/-- One test after the other, a chain is read back with both its ends. -/
theorem read?_branches (h : mask.Writable) {matched unmatched : List Char} {m u : Expression}
    (hmatched : Expression.read? matched = some m)
    (hunmatched : Expression.read? unmatched = some u) (classes : List SceneClass) :
    Expression.read? (classes.foldr
      (fun c rest => branch mask.classBand.toList matched rest c) unmatched) =
      some (.chain mask.classBand.toList m u classes) := by
  induction classes with
  | nil => exact hunmatched
  | cons c rest ih =>
    have htest : Expression.closes 0
        (mask.classBand.toList ++ "==".toList ++ digits c.code) = true :=
      Expression.closes_of_plain (h.plain_test c.code)
    have hband : '=' ∉ mask.classBand.toList := by
      intro hmem
      exact h.plain '=' hmem (by decide)
    rw [List.foldr_cons, branch_eq_callText, Expression.read?_callText htest hmatched ih,
      Condition.read_equals hband (readInt?_digits _)]
    rfl

/-- The text of a fill is a formula, however it is written. -/
theorem read?_fill (h : mask.Writable) :
    Expression.read? mask.fill.chars = some (.formula mask.fill.chars) := by
  have hplain := plain_of_numeric (Fill.numeric_chars h.finite)
  apply Expression.read?_formula
  · apply Expression.closes_of_plain
    intro c hc
    obtain ⟨hopen, hclose, hcomma, -⟩ := hplain c hc
    exact ⟨hopen, hclose, hcomma⟩
  · intro hw
    exact (hplain 'w' (List.mem_of_head? hw)).2.2.2.2 rfl

/-- A piece under a mask is read back as the tree of the mask around what
the piece is read as. -/
theorem read?_wrap (h : mask.Writable) {piece : List Char} {base : Expression}
    (hpiece : Expression.read? piece = some base) :
    Expression.read? (mask.wrap piece) = some (mask.tree base) := by
  unfold wrap tree
  cases mask.policy with
  | whitelist => exact read?_branches h hpiece (read?_fill h) _
  | blacklist => exact read?_branches h (read?_fill h) hpiece _

theorem semicolon_not_mem_branches {band matched unmatched : List Char} (hband : ';' ∉ band)
    (hmatched : ';' ∉ matched) (hunmatched : ';' ∉ unmatched) (classes : List SceneClass) :
    ';' ∉ classes.foldr (fun c rest => branch band matched rest c) unmatched := by
  induction classes with
  | nil => exact hunmatched
  | cons c rest ih =>
    have hdigits : ';' ∉ digits c.code := by
      intro hmem
      have := isDigit_of_mem_digits hmem
      contradiction
    rw [List.foldr_cons, branch_eq_callText]
    unfold Expression.callText
    simp only [List.mem_append, List.mem_cons, List.not_mem_nil, not_or]
    exact ⟨by decide, ⟨⟨hband, by decide⟩, hdigits⟩, by decide, hmatched, by decide, ih, by decide,
      not_false⟩

/-- A mask whose band has no semicolon adds none to a piece, so each piece
stays one entry. -/
theorem undivided_wrap (hband : ';' ∉ mask.classBand.toList) (hfinite : mask.fill.isFinite = true)
    {piece : List Char} (hpiece : ';' ∉ piece) : ';' ∉ mask.wrap piece := by
  have hfill : ';' ∉ mask.fill.chars := by
    intro hmem
    exact (plain_of_numeric (Fill.numeric_chars hfinite) ';' hmem).2.2.2.1 rfl
  unfold wrap
  cases mask.policy with
  | whitelist => exact semicolon_not_mem_branches hband hpiece hfill _
  | blacklist => exact semicolon_not_mem_branches hband hfill hpiece _

theorem semicolon_not_mem_wrap (h : mask.Writable) {piece : List Char} (hpiece : ';' ∉ piece) :
    ';' ∉ mask.wrap piece :=
  undivided_wrap (fun hmem => h.plain ';' hmem (by decide)) h.finite hpiece

/-- What a mask with some classes makes of a target depends on its pieces
only. -/
theorem compile_of_pieces (hselects : mask.selection.isEmpty = false) {target : Target}
    (htarget : target.isAssets = false) :
    mask.compile target =
      if (trim mask.classBand).isEmpty then .error .blankAttribute
      else if !mask.fill.isFinite then .error (.fillWithoutLiteral mask.fill.text)
      else mask.compilePieces target.pieces := by
  unfold compile
  rw [hselects, if_neg Bool.false_ne_true]
  cases target with
  | assets names => contradiction
  | expression text => rfl
  | expressions texts => rfl

theorem compile_eq (h : mask.Writable) {target : Target} (htarget : target.isAssets = false) :
    mask.compile target = mask.compilePieces target.pieces := by
  rw [compile_of_pieces h.selects htarget, h.named, h.finite]
  rfl

end Text

theorem keepsNumber_number (mask : Mask) (n : Int) :
    mask.keepsNumber (.number n) =
      mask.policy.keeps (decide (n ∈ mask.selection.classes.map SceneClass.value)) := by
  unfold keepsNumber
  congr 1
  rw [Bool.eq_iff_iff, decide_eq_true_iff, decide_eq_true_iff, List.mem_map]
  simp only [Exact.number.injEq, Int.cast_inj, eq_comm]

/-! ## The law -/

/-- The text of a compiled mask means the mask. It splits at semicolons into
one entry for each piece of the target, in order and each with a semicolon
at its end. An entry can be read, and at a pixel of any whole class number,
be it the code of a class or not, it gives what the piece gives if the
policy keeps that number, and the fill if not. A target without pieces is
refused. -/
theorem compiled_text_means_the_mask {mask : Mask} (h : mask.Writable) {target : Target}
    (htarget : target.isAssets = false)
    (hclosed : ∀ piece ∈ target.pieces, Expression.closes 0 piece = true) :
    (target.pieces = [] → mask.compile target = .error .nothingToMask) ∧
      (target.pieces ≠ [] → ∃ text entries, mask.compile target = .ok (.expression text) ∧
        text.toList.splitOn ';' = entries ++ [[]] ∧
        List.Forall₂ (fun piece entry => ∃ base whole,
          Expression.read? piece = some base ∧ Expression.read? entry = some whole ∧
          ∀ (Value : Type) (pixel : Pixel Value) (n : Int),
            pixel.band mask.classBand.toList = .number n →
            whole.eval pixel =
              if mask.policy.keeps (decide (n ∈ mask.selection.classes.map SceneClass.value))
              then base.eval pixel else pixel.value mask.fill.chars)
          target.pieces entries) := by
  rw [compile_eq h htarget]
  unfold compilePieces
  refine ⟨?_, ?_⟩
  · intro hpieces
    rw [hpieces]
    rfl
  · intro hpieces
    rw [List.isEmpty_eq_false_iff.2 hpieces]
    refine ⟨mask.wrapAll target.pieces, target.pieces.map mask.wrap, rfl, ?_, ?_⟩
    · rw [wrapAll, String.toList_ofList, ← splitOn_flatMap_append, List.flatMap_map]
      intro entry hentry
      obtain ⟨piece, hpiece, rfl⟩ := List.mem_map.1 hentry
      exact semicolon_not_mem_wrap h (Target.not_mem_piece hpiece)
    · rw [List.forall₂_map_right_iff, List.forall₂_same]
      intro piece hpiece
      obtain ⟨base, hbase⟩ := Expression.exists_read? piece (hclosed piece hpiece)
      refine ⟨base, mask.tree base, hbase, read?_wrap h hbase, ?_⟩
      intro Value pixel n hn
      rw [eval_tree, hn, keepsNumber_number]

/-- Keeps the arable classes, and writes 0 everywhere else. -/
def arable : Mask where
  selection := .ofGroup .arable
  policy := .whitelist
  fill := .int 0

theorem arable_writable : arable.Writable where
  selects := by decide
  named := by decide +kernel
  plain := by
    show ∀ c ∈ ['S', 'C', 'L'], c ∉ reserved
    simp [reserved]
  finite := by decide

/-- Two pieces, the first one a call itself. -/
def twoPieces : Target := .expression "where(SCL==5,b1,b2) ; (b1-b2)/(b1+b2)"

/-- A pixel of the number 255 has no class, so both entries give the fill. -/
theorem two_pieces_give_the_fill_without_a_class :
    ∃ text entries, arable.compile twoPieces = .ok (.expression text) ∧
      text.toList.splitOn ';' = entries ++ [[]] ∧ entries.length = 2 ∧
      ∀ entry ∈ entries, ∃ whole, Expression.read? entry = some whole ∧
        ∀ (Value : Type) (pixel : Pixel Value), pixel.band "SCL".toList = .number 255 →
          whole.eval pixel = pixel.value ['0'] := by
  have hpieces : twoPieces.pieces =
      ["where(SCL==5,b1,b2)".toList, "(b1-b2)/(b1+b2)".toList] := by decide +kernel
  have htarget : twoPieces.isAssets = false := rfl
  have hclosed : ∀ piece ∈ twoPieces.pieces, Expression.closes 0 piece = true := by
    decide +kernel
  obtain ⟨text, entries, htext, hentries, hread⟩ :=
    (compiled_text_means_the_mask arable_writable htarget hclosed).2 (by rw [hpieces]; simp)
  refine ⟨text, entries, htext, hentries, ?_, ?_⟩
  · rw [← hread.length_eq, hpieces]
    rfl
  · intro entry hentry
    obtain ⟨i, hi, rfl⟩ := List.mem_iff_getElem.1 hentry
    obtain ⟨base, whole, -, hwhole, heval⟩ := hread.get (by rw [hread.length_eq]; exact hi) hi
    refine ⟨whole, hwhole, ?_⟩
    intro Value pixel hpixel
    rw [heval Value pixel 255 hpixel, if_neg (by decide)]
    rfl

/-- A lone semicolon is a target without pieces. Nothing in it is written
wrongly, and it is refused. -/
theorem a_lone_semicolon_is_refused :
    arable.Writable ∧
      (∀ piece ∈ (Target.expression ";").pieces, Expression.closes 0 piece = true) ∧
      ¬ ∃ text, arable.compile (.expression ";") = .ok (.expression text) := by
  have hcompile : arable.compile (.expression ";") = .error .nothingToMask := by decide +kernel
  refine ⟨arable_writable, by decide +kernel, ?_⟩
  rintro ⟨text, htext⟩
  rw [hcompile] at htext
  contradiction

end Mask

end SceneMask
