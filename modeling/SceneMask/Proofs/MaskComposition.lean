-- Masks over masks. What a mask writes is a target again, and a second mask
-- finds the entries of the first one as its pieces, each as a whole. A pixel
-- then has the value of a piece just if both masks keep it.
import Mathlib
import SceneMask.Proofs.Pieces

namespace SceneMask

namespace Mask

/-! ## Entries as pieces -/

section Entries

variable {mask : Mask}

/-- A piece under a mask with some classes is one call. -/
theorem exists_callText_wrap (hselects : mask.selection.isEmpty = false) (piece : List Char) :
    ∃ condition matched unmatched,
      mask.wrap piece = Expression.callText condition matched unmatched := by
  unfold Selection.isEmpty at hselects
  unfold wrap
  cases hclasses : mask.selection.classes with
  | nil => simp [hclasses] at hselects
  | cons c rest => exact ⟨_, _, _, branch_eq_callText _ _ _ c⟩

/-- A call begins and ends with a character of its own. -/
theorem trimBlanks_callText (condition matched unmatched : List Char) :
    trimBlanks (Expression.callText condition matched unmatched) =
      Expression.callText condition matched unmatched := by
  have hends : Expression.callText condition matched unmatched =
      'w' :: (("here(".toList ++ condition ++ ',' :: matched ++ ',' :: unmatched) ++ [')']) := by
    unfold Expression.callText
    rw [show "where(".toList = 'w' :: "here(".toList from rfl]
    simp only [List.append_assoc, List.cons_append]
  rw [hends]
  exact trimBlanks_of_ends (by decide) (by decide) _

theorem isPiece_wrap (hselects : mask.selection.isEmpty = false)
    (hband : ';' ∉ mask.classBand.toList) (hfinite : mask.fill.isFinite = true)
    {piece : List Char} (hpiece : ';' ∉ piece) : IsPiece (mask.wrap piece) := by
  obtain ⟨condition, matched, unmatched, hcall⟩ := exists_callText_wrap hselects piece
  refine ⟨?_, ?_, undivided_wrap hband hfinite hpiece⟩
  · rw [hcall]
    exact List.cons_ne_nil _ _
  · rw [hcall, trimBlanks_callText]

/-- The entries that a mask writes are the pieces of its text. -/
theorem pieces_wrapAll (hselects : mask.selection.isEmpty = false)
    (hband : ';' ∉ mask.classBand.toList) (hfinite : mask.fill.isFinite = true)
    {pieces : List (List Char)} (h : ∀ piece ∈ pieces, ';' ∉ piece) :
    Mask.pieces (mask.wrapAll pieces) = pieces.map mask.wrap := by
  have hentries : ∀ entry ∈ pieces.map mask.wrap, IsPiece entry := by
    intro entry hentry
    obtain ⟨piece, hpiece, rfl⟩ := List.mem_map.1 hentry
    exact isPiece_wrap hselects hband hfinite (h piece hpiece)
  rw [← pieces_terminated hentries, List.flatMap_map]
  rfl

end Entries

/-! ## Values under two masks -/

/-- The second mask decides first. -/
theorem eval_tree_tree {Value : Type} (first second : Mask) (base : Expression)
    (pixel : Pixel Value) :
    (second.tree (first.tree base)).eval pixel =
      if second.keepsNumber (pixel.band second.classBand.toList) then
        if first.keepsNumber (pixel.band first.classBand.toList) then base.eval pixel
        else pixel.value first.fill.chars
      else pixel.value second.fill.chars := by
  rw [eval_tree, eval_tree]

/-! ## The law -/

/-- What one mask has written can be put under another one. The pieces are
then the entries of the first mask, none of them divided and none added by
the last semicolon, and the text of the second mask has each of them under
its own tests, in order and with a semicolon at its end. If the names of both
bands stand apart from the grammar, the text splits into these entries, and
an entry whose piece is balanced, without a comma outside of parentheses, has
at every pixel the value of the piece if both masks keep the pixel, the second
fill if the second mask discards it, and the first fill if only the first one
does. -/
theorem masks_compose {first second : Mask} {target masked : Target}
    (hfirst : first.selection.isEmpty = false) (hband : ';' ∉ first.classBand.toList)
    (hcompile : first.compile target = .ok masked)
    (hsecond : second.selection.isEmpty = false)
    (hnamed : (trim second.classBand).isEmpty = false) (hfinite : second.fill.isFinite = true) :
    masked.pieces = target.pieces.map first.wrap ∧
      ∃ text, second.compile masked = .ok (.expression text) ∧
        text.toList =
          (target.pieces.flatMap fun piece => second.wrap (first.wrap piece) ++ [';']) ∧
        ((∀ c ∈ first.classBand.toList, c ∉ reserved) →
          (∀ c ∈ second.classBand.toList, c ∉ reserved) →
          ∃ entries, text.toList.splitOn ';' = entries ++ [[]] ∧
            List.Forall₂ (fun piece entry => Expression.closes 0 piece = true →
              ∃ base whole, Expression.read? piece = some base ∧
                Expression.read? entry = some whole ∧
                ∀ (Value : Type) (pixel : Pixel Value), whole.eval pixel =
                  if second.keepsNumber (pixel.band second.classBand.toList) then
                    if first.keepsNumber (pixel.band first.classBand.toList)
                    then base.eval pixel else pixel.value first.fill.chars
                  else pixel.value second.fill.chars)
              target.pieces entries) := by
  obtain ⟨hnamed', hfinite', hpieces, rfl⟩ := (compile_eq_ok_iff hfirst).1 hcompile
  have hundivided : ∀ piece ∈ target.pieces, ';' ∉ piece := fun _ => Target.not_mem_piece
  have hmasked : (Target.expression (first.wrapAll target.pieces)).pieces =
      target.pieces.map first.wrap := pieces_wrapAll hfirst hband hfinite' hundivided
  have htext : (second.wrapAll (target.pieces.map first.wrap)).toList =
      target.pieces.flatMap fun piece => second.wrap (first.wrap piece) ++ [';'] := by
    rw [wrapAll, String.toList_ofList, List.flatMap_map]
  refine ⟨hmasked, second.wrapAll (target.pieces.map first.wrap), ?_, htext, ?_⟩
  · rw [compile_eq_ok_iff hsecond, hmasked]
    exact ⟨hnamed, hfinite, by simpa using hpieces, rfl⟩
  · intro hplain hplain'
    have hwritable : first.Writable := ⟨hfirst, hnamed', hplain, hfinite'⟩
    have hwritable' : second.Writable := ⟨hsecond, hnamed, hplain', hfinite⟩
    refine ⟨target.pieces.map fun piece => second.wrap (first.wrap piece), ?_, ?_⟩
    · rw [htext, ← splitOn_flatMap_append, List.flatMap_map]
      intro entry hentry
      obtain ⟨piece, hpiece, rfl⟩ := List.mem_map.1 hentry
      apply semicolon_not_mem_wrap hwritable'
      exact semicolon_not_mem_wrap hwritable (hundivided piece hpiece)
    · rw [List.forall₂_map_right_iff, List.forall₂_same]
      intro piece _ hclosed
      obtain ⟨base, hbase⟩ := Expression.exists_read? piece hclosed
      exact ⟨base, second.tree (first.tree base), hbase,
        read?_wrap hwritable' (read?_wrap hwritable hbase),
        fun _ pixel => eval_tree_tree first second base pixel⟩

/-- Discards the clouds of another band, and writes -1 there. -/
def cloudless : Mask where
  selection := .ofGroup .clouds
  policy := .blacklist
  fill := .int (-1)
  classBand := "QA"

/-- An arable pixel under a cloud has the fill of the second mask in both
entries. -/
theorem two_pieces_under_two_masks :
    ∃ masked text entries, arable.compile twoPieces = .ok masked ∧
      cloudless.compile masked = .ok (.expression text) ∧
      text.toList.splitOn ';' = entries ++ [[]] ∧ entries.length = 2 ∧
      ∀ entry ∈ entries, ∃ whole, Expression.read? entry = some whole ∧
        ∀ (Value : Type) (pixel : Pixel Value), pixel.band "SCL".toList = .number 4 →
          pixel.band "QA".toList = .number 9 → whole.eval pixel = pixel.value ['-', '1'] := by
  have hpieces : twoPieces.pieces =
      ["where(SCL==5,b1,b2)".toList, "(b1-b2)/(b1+b2)".toList] := by decide +kernel
  have hclosed : ∀ piece ∈ twoPieces.pieces, Expression.closes 0 piece = true := by
    decide +kernel
  have hnonempty : twoPieces.pieces ≠ [] := by
    rw [hpieces]
    exact List.cons_ne_nil _ _
  obtain ⟨masked, hcompile⟩ : ∃ masked, arable.compile twoPieces = .ok masked :=
    ⟨_, (compile_eq_ok_iff arable_writable.selects).2
      ⟨arable_writable.named, arable_writable.finite, hnonempty, rfl⟩⟩
  have hselects : cloudless.selection.isEmpty = false := by decide
  have hnamed : (trim cloudless.classBand).isEmpty = false := by decide +kernel
  obtain ⟨-, text, htext, -, hread⟩ :=
    masks_compose arable_writable.selects (by decide) hcompile hselects hnamed rfl
  obtain ⟨entries, hentries, hvalues⟩ := hread arable_writable.plain
    (show ∀ c ∈ ['Q', 'A'], c ∉ reserved by simp [reserved])
  refine ⟨masked, text, entries, hcompile, htext, hentries, ?_, ?_⟩
  · rw [← hvalues.length_eq, hpieces]
    rfl
  · intro entry hentry
    obtain ⟨i, hi, rfl⟩ := List.mem_iff_getElem.1 hentry
    have hi' : i < twoPieces.pieces.length := by rwa [hvalues.length_eq]
    obtain ⟨base, whole, -, hwhole, heval⟩ :=
      hvalues.get hi' hi (hclosed _ (List.getElem_mem hi'))
    refine ⟨whole, hwhole, ?_⟩
    intro Value pixel _ hcloud
    have hdiscards : cloudless.keepsNumber (pixel.band cloudless.classBand.toList) = false := by
      show cloudless.keepsNumber (pixel.band "QA".toList) = false
      rw [hcloud]
      decide +kernel
    rw [heval, hdiscards]
    rfl

end Mask

end SceneMask
