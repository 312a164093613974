-- The pieces of targets. A text falls into pieces at its semicolons, and a
-- batch of texts into the pieces of all its texts. So it makes no difference
-- whether texts are sent as a batch or joined with semicolons, and each piece
-- is masked as if it were sent alone: one call of `where` for each selected
-- class stands around it.
import Mathlib
import SceneMask.Proofs.Masking

namespace SceneMask

/-! ## Pieces -/

/-- A text that makes one piece: it is not empty, no blanks stand at its
ends, and no semicolon divides it. -/
structure IsPiece (cs : List Char) : Prop where
  nonempty : cs ≠ []
  trimmed : trimBlanks cs = cs
  undivided : ';' ∉ cs

namespace Mask

theorem isPiece_of_mem_pieces {text : String} {piece : List Char} (h : piece ∈ pieces text) :
    IsPiece piece := by
  obtain ⟨hmem, hnonempty⟩ := List.mem_filter.1 h
  obtain ⟨part, hpart, rfl⟩ := List.mem_map.1 hmem
  refine ⟨by simpa using hnonempty, trimBlanks_trimBlanks part, ?_⟩
  intro hsemicolon
  exact not_mem_of_mem_splitOn hpart (mem_of_mem_trimBlanks hsemicolon)

/-- The pieces are the trimmed parts between semicolons that are not empty. -/
theorem pieces_eq (text : String) :
    pieces text = ((text.toList.splitOn ';').map trimBlanks).filter fun piece => piece ≠ [] := by
  unfold pieces
  apply List.filter_congr
  intro piece _
  cases piece <;> simp

theorem pieces_append_semicolon (first second : String) :
    pieces (first ++ ";" ++ second) = pieces first ++ pieces second := by
  have htext : (first ++ ";" ++ second).toList = first.toList ++ ';' :: second.toList := by
    rw [String.toList_append, String.toList_append, List.append_assoc]
    rfl
  unfold pieces
  rw [htext, List.splitOn_append_cons_self, List.map_append, List.filter_append]

/-- Joining texts with semicolons changes none of their pieces. -/
theorem pieces_intercalate (texts : List String) :
    pieces (";".intercalate texts) = texts.flatMap pieces := by
  induction texts with
  | nil => rfl
  | cons text rest ih =>
    cases rest with
    | nil => simp
    | cons next rest =>
      rw [String.intercalate_cons_cons, pieces_append_semicolon, ih]
      rfl

/-- A text without semicolons is one piece, unless it is blank. -/
theorem pieces_of_single {text : String} (hsingle : ';' ∉ text.toList)
    (hblank : trimBlanks text.toList ≠ []) : pieces text = [trimBlanks text.toList] := by
  unfold pieces
  rw [List.splitOn_eq_singleton hsingle, List.map_singleton, List.filter_singleton,
    List.isEmpty_eq_false_iff.2 hblank]
  rfl

theorem pieces_ofList {cs : List Char} (h : IsPiece cs) : pieces (String.ofList cs) = [cs] := by
  have htext : (String.ofList cs).toList = cs := String.toList_ofList
  have hsingle : ';' ∉ (String.ofList cs).toList := by
    rw [htext]
    exact h.undivided
  have hblank : trimBlanks (String.ofList cs).toList ≠ [] := by
    rw [htext, h.trimmed]
    exact h.nonempty
  rw [pieces_of_single hsingle hblank, htext, h.trimmed]

/-- Pieces that each end with a semicolon are found again, and nothing
else: the last semicolon starts no piece of its own. -/
theorem pieces_terminated {entries : List (List Char)} (h : ∀ entry ∈ entries, IsPiece entry) :
    pieces (String.ofList (entries.flatMap fun entry => entry ++ [';'])) = entries := by
  have htrim : entries.map trimBlanks = entries := by
    rw [List.map_congr_left fun entry hentry => (h entry hentry).trimmed, List.map_id']
  have hkeep : entries.filter (fun entry => !entry.isEmpty) = entries := by
    rw [List.filter_eq_self]
    intro entry hentry
    simpa using (h entry hentry).nonempty
  unfold pieces
  rw [String.toList_ofList, splitOn_flatMap_append fun entry hentry => (h entry hentry).undivided,
    List.map_append, List.filter_append, htrim, hkeep]
  exact List.append_nil _

/-! ## Texts of masks -/

/-- The text of a chain of tests for some classes. Each class is compared
with the band in a call of its own: where the class is found one text
stands, and the tests for the other classes are the rest of the call. After
the last of them stands the other text. -/
inductive ChainText (band matched unmatched : List Char) :
    List SceneClass → List Char → Prop
  | last : ChainText band matched unmatched [] unmatched
  | test {c : SceneClass} {rest : List SceneClass} {text : List Char}
      (h : ChainText band matched unmatched rest text) :
      ChainText band matched unmatched (c :: rest)
        ("where(".toList ++ band ++ "==".toList ++ digits c.code ++ ",".toList ++ matched
          ++ ",".toList ++ text ++ ")".toList)

/-- The text of a piece under a mask. A whitelist has the piece in all tests
for its classes and the fill behind them, and a blacklist the other way
round. -/
inductive Covers (mask : Mask) (piece text : List Char) : Prop
  | whitelist (hpolicy : mask.policy = .whitelist)
      (h : ChainText mask.classBand.toList piece mask.fill.chars mask.selection.classes text)
  | blacklist (hpolicy : mask.policy = .blacklist)
      (h : ChainText mask.classBand.toList mask.fill.chars piece mask.selection.classes text)

theorem chainText_branches (band matched unmatched : List Char) (classes : List SceneClass) :
    ChainText band matched unmatched classes
      (classes.foldr (fun c rest => branch band matched rest c) unmatched) := by
  induction classes with
  | nil => exact .last
  | cons c rest ih => exact .test ih

theorem covers_wrap (mask : Mask) (piece : List Char) : mask.Covers piece (mask.wrap piece) := by
  unfold wrap
  cases hpolicy : mask.policy with
  | whitelist => exact .whitelist hpolicy (chainText_branches _ _ _ _)
  | blacklist => exact .blacklist hpolicy (chainText_branches _ _ _ _)

/-! ## Compilation -/

section Compile

variable {mask : Mask} (hselects : mask.selection.isEmpty = false)

include hselects

/-- What a compiled target is, and when there is one. -/
theorem compile_eq_ok_iff {target result : Target} :
    mask.compile target = .ok result ↔
      (trim mask.classBand).isEmpty = false ∧ mask.fill.isFinite = true ∧
        target.pieces ≠ [] ∧ result = .expression (mask.wrapAll target.pieces) := by
  cases htarget : target.isAssets with
  | true =>
    cases target with
    | assets names =>
      unfold compile
      rw [hselects]
      split_ifs <;> simp_all [Target.pieces]
    | expression text => contradiction
    | expressions texts => contradiction
  | false =>
    rw [compile_of_pieces hselects htarget]
    cases (trim mask.classBand).isEmpty with
    | true => simp
    | false =>
      cases mask.fill.isFinite with
      | false => simp
      | true => cases target.pieces <;> simp [compilePieces, eq_comm]

/-- A piece that is sent alone is masked, and ends with a semicolon. -/
theorem compile_ofList (hnamed : (trim mask.classBand).isEmpty = false)
    (hfinite : mask.fill.isFinite = true) {piece : List Char} (h : IsPiece piece) :
    mask.compile (.expression (String.ofList piece)) =
      .ok (.expression (String.ofList (mask.wrap piece ++ [';']))) := by
  rw [compile_eq_ok_iff hselects, Target.pieces, pieces_ofList h]
  refine ⟨hnamed, hfinite, List.cons_ne_nil _ _, ?_⟩
  simp [wrapAll]

end Compile

/-! ## The law -/

/-- A batch of texts and the texts joined with semicolons are one request:
both fail for the same cause, or their queries are equal. Under a mask with
some classes the result is what the pieces of the texts become when each is
sent alone: the tests of the mask around the piece and a semicolon, in the
order of the texts and of the pieces in them. -/
theorem a_batch_is_its_joined_text (mask : Mask) (texts : List String) :
    (mask.compile (.expressions texts)).map Target.query =
        (mask.compile (.expression (";".intercalate texts))).map Target.query ∧
      (mask.selection.isEmpty = false → ∀ result,
        mask.compile (.expressions texts) = .ok result →
        mask.compile (.expression (";".intercalate texts)) = .ok result ∧
        ∃ entries : List (List Char),
          result = .expression (String.ofList entries.flatten) ∧
          List.Forall₂ (fun piece entry =>
              (∃ masked, mask.Covers piece masked ∧ entry = masked ++ [';']) ∧
              mask.compile (.expression (String.ofList piece)) =
                .ok (.expression (String.ofList entry)))
            (texts.flatMap fun text =>
              ((text.toList.splitOn ';').map trimBlanks).filter fun piece => piece ≠ [])
            entries) := by
  have hsame : mask.selection.isEmpty = false →
      mask.compile (.expression (";".intercalate texts)) = mask.compile (.expressions texts) := by
    intro hselects
    rw [compile_of_pieces hselects rfl, compile_of_pieces hselects rfl, Target.pieces,
      pieces_intercalate, Target.pieces]
  refine ⟨?_, ?_⟩
  · cases hselects : mask.selection.isEmpty with
    | true =>
      unfold compile
      rw [hselects]
      rfl
    | false => rw [hsame hselects]
  · intro hselects result hresult
    rw [hsame hselects]
    refine ⟨hresult, ?_⟩
    obtain ⟨hnamed, hfinite, -, rfl⟩ := (compile_eq_ok_iff hselects).1 hresult
    simp only [← pieces_eq]
    refine ⟨(texts.flatMap pieces).map fun piece => mask.wrap piece ++ [';'], ?_, ?_⟩
    · rw [wrapAll, List.flatMap_def]
      rfl
    · rw [List.forall₂_map_right_iff, List.forall₂_same]
      intro piece hpiece
      obtain ⟨text, -, hmem⟩ := List.mem_flatMap.1 hpiece
      exact ⟨⟨mask.wrap piece, mask.covers_wrap piece, rfl⟩,
        compile_ofList hselects hnamed hfinite (isPiece_of_mem_pieces hmem)⟩

/-- Texts with a semicolon at the end, in the middle, and with blanks only. -/
def looseTexts : List String := ["b1;", "\u2003", " b2 ;b3"]

theorem loose_texts_have_three_entries :
    arable.selection.isEmpty = false ∧ ∃ entries : List (List Char),
      arable.compile (.expressions looseTexts) =
        .ok (.expression (String.ofList entries.flatten)) ∧
      arable.compile (.expression "b1;;\u2003; b2 ;b3") =
        .ok (.expression (String.ofList entries.flatten)) ∧
      entries.length = 3 := by
  have hselects : arable.selection.isEmpty = false := by decide
  have hnamed : (trim arable.classBand).isEmpty = false := by decide +kernel
  have hcompile : arable.compile (.expressions looseTexts) =
      .ok (.expression (arable.wrapAll (Target.expressions looseTexts).pieces)) := by
    rw [compile_eq_ok_iff hselects]
    exact ⟨hnamed, rfl, by decide +kernel, rfl⟩
  obtain ⟨hjoined, entries, hentries, hpieces⟩ :=
    (a_batch_is_its_joined_text arable looseTexts).2 hselects _ hcompile
  have hlength := hpieces.length_eq
  rw [hentries] at hcompile hjoined
  refine ⟨hselects, entries, hcompile, ?_, ?_⟩
  · have htext : ";".intercalate looseTexts = "b1;;\u2003; b2 ;b3" := by decide +kernel
    rw [← htext]
    exact hjoined
  · rw [← hlength]
    decide +kernel

end Mask

end SceneMask
