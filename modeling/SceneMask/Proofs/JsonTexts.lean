-- JSON texts read back. The text of a value, with line breaks or without,
-- is read as the document that has the same shape, and the document has the
-- value that was written. Real numbers read back only up to rounding, so
-- that they do is asked for; whole numbers, strings and keys always do.
import Mathlib
import SceneMask.Json.Document
import SceneMask.Proofs.JsonNumerals

namespace SceneMask

/-! ## Strings -/

namespace Document

/-- A piece that stands for a character, itself or by its code. -/
inductive Spells : Piece → Char → Prop
  | char (c : Char) : Spells (.char c) c
  | control {c : Char} (h : c.toNat < 0x20) : Spells (.unit c.toNat) c

theorem codeUnit?_hexPair : ∀ n < 0x20,
    codeUnit? '0' '0' (Nat.digitChar (n / 16)) (Nat.digitChar (n % 16)) = some n := by decide

/-- An escaped character is read as one piece. -/
theorem scanPieces?_escapeChar (c : Char) : ∃ piece, Spells piece c ∧ ∀ done rest,
    scanPieces? done (Json.escapeChar c ++ rest) = scanPieces? (piece :: done) rest := by
  unfold Json.escapeChar
  split_ifs with hquote hbackslash hbackspace hfeed hline hreturn htab hcontrol
  -- The characters with an escape of their own.
  iterate 7
    · subst c
      exact ⟨_, .char _, fun _ _ => rfl⟩
  · refine ⟨_, .control hcontrol, fun done rest => ?_⟩
    simp [Json.hexPair, scanPieces?, codeUnit?_hexPair _ hcontrol]
  · refine ⟨_, .char c, fun done rest => ?_⟩
    rw [List.cons_append, List.nil_append, scanPieces?.eq_def]
    split <;> simp_all

theorem scanPieces?_escaped (cs : List Char) (done : List Piece) (rest : List Char) :
    ∃ pieces, List.Forall₂ Spells pieces cs ∧
      scanPieces? done (cs.flatMap Json.escapeChar ++ '"' :: rest) =
        some (done.reverse ++ pieces, rest) := by
  induction cs generalizing done with
  | nil => exact ⟨[], .nil, by simp [scanPieces?]⟩
  | cons c cs ih =>
    obtain ⟨piece, hpiece, hscan⟩ := scanPieces?_escapeChar c
    obtain ⟨pieces, hpieces, hrest⟩ := ih (piece :: done)
    refine ⟨piece :: pieces, .cons hpiece hpieces, ?_⟩
    rw [List.flatMap_cons, List.append_assoc, hscan, hrest]
    simp

theorem joinPieces?_control {code : Nat} (h : code < 0x20) (rest : List Piece) :
    joinPieces? (.unit code :: rest) = (joinPieces? rest).map (Char.ofNat code :: ·) := by
  have hhigh : isHighSurrogate code = false := by
    simp only [isHighSurrogate, Bool.and_eq_false_iff, decide_eq_false_iff_not]
    omega
  have hlow : isLowSurrogate code = false := by
    simp only [isLowSurrogate, Bool.and_eq_false_iff, decide_eq_false_iff_not]
    omega
  rcases rest with _ | ⟨_ | _, rest⟩ <;> simp [joinPieces?, hhigh, hlow]

theorem joinPieces?_of_spells {pieces : List Piece} {cs : List Char}
    (h : List.Forall₂ Spells pieces cs) : joinPieces? pieces = some cs := by
  induction h with
  | nil => rfl
  | cons hpiece _ ih =>
    cases hpiece with
    | char c => rw [joinPieces?, ih]; rfl
    | control hcontrol =>
      rw [joinPieces?_control hcontrol, ih, Char.ofNat_toNat]
      rfl

/-- A string is read back from its escapes. -/
theorem scanString?_escaped (s : String) (rest : List Char) :
    scanString? (s.toList.flatMap Json.escapeChar ++ '"' :: rest) = some (some s, rest) := by
  obtain ⟨pieces, hpieces, hscan⟩ := scanPieces?_escaped s.toList [] rest
  rw [scanString?, hscan]
  simp [joinPieces?_of_spells hpieces, String.ofList_toList]

/-! ## Blanks -/

def Blank (cs : List Char) : Prop := ∀ c ∈ cs, isSpace c = true

theorem blank_lineBreak (layout : Json.Layout) : Blank layout.lineBreak := by
  intro c hc
  cases layout with
  | compact => cases hc
  | indented depth =>
    rcases List.mem_cons.1 hc with rfl | hc
    · decide
    · rw [List.eq_of_mem_replicate hc]
      decide

section Skip

variable {before : List Char} (h : Blank before) (rest : List Char)

include h

theorem skipSpace_blank : skipSpace (before ++ rest) = skipSpace rest :=
  List.dropWhile_append_of_pos h

theorem scanValue?_blank (bound : Nat) :
    scanValue? bound (before ++ rest) = scanValue? bound rest := by
  cases bound with
  | zero => simp only [scanValue?]
  | succ bound => simp only [scanValue?, skipSpace_blank h]

theorem scanItems?_blank (bound : Nat) (done : List Document) :
    scanItems? bound done (before ++ rest) = scanItems? bound done rest := by
  cases bound with
  | zero => simp only [scanItems?]
  | succ bound => simp only [scanItems?, scanValue?_blank h]

theorem scanEntries?_blank (bound : Nat) (done : List (Option String × Document)) :
    scanEntries? bound done (before ++ rest) = scanEntries? bound done rest := by
  cases bound with
  | zero => simp only [scanEntries?]
  | succ bound => simp only [scanEntries?, skipSpace_blank h]

/-- A blank ends a numeral. -/
theorem ends_blank (hrest : Numeral.Ends rest) : Numeral.Ends (before ++ rest) := by
  cases before with
  | nil => exact hrest
  | cons c cs =>
    refine Numeral.ends_cons _ ?_
    have hc := h c List.mem_cons_self
    simp only [isSpace, Bool.or_eq_true, decide_eq_true_eq] at hc
    rcases hc with ((rfl | rfl) | rfl) | rfl <;> decide

end Skip

end Document

/-! ## The document of a value -/

namespace Json

mutual

def document : Json → Document
  | null => .null
  | bool b => .bool b
  | number n => .number (some n)
  | string s => .string (some s)
  | array items => .array (documents items)
  | object entries => .object (entryDocuments entries)

def documents : List Json → List Document
  | [] => []
  | item :: rest => item.document :: documents rest

def entryDocuments : List (String × Json) → List (Option String × Document)
  | [] => []
  | (key, item) :: rest => (some key, item.document) :: entryDocuments rest

end

/-- The values that texts stand for, up to some depth: their real numbers
read back, and the entries of their objects are in order. -/
inductive Readable : Nat → Json → Prop
  | null {depth : Nat} : Readable depth null
  | bool {depth : Nat} (b : Bool) : Readable depth (bool b)
  | number {depth : Nat} {n : JsonNumber} (h : n.ReadsBack) : Readable depth (number n)
  | string {depth : Nat} (s : String) : Readable depth (string s)
  | array {depth : Nat} {items : List Json} (h : ∀ item ∈ items, Readable depth item) :
      Readable (depth + 1) (array items)
  | object {depth : Nat} {entries : List (String × Json)}
      (sorted : entries.Pairwise fun a b => a.1 < b.1)
      (h : ∀ entry ∈ entries, Readable depth entry.2) : Readable (depth + 1) (object entries)

end Json

/-! ## Values -/

namespace Document

open Json (Layout restText restEntriesText stringText documents entryDocuments)

/-- A text is read as a document, whatever follows, unless that goes on with
a numeral. It starts with the value, and not with the end of an array. -/
structure Reads (text : List Char) (document : Document) : Prop where
  front : ∃ c rest, text = c :: rest ∧ isSpace c = false ∧ c ≠ ']'
  scan : ∀ bound rest, text.length ≤ bound → Numeral.Ends rest →
    scanValue? bound (text ++ rest) = some (document, rest)

theorem skipSpace_cons {c : Char} (h : isSpace c = false) (rest : List Char) :
    skipSpace (c :: rest) = c :: rest := by
  simp [skipSpace, h]

/-- The first character settles what kind of value a text has. -/
theorem reads_cons {c : Char} {cs : List Char} {document : Document}
    (hfront : isSpace c = false ∧ c ≠ ']')
    (hscan : ∀ bound rest, cs.length ≤ bound → Numeral.Ends rest →
      scanValue? (bound + 1) (c :: (cs ++ rest)) = some (document, rest)) :
    Reads (c :: cs) document := by
  refine ⟨⟨c, cs, rfl, hfront⟩, ?_⟩
  intro bound rest hbound hends
  cases bound with
  | zero => cases hbound
  | succ bound => exact hscan bound rest (Nat.le_of_succ_le_succ hbound) hends

theorem reads_null : Reads "null".toList null := reads_cons (by decide) fun _ _ _ _ => rfl

theorem reads_bool (b : Bool) :
    Reads (if b then "true".toList else "false".toList) (bool b) := by
  cases b with
  | true => exact reads_cons (by decide) fun _ _ _ _ => rfl
  | false => exact reads_cons (by decide) fun _ _ _ _ => rfl

theorem numeral_front {c : Char} (h : c = '-' ∨ c.isDigit = true) :
    isSpace c = false ∧ c ≠ ']' := by
  constructor
  · rw [Bool.eq_false_iff]
    intro hspace
    simp only [isSpace, Bool.or_eq_true, decide_eq_true_eq] at hspace
    rcases hspace with ((rfl | rfl) | rfl) | rfl <;> exact absurd h (by decide)
  · rintro rfl
    exact absurd h (by decide)

theorem scanValue?_numeral {c : Char} (h : c = '-' ∨ c.isDigit = true) (bound : Nat)
    (cs : List Char) :
    scanValue? (bound + 1) (c :: cs) =
      (Numeral.scan? (c :: cs)).map fun (numeral, rest) => (number numeral.value?, rest) := by
  simp only [scanValue?, skipSpace_cons (numeral_front h).1]
  split
  all_goals first
    | rfl
    | rename_i heq
      cases heq
      exact absurd h (by decide)

theorem reads_number {n : JsonNumber} (h : n.ReadsBack) :
    Reads (Json.numberText n) (number (some n)) := by
  obtain ⟨numeral, hscan, hvalue⟩ := Numeral.read?_eq_some_iff.1 h
  obtain ⟨c, more, htext, hc⟩ := Numeral.scan?_eq_some hscan
  rw [htext]
  apply reads_cons (numeral_front hc)
  intro bound rest _ hends
  have happend := Numeral.scan?_append hends hscan
  rw [htext, List.cons_append] at happend
  rw [scanValue?_numeral hc, happend, ← hvalue]
  rfl

theorem reads_string (s : String) : Reads (stringText s) (string (some s)) := by
  apply reads_cons (by decide)
  intro bound rest _ _
  have hscan := scanString?_escaped s rest
  simp [scanValue?, skipSpace_cons, isSpace, hscan]

/-! ## Arrays -/

/-- The items of an array, each after the other, up to the bracket. -/
theorem scanItems?_texts (layout : Layout) {item : Json} {items : List Json} {after : List Char}
    (hafter : Blank after) (h : ∀ item' ∈ item :: items, Reads (item'.text layout) item'.document)
    {bound : Nat} (hbound : (item.text layout ++ restText layout items).length < bound)
    (done : List Document) (rest : List Char) :
    scanItems? bound done
        (item.text layout ++ (restText layout items ++ (after ++ ']' :: rest))) =
      some (array (done.reverse ++ documents (item :: items)), rest) := by
  induction items generalizing item bound done with
  | nil =>
    cases bound with
    | zero => cases hbound
    | succ bound =>
      have hends := ends_blank hafter _ (Numeral.ends_cons (c := ']') rest (by decide))
      have hscan := (h item List.mem_cons_self).scan bound _ (by simp_all [restText]) hends
      simp [scanItems?, restText, hscan, skipSpace_blank hafter, skipSpace_cons, isSpace, documents]
  | cons next items ih =>
    cases bound with
    | zero => cases hbound
    | succ bound =>
      simp only [restText, List.length_append, List.length_cons] at hbound
      have hscan := (h item List.mem_cons_self).scan bound
        (',' :: (layout.lineBreak ++ (next.text layout ++
          (restText layout items ++ (after ++ ']' :: rest)))))
        (by omega) (Numeral.ends_cons _ (by decide))
      have hmore : (next.text layout ++ restText layout items).length < bound := by
        rw [List.length_append]
        omega
      have hrest := ih (fun item' hmem => h item' (List.mem_cons_of_mem _ hmem)) hmore
        (item.document :: done)
      simp [scanItems?, restText, hscan, skipSpace_cons, isSpace,
        scanItems?_blank (blank_lineBreak layout), hrest, documents]

/-- An array that is not empty is read item by item. -/
theorem scanValue?_array {before : List Char} (hbefore : Blank before) {text : List Char}
    {document : Document} (h : Reads text document) (bound : Nat) (rest : List Char) :
    scanValue? (bound + 1) ('[' :: (before ++ (text ++ rest))) =
      scanItems? bound [] (text ++ rest) := by
  obtain ⟨c, more, rfl, hspace, hc⟩ := h.front
  have hskip : skipSpace (before ++ (c :: more ++ rest)) = c :: (more ++ rest) := by
    rw [skipSpace_blank hbefore, List.cons_append, skipSpace_cons hspace]
  have hopen : isSpace '[' = false := by decide
  simp only [scanValue?, skipSpace_cons hopen, hskip]
  split
  · rename_i heq
    cases heq
    exact absurd rfl hc
  · rfl

theorem reads_array (layout : Layout) {items : List Json}
    (h : ∀ item ∈ items, Reads (item.text layout.deeper) item.document) :
    Reads ((Json.array items).text layout) (array (documents items)) := by
  cases items with
  | nil =>
    rw [Json.text]
    apply reads_cons (by decide)
    intro bound rest _ _
    simp [scanValue?, skipSpace_cons, isSpace, documents]
  | cons item items =>
    simp only [Json.text, List.cons_append]
    apply reads_cons (by decide)
    intro bound rest hbound _
    have hmore : (item.text layout.deeper ++ restText layout.deeper items).length < bound := by
      simp only [List.length_append, List.length_singleton] at hbound ⊢
      omega
    have hscan := scanItems?_texts layout.deeper (blank_lineBreak layout) h hmore [] rest
    simp [scanValue?_array (blank_lineBreak _) (h item List.mem_cons_self), hscan]

/-! ## Objects -/

theorem colon_eq (layout : Layout) : ∃ blank, Blank blank ∧ layout.colon = ':' :: blank := by
  cases layout with
  | compact => exact ⟨[], nofun, rfl⟩
  | indented depth => exact ⟨[' '], by simp [Blank, isSpace], rfl⟩

/-- One entry, a key, a colon and a value, is read up to what follows it: a
comma and more entries, or the brace. -/
theorem scanEntries?_entry (layout : Layout) (key : String) {text : List Char}
    {document : Document} (h : Reads text document) {bound : Nat} (hbound : text.length ≤ bound)
    (done : List (Option String × Document)) {rest : List Char} (hends : Numeral.Ends rest) :
    (∀ more, skipSpace rest = ',' :: more →
      scanEntries? (bound + 1) done (stringText key ++ (layout.colon ++ (text ++ rest))) =
        scanEntries? bound ((some key, document) :: done) more) ∧
    ∀ more, skipSpace rest = '\x7d' :: more →
      scanEntries? (bound + 1) done (stringText key ++ (layout.colon ++ (text ++ rest))) =
        some (object (done.reverse ++ [(some key, document)]), more) := by
  obtain ⟨blank, hblank, hcolon⟩ := colon_eq layout
  have hkey := scanString?_escaped key (':' :: (blank ++ (text ++ rest)))
  have hscan := h.scan bound rest hbound hends
  constructor
  all_goals
    intro more hmore
    simp [scanEntries?, stringText, hcolon, skipSpace_cons, isSpace, hkey,
      scanValue?_blank hblank, hscan, hmore]

/-- The entries of an object, each after the other, up to the brace. -/
theorem scanEntries?_texts (layout : Layout) {key : String} {item : Json}
    {entries : List (String × Json)} {after : List Char} (hafter : Blank after)
    (h : ∀ entry ∈ (key, item) :: entries, Reads (entry.2.text layout) entry.2.document)
    {bound : Nat}
    (hbound : (item.text layout ++ restEntriesText layout entries).length < bound)
    (done : List (Option String × Document)) (rest : List Char) :
    scanEntries? bound done (stringText key ++ (layout.colon ++ (item.text layout ++
        (restEntriesText layout entries ++ (after ++ '\x7d' :: rest))))) =
      some (object (done.reverse ++ entryDocuments ((key, item) :: entries)), rest) := by
  induction entries generalizing key item bound done with
  | nil =>
    cases bound with
    | zero => cases hbound
    | succ bound =>
      have hitem : Reads (item.text layout) item.document := h _ List.mem_cons_self
      have hends := ends_blank hafter _ (Numeral.ends_cons (c := '\x7d') rest (by decide))
      simp only [restEntriesText, List.append_nil, List.nil_append] at hbound ⊢
      have hclose : skipSpace (after ++ '\x7d' :: rest) = '\x7d' :: rest := by
        rw [skipSpace_blank hafter, skipSpace_cons (by decide)]
      rw [(scanEntries?_entry layout key hitem (Nat.le_of_lt_succ hbound) done hends).2 _ hclose]
      simp [entryDocuments]
  | cons next entries ih =>
    obtain ⟨nextKey, next⟩ := next
    cases bound with
    | zero => cases hbound
    | succ bound =>
      simp only [restEntriesText, List.length_append, List.length_cons] at hbound
      have hmore : (next.text layout ++ restEntriesText layout entries).length < bound := by
        rw [List.length_append]
        omega
      have hrest := ih (fun entry hmem => h entry (List.mem_cons_of_mem _ hmem)) hmore
        ((some key, item.document) :: done)
      have hitem : Reads (item.text layout) item.document := h _ List.mem_cons_self
      have hroom : (item.text layout).length ≤ bound := by omega
      have hentry := scanEntries?_entry layout key hitem hroom done
        (Numeral.ends_cons (c := ',') (layout.lineBreak ++ (stringText nextKey ++
          (layout.colon ++ (next.text layout ++ (restEntriesText layout entries ++
            (after ++ '\x7d' :: rest)))))) (by decide))
      simp only [restEntriesText, List.cons_append, List.append_assoc]
      rw [hentry.1 _ (skipSpace_cons (by decide) _), scanEntries?_blank (blank_lineBreak layout),
        hrest]
      simp [entryDocuments]

/-- An object that is not empty is read entry by entry. -/
theorem scanValue?_object {before : List Char} (hbefore : Blank before) (key : String)
    (bound : Nat) (rest : List Char) :
    scanValue? (bound + 1) ('\x7b' :: (before ++ (stringText key ++ rest))) =
      scanEntries? bound [] (stringText key ++ rest) := by
  have hskip : skipSpace (before ++ (stringText key ++ rest)) = stringText key ++ rest := by
    rw [skipSpace_blank hbefore, stringText, List.cons_append, skipSpace_cons (by decide)]
  have hopen : isSpace '\x7b' = false := by decide
  simp only [scanValue?, skipSpace_cons hopen, hskip]
  rfl

theorem reads_object (layout : Layout) {entries : List (String × Json)}
    (h : ∀ entry ∈ entries, Reads (entry.2.text layout.deeper) entry.2.document) :
    Reads ((Json.object entries).text layout) (object (entryDocuments entries)) := by
  rcases entries with _ | ⟨⟨key, item⟩, entries⟩
  · rw [Json.text]
    apply reads_cons (by decide)
    intro bound rest _ _
    simp [scanValue?, skipSpace_cons, isSpace, entryDocuments]
  · simp only [Json.text, List.cons_append]
    apply reads_cons (by decide)
    intro bound rest hbound _
    have hmore : (item.text layout.deeper ++
        restEntriesText layout.deeper entries).length < bound := by
      simp only [List.length_append, List.length_singleton] at hbound ⊢
      omega
    have hscan := scanEntries?_texts layout.deeper (blank_lineBreak layout) h hmore [] rest
    simp [scanValue?_object (blank_lineBreak _), hscan]

/-! ## Texts -/

theorem reads_of_readable {depth : Nat} {json : Json} (h : json.Readable depth)
    (layout : Layout) : Reads (json.text layout) json.document := by
  induction h generalizing layout with
  | null => simpa [Json.text, Json.document] using reads_null
  | bool b => simpa [Json.text, Json.document] using reads_bool b
  | number h => simpa [Json.text, Json.document] using reads_number h
  | string s => simpa [Json.text, Json.document] using reads_string s
  | array _ ih =>
    rw [Json.document]
    exact reads_array layout fun item hmem => ih item hmem layout.deeper
  | object _ _ ih =>
    rw [Json.document]
    exact reads_object layout fun entry hmem => ih entry hmem layout.deeper

/-- A whole text is read as the document that was written. -/
theorem Reads.read?_eq {text : List Char} {document : Document} (h : Reads text document) :
    read? (String.ofList text) = some document := by
  have hscan := h.scan (2 * text.length + 2) [] (by omega) Numeral.ends_nil
  rw [List.append_nil] at hscan
  simp [read?, String.toList_ofList, hscan, skipSpace]

end Document

namespace Json

theorem values?_documents {depth : Nat} {items : List Json}
    (h : ∀ item ∈ items, item.document.value? depth = some item) :
    Document.values? depth (documents items) = some items := by
  induction items with
  | nil => simp [documents, Document.values?]
  | cons item rest ih =>
    obtain ⟨hitem, hrest⟩ := List.forall_mem_cons.1 h
    simp [documents, Document.values?, hitem, ih hrest]

theorem entryValues?_entryDocuments {depth : Nat} {entries : List (String × Json)}
    (h : ∀ entry ∈ entries, entry.2.document.value? depth = some entry.2) :
    Document.entryValues? depth (entryDocuments entries) = some entries := by
  induction entries with
  | nil => simp [entryDocuments, Document.entryValues?]
  | cons head rest ih =>
    obtain ⟨key, item⟩ := head
    obtain ⟨hitem, hrest⟩ := List.forall_mem_cons.1 h
    simp [entryDocuments, Document.entryValues?, hitem, ih hrest]

theorem value?_document {depth : Nat} {json : Json} (h : json.Readable depth) :
    json.document.value? depth = some json := by
  induction h with
  | null => simp [document, Document.value?]
  | bool b => simp [document, Document.value?]
  | number h => simp [document, Document.value?]
  | string s => simp [document, Document.value?]
  | array _ ih => simp [document, Document.value?, values?_documents ih]
  | object sorted _ ih =>
    have hmap := KeyMap.ofList_entries ⟨_, sorted⟩
    simp [document, Document.value?, entryValues?_entryDocuments ih, hmap, ofMap]

theorem readable_strings (depth : Nat) (items : List String) :
    (strings items).Readable (depth + 1) := by
  refine .array ?_
  intro item hmem
  obtain ⟨s, -, rfl⟩ := List.mem_map.1 hmem
  exact .string s

/-- A text is read back as the value that it was written for. -/
theorem Readable.read?_text {json : Json} (h : json.Readable Document.depthLimit)
    (layout : Layout) : Json.read? (String.ofList (json.text layout)) = some json := by
  rw [Json.read?, (Document.reads_of_readable h layout).read?_eq, Option.bind_some,
    value?_document h]

end Json

end SceneMask
