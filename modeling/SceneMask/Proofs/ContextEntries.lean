-- The law of context entries. An entry gives a text for a key, the text stands
-- for a value, and of the entries with a key the last one counts. So every
-- context can be written entry by entry, in any order.
import Mathlib
import SceneMask.Context
import SceneMask.Proofs.JsonTexts
import SceneMask.Proofs.Selections

namespace SceneMask.Context

/-! ## One entry -/

/-- An entry gives a text for a key: the key stands before the first equals
sign, with blanks around it or not, and the text is all that follows. -/
def Gives (entry key text : String) : Prop :=
  ∃ front, '=' ∉ front ∧ entry.toList = front ++ '=' :: text.toList ∧
    key.toList = trimBlanks front

/-- A text stands for the value that it writes as JSON, or else for itself. -/
def StandsFor (text : String) (value : Json) : Prop :=
  Json.read? text = some value ∨ Json.read? text = none ∧ value = .string text

/-- Why an entry without an equals sign is refused. -/
def noSign (entry : String) : Failure := .note ("--meta expects KEY=VALUE, got " ++ quoted entry)

theorem standsFor_iff {text : String} {value : Json} :
    StandsFor text value ↔ value = readValue text := by
  unfold StandsFor readValue
  cases Json.read? text <;> simp [eq_comm]

theorem ne_sign_of_not_mem {cs : List Char} (h : '=' ∉ cs) :
    ∀ c ∈ cs, decide (c ≠ '=') = true := by
  intro c hc
  exact decide_eq_true fun heq => h (heq ▸ hc)

theorem span_of_not_mem {front : List Char} (h : '=' ∉ front) (text : List Char) :
    (front ++ '=' :: text).span (· ≠ '=') = (front, '=' :: text) := by
  have hfront := ne_sign_of_not_mem h
  rw [List.span_eq_takeWhile_dropWhile, List.takeWhile_append_of_pos hfront,
    List.dropWhile_append_of_pos hfront]
  simp

/-- The first equals sign settles the key and the text. -/
theorem Gives.unique {entry key key' text text' : String} (h : Gives entry key text)
    (h' : Gives entry key' text') : key' = key ∧ text' = text := by
  obtain ⟨front, hfront, hentry, hkey⟩ := h
  obtain ⟨front', hfront', hentry', hkey'⟩ := h'
  have hspan := span_of_not_mem hfront text.toList
  rw [← hentry, hentry', span_of_not_mem hfront', Prod.mk.injEq, List.cons.injEq] at hspan
  obtain ⟨rfl, -, htext⟩ := hspan
  exact ⟨String.toList_inj.1 (hkey'.trans hkey.symm), String.toList_inj.1 htext⟩

theorem exists_gives {entry : String} (h : '=' ∈ entry.toList) :
    ∃ key text, Gives entry key text := by
  obtain ⟨front, text, hentry, hfront⟩ := List.eq_append_cons_of_mem h
  refine ⟨String.ofList (trimBlanks front), String.ofList text, front, hfront, ?_, ?_⟩
  · rw [hentry, String.toList_ofList]
  · rw [String.toList_ofList]

theorem parseEntry_of_gives {entry key text : String} (h : Gives entry key text) :
    parseEntry entry = .ok (key, readValue text) := by
  obtain ⟨front, hfront, hentry, hkey⟩ := h
  rw [parseEntry, hentry, span_of_not_mem hfront]
  simp only [← hkey, String.ofList_toList]

theorem parseEntry_of_not_mem {entry : String} (h : '=' ∉ entry.toList) :
    parseEntry entry = .error (noSign entry) := by
  rw [parseEntry, List.span_eq_takeWhile_dropWhile,
    List.dropWhile_eq_nil_iff.2 (ne_sign_of_not_mem h)]
  rfl

theorem parseEntry_eq_ok_iff {entry key : String} {value : Json} :
    parseEntry entry = .ok (key, value) ↔ ∃ text, Gives entry key text ∧ StandsFor text value := by
  simp only [standsFor_iff]
  constructor
  · intro h
    by_cases hsign : '=' ∈ entry.toList
    · obtain ⟨key', text, hgives⟩ := exists_gives hsign
      rw [parseEntry_of_gives hgives] at h
      cases h
      exact ⟨text, hgives, rfl⟩
    · rw [parseEntry_of_not_mem hsign] at h
      cases h
  · rintro ⟨text, hgives, rfl⟩
    exact parseEntry_of_gives hgives

/-! ## Entry after entry -/

/-- One more entry is read after the others and takes the place of those with
its key. -/
theorem parse_snoc (entries : List String) (entry : String) :
    parse (entries ++ [entry]) = (parse entries).bind fun context =>
      (parseEntry entry).map fun (key, value) => context.insert key value := by
  unfold parse
  rw [List.mapM_append, List.mapM_cons, List.mapM_nil]
  cases entries.mapM parseEntry with
  | error failure => rfl
  | ok pairs =>
    cases parseEntry entry with
    | error failure => rfl
    | ok pair => exact congrArg Except.ok (KeyMap.insertAll_ofList pairs [pair]).symm

/-- The first entry without an equals sign. -/
def firstRefused? (entries : List String) : Option String :=
  entries.find? fun entry => '=' ∉ entry.toList

theorem firstRefused?_eq_none_iff {entries : List String} :
    firstRefused? entries = none ↔ ∀ entry ∈ entries, '=' ∈ entry.toList := by
  simp [firstRefused?]

theorem firstRefused?_snoc (entries : List String) (entry : String) :
    firstRefused? (entries ++ [entry]) =
      (firstRefused? entries).or (if '=' ∈ entry.toList then none else some entry) := by
  by_cases hsign : '=' ∈ entry.toList <;> simp [firstRefused?, hsign]

/-- Entries are read if all have an equals sign. The first one that has none is
refused. -/
theorem parse_cases (entries : List String) :
    firstRefused? entries = none ∧ (∃ context, parse entries = .ok context) ∨
      ∃ entry, firstRefused? entries = some entry ∧ parse entries = .error (noSign entry) := by
  induction entries using List.reverseRecOn with
  | nil => exact Or.inl ⟨rfl, .empty, rfl⟩
  | append_singleton entries entry ih =>
    rw [parse_snoc, firstRefused?_snoc]
    rcases ih with ⟨hnone, context, hparse⟩ | ⟨refused, hrefused, hparse⟩
    · rw [hparse, hnone, Option.none_or]
      by_cases hsign : '=' ∈ entry.toList
      · obtain ⟨key, text, hgives⟩ := exists_gives hsign
        rw [parseEntry_of_gives hgives]
        exact Or.inl ⟨if_pos hsign, _, rfl⟩
      · rw [parseEntry_of_not_mem hsign]
        exact Or.inr ⟨entry, if_neg hsign, rfl⟩
    · rw [hparse, hrefused]
      exact Or.inr ⟨refused, rfl, rfl⟩

theorem exists_parse_iff {entries : List String} :
    (∃ context, parse entries = .ok context) ↔ ∀ entry ∈ entries, '=' ∈ entry.toList := by
  rw [← firstRefused?_eq_none_iff]
  rcases parse_cases entries with ⟨hnone, hparse⟩ | ⟨entry, hrefused, hparse⟩
  · exact iff_of_true hparse hnone
  · simp [hrefused, hparse]

theorem parse_eq_error_iff {entries : List String} {failure : Failure} :
    parse entries = .error failure ↔
      ∃ entry, firstRefused? entries = some entry ∧ failure = noSign entry := by
  rcases parse_cases entries with ⟨hnone, context, hparse⟩ | ⟨entry, hrefused, hparse⟩
  · simp [hnone, hparse]
  · simp [hrefused, hparse, eq_comm]

/-! ## The last entry with a key -/

/-- Some entry gives the value for the key, and no entry after it gives
anything for the key. -/
def LastGives (entries : List String) (key : String) (value : Json) : Prop :=
  ∃ before entry after text, entries = before ++ entry :: after ∧
    Gives entry key text ∧ StandsFor text value ∧ ∀ later ∈ after, ∀ other, ¬ Gives later key other

theorem lastGives_snoc {entries : List String} {entry key : String} {value : Json} :
    LastGives (entries ++ [entry]) key value ↔
      (∃ text, Gives entry key text ∧ StandsFor text value) ∨
        (∀ other, ¬ Gives entry key other) ∧ LastGives entries key value := by
  constructor
  · rintro ⟨before, giver, after, text, hentries, hgives, hvalue, hlater⟩
    rcases List.eq_nil_or_concat after with rfl | ⟨front, last, rfl⟩
    · obtain ⟨rfl, hlast⟩ := List.append_inj' hentries rfl
      cases hlast
      exact Or.inl ⟨text, hgives, hvalue⟩
    · rw [List.concat_eq_append, ← List.cons_append, ← List.append_assoc] at hentries
      obtain ⟨rfl, hlast⟩ := List.append_inj' hentries rfl
      cases hlast
      refine Or.inr ⟨hlater entry (by simp), before, giver, front, text, rfl, hgives, hvalue, ?_⟩
      intro later hmem
      exact hlater later (by simp [hmem])
  · rintro (⟨text, hgives, hvalue⟩ | ⟨hnot, before, giver, after, text, rfl, hgiver⟩)
    · exact ⟨entries, entry, [], text, rfl, hgives, hvalue, List.forall_mem_nil _⟩
    · obtain ⟨hgives, hvalue, hlater⟩ := hgiver
      refine ⟨before, giver, after ++ [entry], text, by simp, hgives, hvalue, ?_⟩
      intro later hmem
      rcases List.mem_append.1 hmem with hmem | hmem
      · exact hlater later hmem
      · rw [List.mem_singleton.1 hmem]
        exact hnot

/-- The context of entries has for each key what the last of its entries
gives. -/
theorem get?_eq_some_iff {entries : List String} {context : Context}
    (h : parse entries = .ok context) {key : String} {value : Json} :
    context.get? key = some value ↔ LastGives entries key value := by
  -- on the entries from the last one back: it counts before all others
  induction entries using List.reverseRecOn generalizing context with
  | nil =>
    have hempty : KeyMap.ofList [] = context := Except.ok.inj h
    simp [LastGives, ← hempty, KeyMap.get?_ofList]
  | append_singleton entries entry ih =>
    rw [parse_snoc] at h
    obtain ⟨earlier, hearlier, h⟩ := bind_eq_ok.1 h
    obtain ⟨⟨last, newest⟩, hentry, rfl⟩ := map_eq_ok.1 h
    obtain ⟨text, hgives, hnewest⟩ := parseEntry_eq_ok_iff.1 hentry
    rw [KeyMap.get?_insert, lastGives_snoc]
    by_cases hkey : key = last
    · subst hkey
      rw [if_pos rfl, Option.some.injEq]
      constructor
      · rintro rfl
        exact Or.inl ⟨text, hgives, hnewest⟩
      · rintro (⟨text', hgives', hvalue⟩ | ⟨hnot, -⟩)
        · obtain ⟨-, rfl⟩ := hgives.unique hgives'
          exact (standsFor_iff.1 hnewest).trans (standsFor_iff.1 hvalue).symm
        · exact absurd hgives (hnot text)
    · have hnot : ∀ other, ¬ Gives entry key other :=
        fun other hother => hkey (hgives.unique hother).1
      rw [if_neg hkey, ih hearlier]
      constructor
      · intro hlast
        exact Or.inr ⟨hnot, hlast⟩
      · rintro (⟨other, hother, -⟩ | ⟨-, hlast⟩)
        · exact absurd hother (hnot other)
        · exact hlast

/-! ## Written entries -/

/-- A key that can be written: it has no equals sign and no blanks around it. -/
def Writable (key : String) : Prop := '=' ∉ key.toList ∧ trim key = key

instance (key : String) : Decidable (Writable key) := inferInstanceAs (Decidable (_ ∧ _))

/-- The entry for a key and a value. The value stands as JSON in any layout. -/
def Writes (pair : String × Json) (entry : String) : Prop :=
  ∃ layout, entry = pair.1 ++ "=" ++ String.ofList (pair.2.text layout)

theorem gives_of_writable {key : String} (h : Writable key) (text : String) :
    Gives (key ++ "=" ++ text) key text := by
  refine ⟨key.toList, h.1, ?_, ?_⟩
  · simp
  · rw [← toList_trim, h.2]

theorem parseEntry_of_writes {pair : String × Json} {entry : String} (hkey : Writable pair.1)
    (hvalue : pair.2.Readable Document.depthLimit) (h : Writes pair entry) :
    parseEntry entry = .ok pair := by
  obtain ⟨layout, rfl⟩ := h
  exact parseEntry_eq_ok_iff.2
    ⟨_, gives_of_writable hkey _, Or.inl (hvalue.read?_text layout)⟩

/-- Entries that write the pairs of a context are read as the context, whatever
their order. -/
theorem parse_of_writes {context : Context} {pairs : List (String × Json)}
    {entries : List String} (hpairs : pairs.Perm context.entries)
    (hkeys : ∀ key ∈ context.keys, Writable key)
    (hvalues : ∀ pair ∈ context.entries, pair.2.Readable Document.depthLimit)
    (h : List.Forall₂ Writes pairs entries) : parse entries = .ok context := by
  have hall : ∀ pair ∈ pairs, Writable pair.1 ∧ pair.2.Readable Document.depthLimit := by
    intro pair hmem
    have hentry := hpairs.mem_iff.1 hmem
    exact ⟨hkeys _ (List.mem_map_of_mem hentry), hvalues _ hentry⟩
  have hread : List.Forall₂ (fun entry pair => parseEntry entry = .ok pair) entries pairs := by
    apply List.Forall₂.flip
    refine ((List.forall₂_and_left _ _).2 ⟨hall, h⟩).imp ?_
    rintro pair entry ⟨⟨hkey, hvalue⟩, hwrites⟩
    exact parseEntry_of_writes hkey hvalue hwrites
  exact map_eq_ok.2 ⟨pairs, mapM_eq_ok_iff.2 hread, KeyMap.ofList_of_perm hpairs⟩

/-! ## The law -/

/-- Entries are read just if each of them has an equals sign, and else the first
one without is refused. The context then has, for each key that an entry gives
and for no other, the value of the last entry with that key: what its text
writes as JSON, or else the text. So a context whose keys have no equals sign
and no blanks around them is read back from its entries, in any order and in any
layout. What its values have to bring is that they are not nested too deep and
that the texts of their real numbers read back. -/
theorem contexts_are_told_entry_by_entry :
    (∀ entries : List String,
      ((∃ context, parse entries = .ok context) ↔ ∀ entry ∈ entries, '=' ∈ entry.toList) ∧
      (∀ failure, parse entries = .error failure ↔
        ∃ entry, entries.find? (fun entry => '=' ∉ entry.toList) = some entry ∧
          failure = .note ("--meta expects KEY=VALUE, got " ++ quoted entry)) ∧
      ∀ context, parse entries = .ok context → ∀ key value,
        context.get? key = some value ↔ LastGives entries key value) ∧
    ∀ context : Context, (∀ key ∈ context.keys, Writable key) →
      (∀ pair ∈ context.entries, pair.2.Readable Document.depthLimit) →
      ∀ pairs entries, pairs.Perm context.entries → List.Forall₂ Writes pairs entries →
        parse entries = .ok context := by
  refine ⟨fun entries => ⟨exists_parse_iff, fun failure => parse_eq_error_iff, ?_⟩, ?_⟩
  · intro context h key value
    exact get?_eq_some_iff h
  · intro context hkeys hvalues pairs entries hpairs h
    exact parse_of_writes hpairs hkeys hvalues h

/-- An empty key, a text with an equals sign and a text of digits. -/
def oddContext : Context where
  entries := [("", .string "a=b"), ("b c", .string "5"), ("mean", .array [.natural 5, .null])]
  sorted := by decide +kernel

theorem an_odd_context_is_told :
    parse ["mean=[\n  5,\n  null\n]", "=\"a=b\"", "b c=\"5\""] = .ok oddContext ∧
      ∃ context, parse [" k =1", "k\t=x=y"] = .ok context ∧
        context.get? "k" = some (.string "x=y") := by
  obtain ⟨hparse, -, hget⟩ := contexts_are_told_entry_by_entry.1 [" k =1", "k\t=x=y"]
  obtain ⟨context, hcontext⟩ := hparse.2 (by decide)
  have hnot : Json.read? "x=y" = none := by cbv
  refine ⟨?_, context, hcontext, (hget context hcontext _ _).2 ?_⟩
  · refine contexts_are_told_entry_by_entry.2 oddContext (by decide +kernel) ?_ _ _
      (@List.perm_append_comm _ [_] [_, _]) ?_
    · simp only [oddContext, List.forall_mem_cons]
      refine ⟨.string _, .string _, .array ?_, List.forall_mem_nil _⟩
      simp only [List.forall_mem_cons]
      exact ⟨.number (JsonNumber.readsBack_whole _), .null, List.forall_mem_nil _⟩
    · exact .cons ⟨.indented 0, by decide +kernel⟩
        (.cons ⟨.compact, by decide +kernel⟩ (.cons ⟨.compact, by decide +kernel⟩ .nil))
  · exact ⟨[" k =1"], "k\t=x=y", [], "x=y", rfl, ⟨['k', '\t'], by decide, by decide, by decide⟩,
      Or.inr ⟨hnot, rfl⟩, List.forall_mem_nil _⟩

end SceneMask.Context
