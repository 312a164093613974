-- The law of selections. A text spells a group, or one class by its name or
-- by its code, and a list of texts is a selection exactly if all of them do and
-- no class comes twice. The first text that spells nothing is reported before
-- any repeat, and of the repeats the first one.
import Mathlib
import SceneMask.Proofs.ClassNumbers
import SceneMask.Proofs.Numerals
import SceneMask.Proofs.Trimming
import SceneMask.Selection

namespace SceneMask

/-! ## Results of several steps -/

section Results

variable {ε α β : Type} {f : α → Except ε β}

theorem bind_eq_error {x : Except ε α} {cause : ε} :
    (x >>= f) = .error cause ↔ x = .error cause ∨ ∃ a, x = .ok a ∧ f a = .error cause := by
  cases x <;> simp [bind, Except.bind]

theorem mapM_eq_ok_iff {items : List α} {results : List β} :
    items.mapM f = .ok results ↔ List.Forall₂ (fun a b => f a = .ok b) items results := by
  induction items generalizing results with
  | nil => simp [pure, Except.pure, eq_comm]
  | cons a rest ih =>
    rw [List.mapM_cons, bind_eq_ok, List.forall₂_cons_left_iff]
    constructor
    · rintro ⟨b, hb, hrest⟩
      obtain ⟨bs, hbs, hresults⟩ := bind_eq_ok.1 hrest
      cases hresults
      exact ⟨b, bs, hb, ih.1 hbs, rfl⟩
    · rintro ⟨b, bs, hb, hbs, rfl⟩
      exact ⟨b, hb, bind_eq_ok.2 ⟨bs, ih.2 hbs, rfl⟩⟩

/-- Steps fail with the first of their failures. -/
theorem mapM_eq_error_iff {items : List α} {cause : ε} :
    items.mapM f = .error cause ↔ ∃ before a after, items = before ++ a :: after ∧
      (∀ b ∈ before, ∃ result, f b = .ok result) ∧ f a = .error cause := by
  induction items with
  | nil =>
    constructor
    · intro h
      cases h
    · rintro ⟨before, a, after, h, -⟩
      cases before <;> cases h
  | cons a rest ih =>
    rw [List.mapM_cons]
    cases ha : f a with
    | error cause' =>
      constructor
      · intro h
        cases h
        exact ⟨[], a, rest, rfl, nofun, ha⟩
      · rintro ⟨before, b, after, h, hbefore, hb⟩
        cases before with
        | nil =>
          cases h
          rw [ha] at hb
          cases hb
          rfl
        | cons c before =>
          cases h
          obtain ⟨result, hresult⟩ := hbefore a List.mem_cons_self
          rw [ha] at hresult
          cases hresult
    | ok result =>
      have hstep : (do let bs ← rest.mapM f; pure (result :: bs)) = .error cause ↔
          rest.mapM f = .error cause := by
        cases rest.mapM f <;> simp [bind, Except.bind, pure, Except.pure]
      refine hstep.trans (ih.trans ⟨?_, ?_⟩)
      · rintro ⟨before, b, after, rfl, hbefore, hb⟩
        exact ⟨a :: before, b, after, rfl,
          List.forall_mem_cons.2 ⟨⟨result, ha⟩, hbefore⟩, hb⟩
      · rintro ⟨before, b, after, h, hbefore, hb⟩
        cases before with
        | nil =>
          cases h
          rw [ha] at hb
          cases hb
        | cons c before =>
          cases h
          exact ⟨before, b, after, rfl, (List.forall_mem_cons.1 hbefore).2, hb⟩

end Results

/-- The parameter that a fault is about. -/
def Fault.parameter? : Fault → Option String
  | configuration parameter _ => some parameter
  | _ => none

/-! ## Words -/

/-- A word for classes: the name of a group or of a class in any case of
letters, or digits for the code of a class, with or without a plus. -/
inductive ClassWord : List Char → List SceneClass → Prop
  | group {cs : List Char} (g : ClassGroup) (h : cs.map Char.toUpper = g.name.toList) :
      ClassWord cs g.classes
  | name {cs : List Char} (c : SceneClass) (h : cs.map Char.toUpper = c.name.toList) :
      ClassWord cs [c]
  | code {ds : List Char} (c : SceneClass) (h : AllDigits ds) (hcode : ofDigits ds = c.code) :
      ClassWord ds [c]
  | plusCode {ds : List Char} (c : SceneClass) (h : AllDigits ds) (hcode : ofDigits ds = c.code) :
      ClassWord ('+' :: ds) [c]

/-- A text spells classes: it is a word for them between blanks. -/
def SpellsClasses (text : String) (classes : List SceneClass) : Prop :=
  ClassWord (trimBlanks text.toList) classes

/-- A text is one of the spellings of a class: a word for it with blanks around. -/
def IsSpelling (c : SceneClass) (text : String) : Prop :=
  ∃ left word right : List Char, AllBlank left ∧ AllBlank right ∧
    text.toList = left ++ word ++ right ∧ ClassWord word [c]

/-- The fault of a text that spells nothing. A number of a byte counts as a code,
everything else as a name. -/
def spellingFault (text : String) : Fault :=
  match readNat? 255 (trim text).toList with
  | some code => .unknownClassCode code
  | none => .unknownClassName (trim text)

theorem parameter?_spellingFault (text : String) :
    (spellingFault text).parameter? = some "classes" := by
  unfold spellingFault
  split <;> rfl

theorem toList_trim (text : String) : (trim text).toList = trimBlanks text.toList :=
  String.toList_ofList

theorem uppercase_trim_eq_iff {text name : String} :
    uppercase (trim text) = name ↔ (trimBlanks text.toList).map Char.toUpper = name.toList := by
  rw [uppercase, toList_trim, ← String.toList_inj, String.toList_ofList]

/-! ## Words are told apart -/

theorem toUpper_eq_self {c : Char} (h : c.toNat < 97 ∨ 122 < c.toNat) : c.toUpper = c := by
  unfold Char.toUpper
  split
  · rename_i hletter
    have hlow : 97 ≤ c.toNat := hletter.1
    have hhigh : c.toNat ≤ 122 := hletter.2
    omega
  · rfl

/-- A numeral is no name, for a name starts with a letter. -/
theorem not_name_of_numeral {limit n : Nat} {cs : List Char} (h : readNat? limit cs = some n)
    {a : Char} {rest : List Char} (ha : a.isDigit = false ∧ a ≠ '+') :
    cs.map Char.toUpper ≠ a :: rest := by
  obtain ⟨ds, hdigits, hcs, -⟩ := readNat?_eq_some_iff.1 h
  rintro hname
  obtain ⟨d, tail, rfl⟩ := List.exists_cons_of_ne_nil hdigits.nonempty
  have hd := hdigits.digit d List.mem_cons_self
  rcases hcs with rfl | rfl
  · have hsame : d.toUpper = d := toUpper_eq_self (Or.inl (by
      have hhigh : d.toNat ≤ 57 := (Char.isDigit_iff_toNat.1 hd).2
      omega))
    rw [List.map_cons, hsame] at hname
    cases hname
    rw [ha.1] at hd
    cases hd
  · rw [List.map_cons] at hname
    cases hname
    exact ha.2 (by decide)

theorem ClassGroup.not_name_of_numeral {limit n : Nat} {cs : List Char}
    (h : readNat? limit cs = some n) (g : ClassGroup) : cs.map Char.toUpper ≠ g.name.toList := by
  cases g <;> exact SceneMask.not_name_of_numeral h (by decide)

theorem SceneClass.not_name_of_numeral {limit n : Nat} {cs : List Char}
    (h : readNat? limit cs = some n) (c : SceneClass) : cs.map Char.toUpper ≠ c.name.toList := by
  cases c <;> exact SceneMask.not_name_of_numeral h (by decide)

theorem ClassGroup.name_ne_class_name (g : ClassGroup) (c : SceneClass) :
    g.name.toList ≠ c.name.toList := by
  cases g <;> cases c <;> decide

/-- The words, by how they are tried: a group, a name, a code. -/
theorem classWord_iff {cs : List Char} {classes : List SceneClass} :
    ClassWord cs classes ↔
      (∃ g : ClassGroup, cs.map Char.toUpper = g.name.toList ∧ classes = g.classes) ∨
      ∃ c : SceneClass, (cs.map Char.toUpper = c.name.toList ∨
        readNat? 255 cs = some c.code.val) ∧ classes = [c] := by
  have hbyte : ∀ c : SceneClass, c.code.val ≤ 255 := fun c => by omega
  constructor
  · intro h
    cases h with
    | group g h => exact Or.inl ⟨g, h, rfl⟩
    | name c h => exact Or.inr ⟨c, Or.inl h, rfl⟩
    | code c h hcode =>
      exact Or.inr ⟨c, Or.inr (readNat?_eq_some_iff.2 ⟨_, h, Or.inl rfl, hcode, hbyte c⟩), rfl⟩
    | plusCode c h hcode =>
      exact Or.inr ⟨c, Or.inr (readNat?_eq_some_iff.2 ⟨_, h, Or.inr rfl, hcode, hbyte c⟩), rfl⟩
  · rintro (⟨g, h, rfl⟩ | ⟨c, h | h, rfl⟩)
    · exact .group g h
    · exact .name c h
    · obtain ⟨ds, hdigits, rfl | rfl, hcode, -⟩ := readNat?_eq_some_iff.1 h
      · exact .code c hdigits hcode
      · exact .plusCode c hdigits hcode

theorem ClassGroup.name_letters (g : ClassGroup) :
    ∀ a ∈ g.name.toList, a.isUpper = true ∨ a = '_' := by
  cases g <;> simp [name]

theorem SceneClass.name_letters (c : SceneClass) :
    ∀ a ∈ c.name.toList, a.isUpper = true ∨ a = '_' := by
  cases c <;> simp [name]

/-- No blanks stand in a word. -/
theorem ClassWord.no_blank {cs : List Char} {classes : List SceneClass}
    (h : ClassWord cs classes) : ∀ a ∈ cs, isBlank a = false := by
  have hname : ∀ name : List Char, (∀ a ∈ name, a.isUpper = true ∨ a = '_') →
      cs.map Char.toUpper = name → ∀ a ∈ cs, isBlank a = false := by
    rintro name hname rfl a ha
    by_contra hblank
    rw [Bool.not_eq_false] at hblank
    -- a blank has no case, so it would stand in the name as well
    have hsame : a.toUpper = a := by
      apply toUpper_eq_self
      simp [isBlank, blankRanges] at hblank
      omega
    rcases hname a.toUpper (List.mem_map_of_mem ha) with hupper | hline
    · rw [hsame] at hupper
      rw [isBlank_of_isUpper hupper] at hblank
      cases hblank
    · rw [hsame] at hline
      subst hline
      exact absurd hblank (by decide)
  cases h with
  | group g h => exact hname _ g.name_letters h
  | name c h => exact hname _ c.name_letters h
  | code c h => exact fun a ha => isBlank_of_isDigit (h.digit a ha)
  | plusCode c h =>
    exact List.forall_mem_cons.2 ⟨by decide, fun a ha => isBlank_of_isDigit (h.digit a ha)⟩

/-! ## Reading one text -/

theorem ClassGroup.parse_eq_ok_iff {text : String} {g : ClassGroup} :
    ClassGroup.parse text = .ok g ↔ (trimBlanks text.toList).map Char.toUpper = g.name.toList := by
  have hname : ∀ name, ofName? name = some g ↔ name = g.name := by
    intro name
    constructor
    · intro h
      simpa [eq_comm] using List.find?_some h
    · rintro rfl
      cases g <;> decide
  unfold ClassGroup.parse
  dsimp only
  rw [elim_error_eq_ok, hname, uppercase_trim_eq_iff]

namespace SceneClass

theorem ofName?_eq_some_iff {name : String} {c : SceneClass} :
    ofName? name = some c ↔ name = c.name := by
  constructor
  · intro h
    simpa [eq_comm] using List.find?_some h
  · rintro rfl
    exact ofName?_name c

theorem parse_eq_ok_iff {text : String} {c : SceneClass} :
    SceneClass.parse text = .ok c ↔
      (trimBlanks text.toList).map Char.toUpper = c.name.toList ∨
        readNat? 255 (trimBlanks text.toList) = some c.code.val := by
  unfold SceneClass.parse
  dsimp only
  rw [toList_trim]
  cases hread : readNat? 255 (trimBlanks text.toList) with
  | some code =>
    rw [or_iff_right (not_name_of_numeral hread c), Option.some.injEq]
    exact elim_error_eq_ok.trans ofCode?_eq_some_iff
  | none =>
    rw [or_iff_left nofun, ← uppercase_trim_eq_iff]
    exact elim_error_eq_ok.trans ofName?_eq_some_iff

theorem parse_eq_error {text : String} {fault : Fault} (h : SceneClass.parse text = .error fault) :
    fault = spellingFault text := by
  unfold SceneClass.parse at h
  unfold spellingFault
  cases hread : readNat? 255 (trim text).toList with
  | some code =>
    simp only [hread] at h
    exact (elim_error_eq_error.1 h).1
  | none =>
    simp only [hread] at h
    exact (elim_error_eq_error.1 h).1

end SceneClass

namespace Selection

theorem expand_eq_ok_iff {text : String} {classes : List SceneClass} :
    expand text = .ok classes ↔ SpellsClasses text classes := by
  rw [SpellsClasses, classWord_iff]
  unfold expand
  cases hgroup : ClassGroup.parse text with
  | ok g =>
    have hname := ClassGroup.parse_eq_ok_iff.1 hgroup
    constructor
    · intro h
      cases h
      exact Or.inl ⟨g, hname, rfl⟩
    · rintro (⟨g', hname', rfl⟩ | ⟨c, hname' | hread, -⟩)
      · have hsame := ClassGroup.parse_eq_ok_iff.2 hname'
        rw [hgroup] at hsame
        cases hsame
        rfl
      · exact absurd (hname.symm.trans hname') (g.name_ne_class_name c)
      · exact absurd hname (ClassGroup.not_name_of_numeral hread g)
  | error fault =>
    dsimp only
    rw [map_eq_ok]
    constructor
    · rintro ⟨c, hparse, rfl⟩
      exact Or.inr ⟨c, SceneClass.parse_eq_ok_iff.1 hparse, rfl⟩
    · rintro (⟨g, hname, -⟩ | ⟨c, hword, rfl⟩)
      · rw [ClassGroup.parse_eq_ok_iff.2 hname] at hgroup
        cases hgroup
      · exact ⟨c, SceneClass.parse_eq_ok_iff.2 hword, rfl⟩

theorem exists_expand_iff {text : String} :
    (∃ classes, expand text = .ok classes) ↔ ∃ classes, SpellsClasses text classes := by
  simp only [expand_eq_ok_iff]

theorem expand_eq_error_iff {text : String} {fault : Fault} :
    expand text = .error fault ↔
      (¬ ∃ classes, SpellsClasses text classes) ∧ fault = spellingFault text := by
  have hfault : ∀ {fault}, expand text = .error fault → fault = spellingFault text := by
    intro fault h
    unfold expand at h
    split at h
    · cases h
    · cases hparse : SceneClass.parse text with
      | ok c =>
        rw [hparse] at h
        cases h
      | error cause =>
        rw [hparse] at h
        cases h
        exact SceneClass.parse_eq_error hparse
  rw [← exists_expand_iff]
  constructor
  · intro h
    refine ⟨?_, hfault h⟩
    rintro ⟨classes, hclasses⟩
    rw [h] at hclasses
    cases hclasses
  · rintro ⟨hnone, rfl⟩
    cases hexpand : expand text with
    | ok classes => exact absurd ⟨classes, hexpand⟩ hnone
    | error cause => rw [hfault hexpand]

/-! ## Repeats -/

theorem firstRepeat?_eq_none_iff {seen cs : List SceneClass} :
    firstRepeat? seen cs = none ↔ cs.Nodup ∧ ∀ c ∈ cs, c ∉ seen := by
  refine ⟨nodup_of_firstRepeat?, ?_⟩
  induction cs generalizing seen with
  | nil => exact fun _ => rfl
  | cons c rest ih =>
    rintro ⟨hnodup, hseen⟩
    obtain ⟨hc, hrest⟩ := List.nodup_cons.1 hnodup
    obtain ⟨hcseen, hrestseen⟩ := List.forall_mem_cons.1 hseen
    rw [firstRepeat?, if_neg hcseen]
    refine ih ⟨hrest, fun d hd hmem => ?_⟩
    rcases List.mem_cons.1 hmem with rfl | hmem
    · exact hc hd
    · exact hrestseen d hd hmem

/-- The first repeat is the first class that stands among those before it. -/
theorem firstRepeat?_eq_some_iff {seen cs : List SceneClass} {c : SceneClass} :
    firstRepeat? seen cs = some c ↔ ∃ before after, cs = before ++ c :: after ∧
      firstRepeat? seen before = none ∧ (c ∈ before ∨ c ∈ seen) := by
  induction cs generalizing seen with
  | nil =>
    constructor
    · intro h
      cases h
    · rintro ⟨before, after, h, -⟩
      cases before <;> cases h
  | cons d rest ih =>
    rw [firstRepeat?]
    by_cases hd : d ∈ seen
    · rw [if_pos hd]
      constructor
      · intro h
        cases h
        exact ⟨[], rest, rfl, rfl, Or.inr hd⟩
      · rintro ⟨before, after, h, hnone, -⟩
        cases before with
        | nil =>
          cases h
          rfl
        | cons e before =>
          cases h
          rw [firstRepeat?, if_pos hd] at hnone
          cases hnone
    · rw [if_neg hd, ih]
      constructor
      · rintro ⟨before, after, rfl, hnone, hc⟩
        refine ⟨d :: before, after, rfl, ?_, ?_⟩
        · rw [firstRepeat?, if_neg hd, hnone]
        · rw [List.mem_cons] at hc ⊢
          tauto
      · rintro ⟨before, after, h, hnone, hc⟩
        cases before with
        | nil =>
          cases h
          exact absurd (hc.resolve_left (List.not_mem_nil)) hd
        | cons e before =>
          cases h
          rw [firstRepeat?, if_neg hd] at hnone
          refine ⟨before, after, rfl, hnone, ?_⟩
          rw [List.mem_cons] at hc ⊢
          tauto

theorem ofList_eq_ok_iff {classes : List SceneClass} {selection : Selection} :
    ofList classes = .ok selection ↔ classes = selection.classes := by
  unfold ofList
  constructor
  · intro h
    split at h
    · cases h
      rfl
    · cases h
  · rintro rfl
    split
    · rfl
    · rename_i c hrepeat
      rw [firstRepeat?_eq_none_iff.2 ⟨selection.nodup, fun _ _ => List.not_mem_nil⟩] at hrepeat
      cases hrepeat

theorem ofList_eq_error_iff {classes : List SceneClass} {fault : Fault} :
    ofList classes = .error fault ↔ ∃ before c after, classes = before ++ c :: after ∧
      before.Nodup ∧ c ∈ before ∧ fault = .repeatedClass c.name := by
  have hrepeat : ofList classes = .error fault ↔
      ∃ c, firstRepeat? [] classes = some c ∧ fault = .repeatedClass c.name := by
    unfold ofList
    split
    · rename_i h
      simp [h]
    · rename_i c h
      simp [h, eq_comm]
  rw [hrepeat]
  simp only [firstRepeat?_eq_some_iff, firstRepeat?_eq_none_iff, List.not_mem_nil,
    not_false_eq_true, implies_true, and_true, or_false]
  constructor
  · rintro ⟨c, ⟨before, after, hclasses, hnodup, hc⟩, hfault⟩
    exact ⟨before, c, after, hclasses, hnodup, hc, hfault⟩
  · rintro ⟨before, c, after, hclasses, hnodup, hc, hfault⟩
    exact ⟨c, ⟨before, after, hclasses, hnodup, hc⟩, hfault⟩

theorem size_le (selection : Selection) : selection.size ≤ 12 :=
  (List.subperm_of_subset selection.nodup fun c _ => SceneClass.mem_all c).length_le

/-! ## Reading a list of texts -/

variable {texts : List String} {selection : Selection} {fault : Fault}

theorem parse_eq_ok_iff :
    parse texts = .ok selection ↔
      ∃ parts, List.Forall₂ SpellsClasses texts parts ∧ parts.flatten = selection.classes := by
  unfold parse
  simp only [bind_eq_ok, mapM_eq_ok_iff, expand_eq_ok_iff, ofList_eq_ok_iff]

theorem parse_eq_error_iff :
    parse texts = .error fault ↔
      (∃ before text after, texts = before ++ text :: after ∧
        (∀ t ∈ before, ∃ classes, SpellsClasses t classes) ∧
        (¬ ∃ classes, SpellsClasses text classes) ∧
        fault = spellingFault text) ∨
      ∃ parts before c after, List.Forall₂ SpellsClasses texts parts ∧
        parts.flatten = before ++ c :: after ∧ before.Nodup ∧ c ∈ before ∧
        fault = .repeatedClass c.name := by
  unfold parse
  simp only [bind_eq_error, mapM_eq_error_iff, mapM_eq_ok_iff, expand_eq_ok_iff,
    expand_eq_error_iff, ofList_eq_error_iff]
  simp only [exists_and_left]

/-- A selection is read back from any spellings of its classes. -/
theorem parse_of_spellings (h : List.Forall₂ IsSpelling selection.classes texts) :
    parse texts = .ok selection := by
  rw [parse_eq_ok_iff]
  refine ⟨selection.classes.map fun c => [c], ?_, ?_⟩
  · rw [List.forall₂_map_right_iff]
    refine h.flip.imp ?_
    rintro text c ⟨left, word, right, hleft, hright, htext, hword⟩
    rw [SpellsClasses, htext, trimBlanks_between hleft hright,
      trimBlanks_of_no_blank hword.no_blank]
    exact hword
  · rw [← List.flatMap_def, List.flatMap_singleton']

/-! ## The law -/

/-- Reading accepts just the lists of texts that spell a selection, and keeps
its order: each text is a word for classes between blanks, and no class comes
twice, so there are at most twelve of them. The first text that spells nothing is
the one that is reported, whatever repeats there are. If all of them spell
something, the first class that repeats an earlier one is reported. So a
selection is read back from the names of its classes, in any case, from their
codes, and from both mixed. -/
theorem texts_are_accepted_just_for_a_selection (texts : List String) :
    (∀ selection, parse texts = .ok selection ↔
      ∃ parts, List.Forall₂ SpellsClasses texts parts ∧ parts.flatten = selection.classes) ∧
    ((∃ selection, parse texts = .ok selection) ↔
      ∃ parts, List.Forall₂ SpellsClasses texts parts ∧ parts.flatten.Nodup) ∧
    (∀ selection, parse texts = .ok selection → selection.size ≤ 12) ∧
    (∀ fault, parse texts = .error fault ↔
      (∃ before text after, texts = before ++ text :: after ∧
        (∀ t ∈ before, ∃ classes, SpellsClasses t classes) ∧
        (¬ ∃ classes, SpellsClasses text classes) ∧
        fault = spellingFault text ∧ fault.parameter? = some "classes") ∨
      ∃ parts before c after, List.Forall₂ SpellsClasses texts parts ∧
        parts.flatten = before ++ c :: after ∧ before.Nodup ∧ c ∈ before ∧
        fault = .repeatedClass c.name ∧ fault.parameter? = some "rule_set") ∧
    ∀ selection : Selection, List.Forall₂ IsSpelling selection.classes texts →
      parse texts = .ok selection := by
  refine ⟨fun selection => parse_eq_ok_iff, ?_, fun selection _ => selection.size_le, ?_,
    fun selection => parse_of_spellings⟩
  · constructor
    · rintro ⟨selection, h⟩
      obtain ⟨parts, hparts, hflatten⟩ := parse_eq_ok_iff.1 h
      exact ⟨parts, hparts, hflatten ▸ selection.nodup⟩
    · rintro ⟨parts, hparts, hnodup⟩
      exact ⟨⟨parts.flatten, hnodup⟩, parse_eq_ok_iff.2 ⟨parts, hparts, rfl⟩⟩
  · intro fault
    rw [parse_eq_error_iff]
    refine or_congr ?_ ?_
    · constructor
      · rintro ⟨before, text, after, htexts, hbefore, htext, rfl⟩
        exact ⟨before, text, after, htexts, hbefore, htext, rfl, parameter?_spellingFault text⟩
      · rintro ⟨before, text, after, htexts, hbefore, htext, hfault, -⟩
        exact ⟨before, text, after, htexts, hbefore, htext, hfault⟩
    · constructor
      · rintro ⟨parts, before, c, after, hparts, hflatten, hnodup, hc, rfl⟩
        exact ⟨parts, before, c, after, hparts, hflatten, hnodup, hc, rfl, rfl⟩
      · rintro ⟨parts, before, c, after, hparts, hflatten, hnodup, hc, hfault, -⟩
        exact ⟨parts, before, c, after, hparts, hflatten, hnodup, hc, hfault⟩

/-- A text that spells nothing comes before a repeat in the texts before it. -/
example : parse ["water", "+06 ", "grass"] = .error (.unknownClassName "grass") := by rfl

end Selection

end SceneMask
