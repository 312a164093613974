-- Selections of scene classes: ordered lists without repeats. An empty
-- selection masks nothing.
import SceneMask.SceneClass

namespace SceneMask

structure Selection where
  classes : List SceneClass
  nodup : classes.Nodup
deriving DecidableEq

namespace Selection

def empty : Selection := ⟨[], List.nodup_nil⟩

/-- The first class that stands in the list a second time; `seen` are the
classes before it. -/
def firstRepeat? (seen : List SceneClass) : List SceneClass → Option SceneClass
  | [] => none
  | c :: rest => if c ∈ seen then some c else firstRepeat? (c :: seen) rest

theorem nodup_of_firstRepeat? {seen cs : List SceneClass} (h : firstRepeat? seen cs = none) :
    cs.Nodup ∧ ∀ c ∈ cs, c ∉ seen := by
  induction cs generalizing seen with
  | nil => simp
  | cons c rest ih =>
    simp only [firstRepeat?] at h
    split at h
    · simp at h
    · rename_i hc
      obtain ⟨hrest, hseen⟩ := ih h
      refine ⟨List.nodup_cons.2 ⟨fun hmem => ?_, hrest⟩, ?_⟩
      · exact hseen c hmem (List.mem_cons_self)
      · intro d hd
        rcases List.mem_cons.1 hd with rfl | hd
        · exact hc
        · exact fun hs => hseen d hd (List.mem_cons_of_mem _ hs)

/-- Selects the classes of a list in its order. -/
def ofList (classes : List SceneClass) : Except Fault Selection :=
  match h : firstRepeat? [] classes with
  | none => .ok ⟨classes, (nodup_of_firstRepeat? h).1⟩
  | some c => .error (.repeatedClass c.name)

def ofGroup : ClassGroup → Selection
  | .arable => ⟨ClassGroup.arable.classes, by decide⟩
  | .clouds => ⟨ClassGroup.clouds.classes, by decide⟩

/-- The classes that one text names: those of a group, or a single one. -/
def expand (text : String) : Except Fault (List SceneClass) :=
  match ClassGroup.parse text with
  | .ok group => .ok group.classes
  | .error _ => (SceneClass.parse text).map fun c => [c]

/-- Selects what a list of texts names, in its order. -/
def parse (texts : List String) : Except Fault Selection := do
  let classes ← texts.mapM expand
  ofList classes.flatten

def isEmpty (selection : Selection) : Bool := selection.classes.isEmpty

def size (selection : Selection) : Nat := selection.classes.length

def contains (selection : Selection) (c : SceneClass) : Bool := decide (c ∈ selection.classes)

/-- The names of the classes, in order. -/
def names (selection : Selection) : List String := selection.classes.map SceneClass.name

end Selection

end SceneMask
