-- Tables with one cell for each scene class.
import SceneMask.Json.Basic
import SceneMask.SceneClass

namespace SceneMask

structure PerClass (α : Type) where
  cells : Vector α 12
deriving DecidableEq

namespace PerClass

variable {α β : Type}

def get (table : PerClass α) (c : SceneClass) : α := table.cells[c.code]

def ofFn (value : SceneClass → α) : PerClass α :=
  ⟨.ofFn fun code => value (.ofCode code)⟩

def set (table : PerClass α) (c : SceneClass) (value : α) : PerClass α :=
  ⟨table.cells.set c.code value⟩

def map (f : α → β) (table : PerClass α) : PerClass β := ofFn fun c => f (table.get c)

/-- The cells in the order of the codes. -/
def toList (table : PerClass α) : List α := SceneClass.all.map table.get

/-- An object with the class names as keys, in their order. -/
def toJson (write : α → Json) (table : PerClass α) : Json :=
  .ofMap (.ofList (SceneClass.all.map fun c => (c.name, write (table.get c))))

theorem get_ofFn (value : SceneClass → α) (c : SceneClass) : (ofFn value).get c = value c := by
  simp [get, ofFn, SceneClass.ofCode_code]

theorem get_set (table : PerClass α) (c d : SceneClass) (value : α) :
    (table.set c value).get d = if c = d then value else table.get d := by
  have hcode : (c.code : Nat) = d.code ↔ c = d := by cases c <;> cases d <;> decide
  simp only [get, set, Fin.getElem_fin, Vector.getElem_set, hcode]

end PerClass

end SceneMask
