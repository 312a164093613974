-- The twelve classes of a scene classification, their codes, names and
-- named groups, and the policy that says what a selection of them is for.
import SceneMask.Fault
import SceneMask.Number.Arithmetic
import SceneMask.Text.Blank

namespace SceneMask

/-! ## Classes -/

/-- A class of a scene classification band, in the order of its codes. -/
inductive SceneClass where
  | noData
  | saturatedOrDefective
  | castShadows
  | cloudShadows
  | vegetation
  | bareSoil
  | water
  | unclassified
  | cloudMediumProbability
  | cloudHighProbability
  | thinCirrus
  | snowOrIce
deriving DecidableEq, Repr

namespace SceneClass

/-- Every class, in the order of the codes. -/
def all : List SceneClass :=
  [noData, saturatedOrDefective, castShadows, cloudShadows, vegetation, bareSoil, water,
    unclassified, cloudMediumProbability, cloudHighProbability, thinCirrus, snowOrIce]

def code : SceneClass → Fin 12
  | noData => 0
  | saturatedOrDefective => 1
  | castShadows => 2
  | cloudShadows => 3
  | vegetation => 4
  | bareSoil => 5
  | water => 6
  | unclassified => 7
  | cloudMediumProbability => 8
  | cloudHighProbability => 9
  | thinCirrus => 10
  | snowOrIce => 11

def ofCode (code : Fin 12) : SceneClass := all.get code

def ofCode? (code : Nat) : Option SceneClass := all[code]?

/-- The class that a sample of the band stands for. Samples with a
fraction and samples outside the codes stand for none. -/
def ofSample? (sample : Double) : Option SceneClass :=
  if sample.isWhole && 0 ≤ sample.truncate then ofCode? sample.truncate.toNat else none

def name : SceneClass → String
  | noData => "NO_DATA"
  | saturatedOrDefective => "SATURATED_OR_DEFECTIVE"
  | castShadows => "CAST_SHADOWS"
  | cloudShadows => "CLOUD_SHADOWS"
  | vegetation => "VEGETATION"
  | bareSoil => "BARE_SOIL"
  | water => "WATER"
  | unclassified => "UNCLASSIFIED"
  | cloudMediumProbability => "CLOUD_MEDIUM_PROBABILITY"
  | cloudHighProbability => "CLOUD_HIGH_PROBABILITY"
  | thinCirrus => "THIN_CIRRUS"
  | snowOrIce => "SNOW_OR_ICE"

/-- The class of exactly that name. -/
def ofName? (name : String) : Option SceneClass := all.find? fun c => c.name = name

/-- Reads a code, or a name in any case of letters. -/
def parse (text : String) : Except Fault SceneClass :=
  let text := trim text
  match readNat? 255 text.toList with
  | some code => (ofCode? code).elim (.error (.unknownClassCode code)) .ok
  | none => (ofName? (uppercase text)).elim (.error (.unknownClassName text)) .ok

theorem ofCode_code (c : SceneClass) : ofCode c.code = c := by cases c <;> rfl

theorem ofCode?_code (c : SceneClass) : ofCode? c.code = some c := by cases c <;> rfl

theorem ofName?_name (c : SceneClass) : ofName? c.name = some c := by cases c <;> decide

end SceneClass

/-! ## Groups of classes -/

inductive ClassGroup where
  | arable
  | clouds
deriving DecidableEq, Repr

namespace ClassGroup

def all : List ClassGroup := [arable, clouds]

def name : ClassGroup → String
  | arable => "ARABLE"
  | clouds => "CLOUDS"

def classes : ClassGroup → List SceneClass
  | arable => [.vegetation, .bareSoil]
  | clouds =>
    [.castShadows, .cloudShadows, .cloudMediumProbability, .cloudHighProbability, .thinCirrus]

def ofName? (name : String) : Option ClassGroup := all.find? fun g => g.name = name

/-- Reads a name in any case of letters. -/
def parse (text : String) : Except Fault ClassGroup :=
  let name := uppercase (trim text)
  (ofName? name).elim (.error (.unknownClassGroup name)) .ok

end ClassGroup

/-! ## Policies -/

/-- Whether the selected classes are kept or discarded. -/
inductive Policy where
  | whitelist
  | blacklist
deriving DecidableEq, Repr

namespace Policy

instance : Inhabited Policy := ⟨whitelist⟩

def ofWhitelist (keepsSelected : Bool) : Policy := if keepsSelected then whitelist else blacklist

def name : Policy → String
  | whitelist => "whitelist"
  | blacklist => "blacklist"

def ofName? (name : String) : Option Policy :=
  [whitelist, blacklist].find? fun p => p.name = name

/-- Reads a name in any case of letters. -/
def parse (text : String) : Except Fault Policy :=
  let name := lowercase (trim text)
  (ofName? name).elim (.error (.unknownPolicy name)) .ok

/-- The policy keeps a pixel, by whether its class is selected. -/
def keeps : Policy → Bool → Bool
  | whitelist, selected => selected
  | blacklist, selected => !selected

end Policy

end SceneMask
