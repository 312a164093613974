-- Statistics records: the measures of one expression over a feature, and
-- the histogram of its values. They come out of the responses of the
-- statistics service.
import SceneMask.Fault
import SceneMask.Json.Printer
import SceneMask.Json.Record

namespace SceneMask

/-! ## Measures -/

inductive Measure where
  | min
  | max
  | mean
  | count
  | sum
  | std
  | median
  | majority
  | minority
  | unique
  | validPercent
  | maskedPixels
  | validPixels
  | percentile2
  | percentile98
  | whitelistPixels
  | whitelistPercent
deriving DecidableEq, Repr

namespace Measure

def all : List Measure :=
  [min, max, mean, count, sum, std, median, majority, minority, unique, validPercent,
    maskedPixels, validPixels, percentile2, percentile98, whitelistPixels, whitelistPercent]

def name : Measure → String
  | min => "min"
  | max => "max"
  | mean => "mean"
  | count => "count"
  | sum => "sum"
  | std => "std"
  | median => "median"
  | majority => "majority"
  | minority => "minority"
  | unique => "unique"
  | validPercent => "valid_percent"
  | maskedPixels => "masked_pixels"
  | validPixels => "valid_pixels"
  | percentile2 => "percentile_2"
  | percentile98 => "percentile_98"
  | whitelistPixels => "whitelist_pixels"
  | whitelistPercent => "whitelist_pct"

theorem mem_all (m : Measure) : m ∈ all := by cases m <;> decide

end Measure

/-! ## Records -/

/-- Counts and the values that they count, side by side. -/
structure ValueHistogram where
  counts : List Double
  labels : List Double
deriving DecidableEq

namespace ValueHistogram

def toJson (histogram : ValueHistogram) : Json :=
  .array [.array (histogram.counts.map .real), .array (histogram.labels.map .real)]

def ofDocument? : Document → Option ValueHistogram
  | .array [counts, labels] => do
    return ⟨← counts.list? Document.double?, ← labels.list? Document.double?⟩
  | _ => none

end ValueHistogram

/-- A record may lack any of its measures. -/
structure Statistics where
  value : Measure → Option Double
  histogram : Option ValueHistogram

namespace Statistics

/-- The record of a response that never came. -/
def blank : Statistics := ⟨fun _ => none, none⟩

def set (record : Statistics) (measure : Measure) (value : Double) : Statistics :=
  { record with value := fun m => if m = measure then some value else record.value m }

def dropHistogram (record : Statistics) : Statistics := { record with histogram := none }

/-! ## JSON -/

def fieldNames : List String := Measure.all.map Measure.name ++ ["histogram"]

/-- The fields in order; the histogram is left out where there is none. -/
def fields (record : Statistics) : List (String × Json) :=
  Measure.all.map (fun m => (m.name, .ofOption .real (record.value m)))
    ++ record.histogram.toList.map fun histogram => ("histogram", histogram.toJson)

def toJson (record : Statistics) : Json := .object record.fields

def ofDocument? (document : Document) : Option Statistics := do
  let fields ← document.fields? fieldNames
  let values ← Measure.all.mapM fun m =>
    (fields.optional? m.name (Document.nullable? Document.double?) none).map fun x => (m, x)
  let histogram ←
    fields.optional? "histogram" (Document.nullable? ValueHistogram.ofDocument?) none
  return ⟨fun m => (values.lookup m).join, histogram⟩

/-! ## Fields of an entry -/

/-- What a value is, as messages name it. -/
def kindOf : Json → String
  | .null => "null"
  | .bool b => "boolean `" ++ (if b then "true" else "false") ++ "`"
  | .number (.whole n _) => "integer `" ++ String.ofList (showInt n) ++ "`"
  | .number (.real x _) => "floating point `" ++ String.ofList (Json.realText x) ++ "`"
  | .string s => "string " ++ quoted s
  | .array _ => "sequence"
  | .object _ => "map"

def wrongKind (json : Json) (expected : String) : String :=
  "invalid type: " ++ kindOf json ++ ", expected " ++ expected

def readDouble : Json → Except String Double
  | .number n => .ok n.toDouble
  | json => .error (wrongKind json "f64")

def readMeasure : Json → Except String (Option Double)
  | .null => .ok none
  | json => (readDouble json).map some

def readHalf : Json → Except String (List Double)
  | .array items => items.mapM readDouble
  | json => .error (wrongKind json "a sequence")

/-- Two lists of numbers. The first fault in reading order is reported, so
a surplus of lists comes last. -/
def readPair : Json → Except String ValueHistogram
  | .array [] => .error "invalid length 0, expected a tuple of size 2"
  | .array [counts] => do
    let _ ← readHalf counts
    throw "invalid length 1, expected a tuple of size 2"
  | .array (counts :: labels :: more) => do
    let counts ← readHalf counts
    let labels ← readHalf labels
    if !more.isEmpty then
      throw ("invalid length " ++ showNat (more.length + 2)
        ++ ", expected fewer elements in array")
    return ⟨counts, labels⟩
  | json => .error (wrongKind json "a tuple of size 2")

def readHistogram : Json → Except String (Option ValueHistogram)
  | .null => .ok none
  | json => (readPair json).map some

/-- Takes one entry into a record; keys that name no field do not count. -/
def readField (record : Statistics) (entry : String × Json) : Except String Statistics :=
  match Measure.all.find? fun m => m.name = entry.1 with
  | some measure => do
    let x ← readMeasure entry.2
    return { record with value := fun m => if m = measure then x else record.value m }
  | none =>
    if entry.1 = "histogram" then do
      return { record with histogram := ← readHistogram entry.2 }
    else .ok record

/-- The record of an entry, read key by key. -/
def readFields (entries : List (String × Json)) : Except String Statistics :=
  entries.foldlM readField blank

/-! ## Responses -/

/-- The statistics of a response: its own ones, or those of its first
feature. -/
def statistics? (response : Json) : Option Json :=
  (response.get? "statistics").or
    (response.path? ["features", "0", "properties", "statistics"])

/-- The record of a response, which has to hold a single entry. -/
def parse (response : Json) : Except Fault Statistics :=
  match statistics? response with
  | none => .error (.missingKey "statistics")
  | some (.object []) => .error (.missingKey "statistics.<expression>")
  | some (.object [(name, .object fields)]) =>
    (readFields fields).mapError (.badEntry name)
  | some (.object [(name, _)]) => .error (.entryNotObject name)
  | some (.object entries) => .error (.severalEntries (entries.map Prod.fst))
  | some _ => .error .statisticsNotObject

end Statistics

end SceneMask
