-- Images as tagged fields and strips. Covered are plain images: one
-- directory, no compression, and the samples of a pixel side by side.
-- Their samples come out band by band.
import SceneMask.Raster

namespace SceneMask.Tiff

/-! ## Numbers in a file -/

inductive ByteOrder where
  | little
  | big
deriving DecidableEq, Repr

/-- The number that some bytes write. -/
def ByteOrder.number : ByteOrder → List UInt8 → Nat
  | little, bytes => bytes.foldr (fun byte n => byte.toNat + 256 * n) 0
  | big, bytes => bytes.foldl (fun n byte => 256 * n + byte.toNat) 0

structure File where
  order : ByteOrder
  bytes : ByteArray

namespace File

/-- `count` numbers of `size` bytes each, from a place on; absent if they
do not lie inside the file. -/
def numbers? (file : File) (start size count : Nat) : Option (List Nat) :=
  if start + size * count ≤ file.bytes.size then
    some ((List.range count).map fun i =>
      let place := start + size * i
      file.order.number (file.bytes.extract place (place + size)).data.toList)
  else none

def number? (file : File) (start size : Nat) : Option Nat := do
  let numbers ← file.numbers? start size 1
  numbers.head?

end File

/-! ## The directory -/

/-- A field says where its values are. -/
structure Field where
  tag : Nat
  kind : Nat
  count : Nat
  /-- The place of the four bytes that hold the values or their place. -/
  place : Nat
deriving DecidableEq

structure Directory where
  file : File
  fields : List Field

/-- The bytes of one value, for the kinds of unsigned numbers. -/
def valueSize? (kind : Nat) : Option Nat :=
  if kind = 1 then some 1
  else if kind = 3 then some 2
  else if kind = 4 then some 4
  else none

namespace File

def field? (file : File) (start : Nat) : Option Field := do
  return {
    tag := ← file.number? start 2
    kind := ← file.number? (start + 2) 2
    count := ← file.number? (start + 4) 4
    place := start + 8 }

/-- A file opens with its byte order, the number 42 and the place of its
directory. -/
def ofBytes? (bytes : ByteArray) : Option File :=
  match (bytes.extract 0 2).data.toList with
  | [0x49, 0x49] => some ⟨.little, bytes⟩
  | [0x4d, 0x4d] => some ⟨.big, bytes⟩
  | _ => none

def directory? (file : File) : Option Directory := do
  if (← file.number? 2 2) ≠ 42 then none
  let start ← file.number? 4 4
  let count ← file.number? start 2
  let fields ← (List.range count).mapM fun i => file.field? (start + 2 + 12 * i)
  let _next ← file.number? (start + 2 + 12 * count) 4
  return ⟨file, fields⟩

end File

namespace Directory

/-- The values of a tag; none if the directory lacks it, and absent if
they cannot be read. -/
def values? (directory : Directory) (tag : Nat) : Option (List Nat) :=
  match directory.fields.reverse.find? fun field => field.tag = tag with
  | none => some []
  | some field => do
    let size ← valueSize? field.kind
    let start ←
      if size * field.count ≤ 4 then some field.place
      else directory.file.number? field.place 4
    directory.file.numbers? start size field.count

/-- The only value of a tag, or a default. -/
def value? (directory : Directory) (tag fallback : Nat) : Option Nat := do
  match ← directory.values? tag with
  | [] => some fallback
  | [n] => some n
  | _ => none

/-- The value that all entries of a tag share, with their number. -/
def shared? (directory : Directory) (tag fallback : Nat) : Option (Nat × Nat) := do
  match ← directory.values? tag with
  | [] => some (fallback, 1)
  | n :: rest => if rest.all (· = n) then some (n, rest.length + 1) else none

end Directory

/-! ## The layout of an image -/

/-- What the samples of a pixel are. -/
inductive Interpretation where
  | whiteIsZero
  | blackIsZero
  | rgb
  | cmyk
  | luminance
  /-- Known, but of no use as samples. -/
  | other
deriving DecidableEq, Repr

namespace Interpretation

def ofCode? : Nat → Option Interpretation
  | 0 => some whiteIsZero
  | 1 => some blackIsZero
  | 2 => some rgb
  | 5 => some cmyk
  | 6 => some luminance
  | 3 | 4 | 8 => some other
  | _ => none

/-- The samples that a pixel may have. Shades of gray where black is zero
may stand for any bands at all. -/
def fits : Interpretation → Nat → Bool
  | whiteIsZero, samples => samples = 1
  | blackIsZero, _ => true
  | rgb, samples => samples = 3 || samples = 4
  | cmyk, samples => samples = 4 || samples = 5
  | luminance, samples => samples = 3
  | other, _ => false

end Interpretation

structure Layout where
  width : Nat
  height : Nat
  interpretation : Interpretation
  /-- The samples of a pixel. -/
  samples : Nat
  bits : Nat
  /-- 1 for unsigned, 2 for signed and 3 for real samples. -/
  format : Nat
  isCompressed : Bool
  isPlanar : Bool
  rowsPerStrip : Nat
  /-- The place of each strip; its size follows from its rows. -/
  strips : List Nat
deriving DecidableEq

namespace Layout

def ofDirectory? (directory : Directory) : Option Layout := do
  let width ← directory.value? 256 0
  let height ← directory.value? 257 0
  let samples ← directory.value? 277 1
  let rowsPerStrip ← directory.value? 278 height
  if width = 0 || height = 0 || samples = 0 || rowsPerStrip = 0 then none
  let compression ← directory.value? 259 1
  let interpretation ← (← directory.values? 262).head?.bind Interpretation.ofCode?
  let (bits, bitEntries) ← directory.shared? 258 1
  if bitEntries ≠ samples && bitEntries ≠ 1 then none
  let (format, _) ← directory.shared? 339 1
  let planar ← directory.value? 284 1
  if planar ≠ 1 && planar ≠ 2 then none
  let places ← directory.values? 273
  let sizes ← directory.values? 279
  let planes := if planar = 2 then samples else 1
  let strips := (height + rowsPerStrip - 1) / rowsPerStrip * planes
  if places.length ≠ strips || sizes.length ≠ strips then none
  return {
    width
    height
    interpretation
    samples
    bits
    format
    isCompressed := compression ≠ 1
    isPlanar := planar = 2
    rowsPerStrip
    strips := places }

/-- The rows of a strip; the last one may be short. -/
def stripRows (layout : Layout) (strip : Nat) : Nat :=
  min layout.rowsPerStrip (layout.height - strip * layout.rowsPerStrip)

/-- The bit patterns of all samples, pixel by pixel. -/
def patterns? (layout : Layout) (file : File) : Option (List Nat) := do
  let strips ← layout.strips.zipIdx.mapM fun (place, strip) =>
    file.numbers? place (layout.bits / 8)
      (layout.stripRows strip * (layout.width * layout.samples))
  return strips.flatten

end Layout

/-! ## Samples -/

/-- The types of samples that can be read, by their format and bits. The
last three have no type of their own here. -/
def sampleTypes : List ((Nat × Nat) × Option SampleType) :=
  [((1, 8), some (.integer .uint8)), ((1, 16), some (.integer .uint16)),
    ((1, 32), some (.integer .uint32)), ((2, 8), some (.integer .int8)),
    ((2, 16), some (.integer .int16)), ((2, 32), some (.integer .int32)),
    ((3, 32), some .float32), ((3, 64), some .float64),
    ((1, 64), none), ((2, 64), none), ((3, 16), none)]

theorem holds_congruent (t : IntegerType) (pattern : Nat) :
    t.Holds (t.least + ((pattern : Int) - t.least) % (t.greatest - t.least + 1)) := by
  have hpos : 0 < t.greatest - t.least + 1 := by cases t <;> decide
  have hlow := Int.emod_nonneg ((pattern : Int) - t.least) (Int.ne_of_gt hpos)
  have hhigh := Int.emod_lt_of_pos ((pattern : Int) - t.least) hpos
  unfold IntegerType.Holds
  omega

/-- The sample that a bit pattern stands for. An integer is the number of
its type that is congruent to the pattern. -/
def sampleOf : (t : SampleType) → Nat → t.Value
  | .integer t, pattern =>
    ⟨t.least + ((pattern : Int) - t.least) % (t.greatest - t.least + 1),
      holds_congruent t pattern⟩
  | .float32, pattern => Binary.ofBits pattern
  | .float64, pattern => Binary.ofBits pattern

/-- The sample of the opposite shade. Signed samples have none. -/
def invert? : (t : SampleType) → t.Value → Option t.Value
  | .integer t, n =>
    if h : t.least = 0 ∧ t.Holds (t.greatest - n.val) then some ⟨_, h.2⟩ else none
  | .float32, x => some (Binary.sub (.ofNat 1) x)
  | .float64, x => some (Binary.sub (.ofNat 1) x)

/-! ## Bands -/

/-- The first item, and every item `step + 1` places after one of these. -/
def everyNth {α : Type} (step : Nat) : List α → List α
  | [] => []
  | item :: rest => item :: everyNth step (rest.drop step)
termination_by items => items.length

/-- Pixels side by side, as bands one after the other. -/
def deinterleave {α : Type} (samples : Nat) (pixels : List α) : List α :=
  (List.range samples).flatMap fun band => everyNth (samples - 1) (pixels.drop band)

/-! ## Images -/

/-- The samples of an image pixel by pixel, with black as zero. -/
def Layout.pixels? (layout : Layout) (type : SampleType) (patterns : List Nat) :
    Option (List type.Value) :=
  let pixels := patterns.map (sampleOf type)
  if layout.interpretation = .whiteIsZero then pixels.mapM (invert? type) else some pixels

/-- Reads the first image of a file. -/
def read (bytes : ByteArray) : Except Failure Crop := do
  let image? : Option (File × Layout) := do
    let file ← File.ofBytes? bytes
    return (file, ← Layout.ofDirectory? (← file.directory?))
  let (file, layout) ← image?.elim (.error .notTiff) .ok
  if layout.isPlanar then
    throw (.note "planar (band-sequential) TIFF layout is not supported")
  if layout.isCompressed || !layout.interpretation.fits layout.samples then throw .notTiff
  let type? ← (sampleTypes.lookup (layout.format, layout.bits)).elim (.error .notTiff) .ok
  let patterns ← (layout.patterns? file).elim (.error .notTiff) .ok
  let type ← type?.elim
    (.error (.note "unsupported sample format (64-bit integer or 16-bit float)")) .ok
  let pixels ← (layout.pixels? type patterns).elim (.error .notTiff) .ok
  return ⟨⟨type, deinterleave layout.samples pixels⟩,
    [layout.samples, layout.height, layout.width]⟩

end SceneMask.Tiff
