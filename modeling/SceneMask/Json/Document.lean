-- JSON texts. A text is read into a document first, which keeps repeated
-- keys and does not mind a numeral or a string that has no value. A value
-- is then taken from the document where the program looks at it, so what
-- it does not look at only has to be well formed.
import SceneMask.Json.Number

namespace SceneMask

/-- The shape of a JSON text. A string with a lone surrogate and a numeral
out of range are there without content. -/
inductive Document where
  | null
  | bool (value : Bool)
  | number (value : Option JsonNumber)
  | string (content : Option String)
  | array (items : List Document)
  | object (entries : List (Option String × Document))

namespace Document

/-! ## Strings -/

/-- A piece of a string: a character, or a code unit written as an
escape. -/
inductive Piece where
  | char (c : Char)
  | unit (code : Nat)
deriving DecidableEq

def hexDigit? (c : Char) : Option Nat :=
  if c.isDigit then some (c.toNat - '0'.toNat)
  else if 'a' ≤ c && c ≤ 'f' then some (c.toNat - 'a'.toNat + 10)
  else if 'A' ≤ c && c ≤ 'F' then some (c.toNat - 'A'.toNat + 10)
  else none

def codeUnit? (a b c d : Char) : Option Nat := do
  let a ← hexDigit? a
  let b ← hexDigit? b
  let c ← hexDigit? c
  let d ← hexDigit? d
  return ((a * 16 + b) * 16 + c) * 16 + d

def shortEscape? : Char → Option Char
  | '"' => some '"'
  | '\\' => some '\\'
  | '/' => some '/'
  | 'b' => some '\x08'
  | 'f' => some '\x0c'
  | 'n' => some '\n'
  | 'r' => some '\r'
  | 't' => some '\t'
  | _ => none

/-- Reads up to the closing quote; `done` holds the pieces so far, the
last one first. Control characters stand only as escapes. -/
def scanPieces? (done : List Piece) : List Char → Option (List Piece × List Char)
  | [] => none
  | '"' :: rest => some (done.reverse, rest)
  | '\\' :: 'u' :: a :: b :: c :: d :: rest =>
    match codeUnit? a b c d with
    | some code => scanPieces? (.unit code :: done) rest
    | none => none
  | '\\' :: c :: rest =>
    match shortEscape? c with
    | some c => scanPieces? (.char c :: done) rest
    | none => none
  | c :: rest => if c.toNat < 0x20 then none else scanPieces? (.char c :: done) rest

def isHighSurrogate (code : Nat) : Bool := 0xD800 ≤ code && code ≤ 0xDBFF

def isLowSurrogate (code : Nat) : Bool := 0xDC00 ≤ code && code ≤ 0xDFFF

/-- The characters of the pieces; absent if a surrogate stands alone. -/
def joinPieces? : List Piece → Option (List Char)
  | [] => some []
  | .char c :: rest => (joinPieces? rest).map (c :: ·)
  | .unit high :: .unit low :: rest =>
    if isHighSurrogate high then
      if isLowSurrogate low then
        (joinPieces? rest).map
          (Char.ofNat (0x10000 + (high - 0xD800) * 0x400 + (low - 0xDC00)) :: ·)
      else none
    else if isLowSurrogate high then none
    else (joinPieces? (.unit low :: rest)).map (Char.ofNat high :: ·)
  | .unit code :: rest =>
    if isHighSurrogate code || isLowSurrogate code then none
    else (joinPieces? rest).map (Char.ofNat code :: ·)

/-- The string whose opening quote has been read. -/
def scanString? (cs : List Char) : Option (Option String × List Char) :=
  (scanPieces? [] cs).map fun (pieces, rest) => ((joinPieces? pieces).map String.ofList, rest)

/-! ## Values -/

def isSpace (c : Char) : Bool := c = ' ' || c = '\n' || c = '\r' || c = '\t'

def skipSpace (cs : List Char) : List Char := cs.dropWhile isSpace

mutual

/-- The value at the front of a text, and what follows it. The bound is
larger than any nesting and any row of items in the text. -/
def scanValue? : Nat → List Char → Option (Document × List Char)
  | 0, _ => none
  | bound + 1, cs =>
    match skipSpace cs with
    | 'n' :: 'u' :: 'l' :: 'l' :: rest => some (null, rest)
    | 't' :: 'r' :: 'u' :: 'e' :: rest => some (bool true, rest)
    | 'f' :: 'a' :: 'l' :: 's' :: 'e' :: rest => some (bool false, rest)
    | '"' :: rest => (scanString? rest).map fun (content, rest) => (string content, rest)
    | '[' :: rest =>
      match skipSpace rest with
      | ']' :: rest => some (array [], rest)
      | rest => scanItems? bound [] rest
    | '\x7b' :: rest =>
      match skipSpace rest with
      | '\x7d' :: rest => some (object [], rest)
      | rest => scanEntries? bound [] rest
    | rest => (Numeral.scan? rest).map fun (numeral, rest) => (number numeral.value?, rest)

/-- The items of an array up to its closing bracket. -/
def scanItems? : Nat → List Document → List Char → Option (Document × List Char)
  | 0, _, _ => none
  | bound + 1, done, cs =>
    match scanValue? bound cs with
    | none => none
    | some (item, rest) =>
      match skipSpace rest with
      | ',' :: rest => scanItems? bound (item :: done) rest
      | ']' :: rest => some (array (item :: done).reverse, rest)
      | _ => none

/-- The entries of an object up to its closing brace. -/
def scanEntries? : Nat → List (Option String × Document) → List Char →
    Option (Document × List Char)
  | 0, _, _ => none
  | bound + 1, done, cs =>
    match skipSpace cs with
    | '"' :: rest =>
      match scanString? rest with
      | none => none
      | some (key, rest) =>
        match skipSpace rest with
        | ':' :: rest =>
          match scanValue? bound rest with
          | none => none
          | some (value, rest) =>
            match skipSpace rest with
            | ',' :: rest => scanEntries? bound ((key, value) :: done) rest
            | '\x7d' :: rest => some (object ((key, value) :: done).reverse, rest)
            | _ => none
        | _ => none
    | _ => none

end

/-- Reads a whole text: one value with nothing but space around it. -/
def read? (text : String) : Option Document :=
  let cs := text.toList
  match scanValue? (2 * cs.length + 2) cs with
  | some (document, rest) => if (skipSpace rest).isEmpty then some document else none
  | none => none

/-! ## From documents to JSON values -/

/-- How deep arrays and objects may be nested. -/
def depthLimit : Nat := 127

mutual

/-- The value of a document. All strings and numerals in it must have
content, and of repeated keys the last one counts. -/
def value? : Nat → Document → Option Json
  | _, null => some .null
  | _, bool b => some (.bool b)
  | _, number n => n.map .number
  | _, string s => s.map .string
  | 0, array _ => none
  | depth + 1, array items => (values? depth items).map .array
  | 0, object _ => none
  | depth + 1, object entries =>
    (entryValues? depth entries).map fun entries => .ofMap (.ofList entries)

def values? : Nat → List Document → Option (List Json)
  | _, [] => some []
  | depth, item :: rest =>
    match value? depth item, values? depth rest with
    | some json, some more => some (json :: more)
    | _, _ => none

def entryValues? : Nat → List (Option String × Document) → Option (List (String × Json))
  | _, [] => some []
  | depth, (key, item) :: rest =>
    match key, value? depth item, entryValues? depth rest with
    | some key, some json, some more => some ((key, json) :: more)
    | _, _, _ => none

end

end Document

/-- The value that a text writes. -/
def Json.read? (text : String) : Option Json :=
  (Document.read? text).bind (Document.value? Document.depthLimit)

end SceneMask
