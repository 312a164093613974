-- White space: the characters with the Unicode property White_Space, and
-- the trimming of them from both ends of a text.

namespace SceneMask

/-- The ranges of the property White_Space. -/
def blankRanges : List (Nat × Nat) :=
  [(0x9, 0xD), (0x20, 0x20), (0x85, 0x85), (0xA0, 0xA0), (0x1680, 0x1680), (0x2000, 0x200A),
    (0x2028, 0x2029), (0x202F, 0x202F), (0x205F, 0x205F), (0x3000, 0x3000)]

def isBlank (c : Char) : Bool := blankRanges.any fun (least, greatest) =>
  least ≤ c.toNat && c.toNat ≤ greatest

/-- The text without the blanks at either end. -/
def trimBlanks (cs : List Char) : List Char :=
  (((cs.dropWhile isBlank).reverse).dropWhile isBlank).reverse

def trim (s : String) : String := String.ofList (trimBlanks s.toList)

/-- Letters A to Z in lower case; all else stays. -/
def lowercase (s : String) : String := String.ofList (s.toList.map Char.toLower)

/-- Letters a to z in upper case; all else stays. -/
def uppercase (s : String) : String := String.ofList (s.toList.map Char.toUpper)

end SceneMask
