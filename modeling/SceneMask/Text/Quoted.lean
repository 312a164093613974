-- Texts in double quotes, as messages show them: every character that
-- could mislead the reader is written as an escape.
import SceneMask.Text.Hidden

namespace SceneMask

/-- The digits of a code point in base 16, lower case. -/
def hexDigits (n : Nat) : List Char := Nat.toDigits 16 n

def quoteChar (c : Char) : List Char :=
  if c = '"' then ['\\', '"']
  else if c = '\\' then ['\\', '\\']
  else if c = '\t' then ['\\', 't']
  else if c = '\r' then ['\\', 'r']
  else if c = '\n' then ['\\', 'n']
  else if c.toNat = 0 then ['\\', '0']
  else if isHidden c then ['\\', 'u', '\x7b'] ++ hexDigits c.toNat ++ ['\x7d']
  else [c]

def quoted (s : String) : String :=
  String.ofList ('"' :: (s.toList.flatMap quoteChar ++ ['"']))

/-- Items between brackets, with a comma and a space between two. -/
def bracketed (items : List String) : String := "[" ++ ", ".intercalate items ++ "]"

end SceneMask
