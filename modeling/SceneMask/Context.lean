-- The context that travels with statistics: JSON values under keys. On the
-- command line it is written entry by entry as `key=value`.
import SceneMask.Fault
import SceneMask.Json.Document
import SceneMask.Text.Blank

namespace SceneMask

abbrev Context := KeyMap Json

namespace Context

/-- The value that a text stands for: what it writes as JSON, or else the
text itself. -/
def readValue (text : String) : Json := (Json.read? text).getD (.string text)

/-- Reads an entry; the key ends at the first equals sign. -/
def parseEntry (entry : String) : Except Failure (String × Json) :=
  match entry.toList.span (· ≠ '=') with
  | (key, '=' :: value) => .ok (String.ofList (trimBlanks key), readValue (String.ofList value))
  | _ => .error (.note ("--meta expects KEY=VALUE, got " ++ quoted entry))

/-- Reads entries in turn, so the last one with a key counts. -/
def parse (entries : List String) : Except Failure Context :=
  (entries.mapM parseEntry).map KeyMap.ofList

def ofJson? : Json → Option Context
  | .object entries => some (.ofList entries)
  | _ => none

end Context

end SceneMask
