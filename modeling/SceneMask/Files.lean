-- The files that a run can read, as a table from names to contents.
import SceneMask.Json.Document
import SceneMask.MaskConfig

namespace SceneMask

abbrev Files := String → Option ByteArray

namespace Files

/-- The path up to its last slash; empty for a file beside the program. -/
def directory (path : String) : String :=
  String.ofList ((path.toList.reverse.dropWhile (· ≠ '/')).drop 1).reverse

/-- The text of a file, if the file is there and is text. -/
def text? (files : Files) (path : String) : Option String :=
  (files path).bind String.fromUTF8?

/-- Reads the text of a file; `doing` says what for. -/
def text (files : Files) (doing path : String) : Except Failure String :=
  during (doing ++ path) ((files.text? path).elim (.error .unreadable) .ok)

/-- Reads a file of JSON; the names say what a failure belongs to. -/
def json (files : Files) (reading parsing path : String) : Except Failure Json := do
  let text ← files.text reading path
  during (parsing ++ path) ((Json.read? text).elim (.error .notJson) .ok)

/-- Reads and checks masking parameters. -/
def maskConfig (files : Files) (path : String) : Except Fault MaskConfig :=
  (files.text? path).elim (.error (.configFile path)) (MaskConfig.parse path)

end Files

end SceneMask
