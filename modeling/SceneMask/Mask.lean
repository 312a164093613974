-- Masks, and their compilation into the expressions of the remote
-- service. Its grammar knows `where(condition,then,else)` with conditions
-- of equality only, and divides independent expressions by semicolons.
-- The first selected class is tested first.
import SceneMask.Fill
import SceneMask.Selection
import SceneMask.Target

namespace SceneMask

/-- A selection of classes with its policy, the fill for what the policy
discards, and the band that holds the classes. -/
structure Mask where
  selection : Selection
  policy : Policy
  fill : Fill
  classBand : String := "SCL"

namespace Mask

/-! ## One expression -/

/-- A test for one class. -/
def branch (band matched rest : List Char) (c : SceneClass) : List Char :=
  "where(".toList ++ band ++ "==".toList ++ digits c.code ++ ",".toList ++ matched
    ++ ",".toList ++ rest ++ ")".toList

/-- The tests for all classes around one expression. A selected class
leads to the expression under a whitelist, and to the fill under a
blacklist; what no test matches gets the other one. -/
def wrap (mask : Mask) (piece : List Char) : List Char :=
  let (matched, unmatched) := match mask.policy with
    | .whitelist => (piece, mask.fill.chars)
    | .blacklist => (mask.fill.chars, piece)
  mask.selection.classes.foldr
    (fun c rest => branch mask.classBand.toList matched rest c) unmatched

/-! ## Whole targets -/

/-- The expressions between semicolons, trimmed, without the blank ones. -/
def pieces (text : String) : List (List Char) :=
  ((text.toList.splitOn ';').map trimBlanks).filter fun piece => !piece.isEmpty

/-- Each piece under the mask, with a semicolon after it. -/
def wrapAll (mask : Mask) (pieces : List (List Char)) : String :=
  String.ofList (pieces.flatMap fun piece => mask.wrap piece ++ [';'])

def compilePieces (mask : Mask) (pieces : List (List Char)) : Except Fault Target :=
  if pieces.isEmpty then .error .nothingToMask else .ok (.expression (mask.wrapAll pieces))

/-- Puts a target under a mask. An empty selection leaves it as it is. -/
def compile (mask : Mask) (target : Target) : Except Fault Target :=
  if mask.selection.isEmpty then .ok target
  else if (trim mask.classBand).isEmpty then .error .blankAttribute
  else if !mask.fill.isFinite then .error (.fillWithoutLiteral mask.fill.text)
  else match target with
    | .assets _ => .error .assetsCannotBeMasked
    | .expression text => mask.compilePieces (pieces text)
    | .expressions texts => mask.compilePieces (texts.flatMap pieces)

end Mask

end SceneMask
