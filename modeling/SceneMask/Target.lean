-- What a request asks the remote service to evaluate: plain band aliases,
-- or expressions over them.
import SceneMask.Fault
import SceneMask.Json.Record
import SceneMask.Text.Blank

namespace SceneMask

inductive Target where
  /-- Band aliases without any logic of their own. -/
  | assets (names : List String)
  /-- An expression; semicolons divide independent ones. -/
  | expression (text : String)
  /-- Several expressions for one request. -/
  | expressions (texts : List String)
deriving DecidableEq, Repr

namespace Target

/-- The target of a request, which sets either assets or an expression. -/
def ofRequest : Option (List String) → Option String → Except Fault Target
  | some _, some _ => .error .bothTargets
  | none, none => .error .noTarget
  | some names, none => if names.isEmpty then .error .noAssets else .ok (assets names)
  | none, some text =>
    if (trim text).isEmpty then .error .blankExpression else .ok (expression text)

def isAssets : Target → Bool
  | assets _ => true
  | _ => false

/-- The parameters of the request: assets repeat, expressions join. -/
def query : Target → List (String × String)
  | assets names => names.map fun name => ("assets", name)
  | expression text => [("expression", text)]
  | expressions texts => [("expression", ";".intercalate texts)]

/-! ## JSON -/

def toJson : Target → Json
  | assets names => .object [("assets", .strings names)]
  | expression text => .object [("expression", .string text)]
  | expressions texts => .object [("expressions", .strings texts)]

def ofDocument? (document : Document) : Option Target := do
  let (kind, content) ← document.single?
  if kind = "assets" then (content.list? Document.text?).map assets
  else if kind = "expression" then content.text?.map expression
  else if kind = "expressions" then (content.list? Document.text?).map expressions
  else none

end Target

end SceneMask
