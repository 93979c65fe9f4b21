import FilterExpr.Call
import FilterExpr.Json

/-!
# FilterExpr.Call.Json

Call trees as JSON. A call is an object with its name and parameters, a value an object with its kind
and content, and a pattern an array of texts and wildcards.
-/

namespace FilterExpr

def Pattern.Part.toJson : Pattern.Part → Json
  | .text chars => .object [("text", .string chars)]
  | .wildcard => .string "wildcard"

def Pattern.toJson (p : Pattern) : Json := .array (p.parts.map Part.toJson)

/-- The content of a value. -/
def Value.contentJson : Value → Json
  | .identifier name => .string name
  | .string pattern => pattern.toJson
  | .integer digits => .string digits
  | .decimal digits => .string digits

def Value.toJson (v : Value) : Json :=
  .object [("kind", .string v.kind.tag), ("value", v.contentJson)]

mutual

def Call.rootJson : Call → Json
  | ⟨name, params⟩ => .object [("name", .string name), ("parameters", .array (Param.listJson params))]

def Param.listJson : List Param → List Json
  | [] => []
  | p :: ps => p.toJson :: Param.listJson ps

def Param.toJson : Param → Json
  | .value v => v.toJson
  | .call c => c.rootJson

end

/-- A filter as JSON. -/
def Call.toJson (c : Call) : Json := .object [("root", c.rootJson)]

end FilterExpr
