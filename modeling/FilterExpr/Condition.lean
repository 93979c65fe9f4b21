import FilterExpr.Call
import FilterExpr.Catalog

/-!
# FilterExpr.Condition

Conditions: what a checked filter says. Every condition is the meaning of one call tree in normal form
(`Condition.toCall`), with function names in upper case.
-/

namespace FilterExpr

/-- What a field is compared with. -/
inductive Literal where
  | string (pattern : Pattern)
  | integer (digits : String)
  | decimal (digits : String)
  deriving DecidableEq, Repr

def Literal.toValue : Literal → Value
  | .string pattern => .string pattern
  | .integer digits => .integer digits
  | .decimal digits => .decimal digits

inductive Condition where
  | not (c : Condition)
  | join (j : Junction) (l r : Condition)
  | compare (op : Comparison) (field : String) (value : Literal)
  | search (op : Search) (field : String) (pattern : Pattern)
  deriving DecidableEq, Repr

namespace Condition

/-- The call tree of a condition. -/
def toCall : Condition → Call
  | .not c => ⟨Builtin.not.name, [.call c.toCall]⟩
  | .join j l r => ⟨j.name, [.call l.toCall, .call r.toCall]⟩
  | .compare op field value => ⟨op.name, [.value (.identifier field), .value value.toValue]⟩
  | .search op field pattern => ⟨op.name, [.value (.identifier field), .value (.string pattern)]⟩

/-- The canonical text. -/
def render (c : Condition) : String := c.toCall.render

/-- The fields that are compared, from left to right. -/
def fields : Condition → List String
  | .not c => c.fields
  | .join _ l r => l.fields ++ r.fields
  | .compare _ field _ => [field]
  | .search _ field _ => [field]

end Condition

end FilterExpr
