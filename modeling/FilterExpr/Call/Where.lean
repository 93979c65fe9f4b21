import FilterExpr.Condition.Where

/-!
# FilterExpr.Call.Where

Call trees as MySQL `WHERE` fragments. Nothing is known of the tree, so besides a field that the mapping
rejects, a function may be unknown or have the wrong parameters. Names are taken as they are: a function
is known by its name in upper case only.
-/

namespace FilterExpr

/-- Why a tree has no fragment. -/
inductive WhereError where
  | rejected (e : RejectedField)
  | unsupported (function : String)
  | malformed (function : String)
  deriving DecidableEq, Repr

def WhereError.message : WhereError → String
  | .rejected e => e.message
  | .unsupported function => "function [" ++ function ++ "] is not supported by this target"
  | .malformed function => "function [" ++ function ++ "] has malformed parameters"

/-- A value as it stands behind an operator, where a name cannot stand. -/
def Value.sql? : Value → Option String
  | .identifier _ => none
  | .string pattern => some pattern.sql
  | .integer digits => some digits
  | .decimal digits => some digits

/-- The fragment for an operator with the given parameters. The field is looked up before the value is
looked at. -/
def Param.operatorSql (mapping : FieldMapping) (function op : String) :
    List Param → Except WhereError String
  | [.value (.identifier field), .value v] => do
    let column ← (mapping.column field).mapError .rejected
    match v.sql? with
    | some text => return column ++ " " ++ op ++ " " ++ text
    | none => throw (.malformed function)
  | _ => throw (.malformed function)

mutual

/-- The fragment for a tree. The first error from left to right is reported, those of the operands
before a wrong number of them. -/
def Call.toSql (mapping : FieldMapping) : Call → Except WhereError String
  | ⟨name, params⟩ =>
    match Builtin.ofName? name with
    | none => throw (.unsupported name)
    | some .not => do
      match ← Param.operandsSql mapping name params with
      | [inner] => return "NOT(" ++ inner ++ ")"
      | _ => throw (.malformed name)
    | some (.junction j) => do
      match ← Param.operandsSql mapping name params with
      | [left, right] => return "(" ++ left ++ ") " ++ j.name ++ " (" ++ right ++ ")"
      | _ => throw (.malformed name)
    | some (.comparison op) => Param.operatorSql mapping name op.sql params
    | some (.search op) => Param.operatorSql mapping name op.sql params

def Param.operandsSql (mapping : FieldMapping) (function : String) :
    List Param → Except WhereError (List String)
  | [] => return []
  | p :: ps => do
    let operand ← p.operandSql mapping function
    return operand :: (← Param.operandsSql mapping function ps)

def Param.operandSql (mapping : FieldMapping) (function : String) : Param → Except WhereError String
  | .value _ => throw (.malformed function)
  | .call c => c.toSql mapping

end

end FilterExpr
