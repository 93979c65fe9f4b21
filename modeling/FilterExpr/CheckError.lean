import FilterExpr.Value

/-!
# FilterExpr.CheckError

Why a call tree is no condition. Each cause names the function at fault in upper case. Positions of
parameters are counted from one.
-/

namespace FilterExpr

inductive CheckError where
  | unknownFunction (name : String)
  | arity (function : String) (expected found : Nat)
  /-- A value stands where a condition has to. -/
  | expectedFunction (function : String) (position : Nat)
  /-- A call stands where a field or a value has to. -/
  | expectedValue (function : String) (position : Nat)
  /-- A value that is no name stands where the field has to. -/
  | expectedField (function : String) (found : Value.Kind)
  /-- A name stands where the value has to. -/
  | unexpectedIdentifier (function : String)
  /-- A number stands where quoted text has to. -/
  | expectedString (function : String) (found : Value.Kind)
  deriving DecidableEq, Repr

namespace CheckError

/-- How messages refer to a parameter of a function. -/
def place (function : String) (position : Nat) : String :=
  "function [" ++ function ++ "] parameter " ++ toString position

def message : CheckError → String
  | .unknownFunction name => "function [" ++ name ++ "] is not recognized"
  | .arity function expected found =>
    "function [" ++ function ++ "] should have " ++ toString expected ++
      (if expected = 1 then " parameter" else " parameters") ++ ", found " ++ toString found
  | .expectedFunction function position => place function position ++ " should be a function"
  | .expectedValue function position => place function position ++ " should be a value"
  | .expectedField function found =>
    place function 1 ++ " should be a field identifier, not " ++ found.name
  | .unexpectedIdentifier function => place function 2 ++ " should not be an identifier"
  | .expectedString function found => place function 2 ++ " should be a string, not " ++ found.name

end CheckError

end FilterExpr
