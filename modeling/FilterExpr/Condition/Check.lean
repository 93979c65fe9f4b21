import FilterExpr.CheckError
import FilterExpr.Condition
import FilterExpr.Text.Name

/-!
# FilterExpr.Condition.Check

Checking a call tree against the catalogue. `Call.inspect` walks the tree from the root down and from
left to right and stops at the first call that breaks a rule. On the way it puts names in upper case
and fields in lower case; it returns the tree as far as it got with that, and the condition that the
tree stands for or the error.
-/

namespace FilterExpr

namespace Call

/-- The field that the first parameter of `function` names. -/
def fieldOf (function : String) : Param → Except CheckError String
  | .value (.identifier name) => .ok (Text.lowerField name)
  | .value v => .error (.expectedField function v.kind)
  | .call _ => .error (.expectedValue function 1)

/-- The literal that is the second parameter of `function`. -/
def literalOf (function : String) : Param → Except CheckError Literal
  | .value (.identifier _) => .error (.unexpectedIdentifier function)
  | .value (.string pattern) => .ok (.string pattern)
  | .value (.integer digits) => .ok (.integer digits)
  | .value (.decimal digits) => .ok (.decimal digits)
  | .call _ => .error (.expectedValue function 2)

/-- The pattern that is the second parameter of `function`. -/
def patternOf (function : String) (p : Param) : Except CheckError Pattern :=
  match literalOf function p with
  | .ok (.string pattern) => .ok pattern
  | .ok literal => .error (.expectedString function literal.toValue.kind)
  | .error e => .error e

/-- Checks a call of `function` on a field and a value, from which `condition` makes the result. The
field is in lower case before the value is looked at. -/
def inspectOperator (function : String) (condition : String → Except CheckError Condition)
    (field value : Param) : Call × Except CheckError Condition :=
  match fieldOf function field with
  | .ok name => (⟨function, [.value (.identifier name), value]⟩, condition name)
  | .error e => (⟨function, [field, value]⟩, .error e)

/-- The tree with the normal forms that the check has reached, and its result. -/
def inspect : Call → Call × Except CheckError Condition
  | ⟨given, params⟩ =>
    let name := Text.upperName given
    match Builtin.ofName? name with
    | none => (⟨name, params⟩, .error (.unknownFunction name))
    | some f =>
      match f, params with
      | .not, [.call c] =>
        let (c', result) := inspect c
        (⟨name, [.call c']⟩, result.map .not)
      | .not, [.value v] => (⟨name, [.value v]⟩, .error (.expectedFunction name 1))
      | .junction j, [.call l, .call r] =>
        match inspect l with
        | (l', .error e) => (⟨name, [.call l', .call r]⟩, .error e)
        | (l', .ok cl) =>
          let (r', result) := inspect r
          (⟨name, [.call l', .call r']⟩, result.map (.join j cl))
      | .junction _, [.value v, p] => (⟨name, [.value v, p]⟩, .error (.expectedFunction name 1))
      | .junction _, [.call c, .value v] =>
        (⟨name, [.call c, .value v]⟩, .error (.expectedFunction name 2))
      | .comparison op, [p, q] =>
        inspectOperator name (fun field => (literalOf name q).map (.compare op field)) p q
      | .search op, [p, q] =>
        inspectOperator name (fun field => (patternOf name q).map (.search op field)) p q
      | f, params => (⟨name, params⟩, .error (.arity name f.arity params.length))
termination_by structural c => c

/-- The condition that a call tree stands for. -/
def check (c : Call) : Except CheckError Condition := c.inspect.2

/-- The first error of a call tree, if it has one, and the tree as far as names and fields have been
put in normal form. -/
def verify (c : Call) : Call × Except CheckError Unit := (c.inspect.1, c.inspect.2.map fun _ => ())

end Call

end FilterExpr
