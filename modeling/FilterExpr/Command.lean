import FilterExpr.Call.Json
import FilterExpr.Compile
import FilterExpr.FieldMap

/-!
# FilterExpr.Command

The commands of the tool. Performing a command gives its output or the error that stopped it, and the
events on the way, which are what the log shows.
-/

namespace FilterExpr

inductive Event where
  | loaded (path : String) (count : Nat)
  | compiling (source : String)
  | parsed (call : Call)
  | checked (condition : Condition)
  | rejected (field : String)
  | finished

namespace Event

inductive Level where
  | debug
  | warn
  deriving DecidableEq, Repr

def Level.name : Level → String
  | .debug => "DEBUG"
  | .warn => "WARN"

def level : Event → Level
  | .rejected _ => .warn
  | _ => .debug

def message : Event → String
  | .loaded path count => "loaded field map path=" ++ path ++ " count=" ++ toString count
  | .compiling source => "compiling filter input=" ++ Text.quoted source
  | .parsed call => "parsed filter filter=" ++ call.render
  | .checked condition => "filter passed syntax check filter=" ++ condition.render
  | .rejected field => "field rejected by mapper field=" ++ Text.quoted field
  | .finished => "command finished"

/-- A line of the log. -/
def render (e : Event) : String := e.level.name ++ " " ++ e.message

end Event

inductive Command where
  /-- Lists the tokens. -/
  | tokens (filter : String)
  /-- Shows the checked filter as text or as JSON. -/
  | ast (filter : String) (json : Bool)
  /-- Shows the `WHERE` clause. -/
  | sql (filter : String)
  deriving DecidableEq, Repr

namespace Command

/-- One line for each token, with its class and its content. -/
def tokensOutput (filter : String) : String :=
  String.join ((tokenize filter).map fun t => t.toClass.name ++ " " ++ Text.quoted t.literal ++ "\n")

def astOutput (condition : Condition) (json : Bool) : String :=
  if json then condition.toCall.toJson.pretty else condition.render

def sqlOutput (fragment : String) : String := "WHERE " ++ fragment

/-- Compiles a filter and hands the condition on. -/
def compiling (limit : Nat) (filter : String)
    (use : Condition → List Event × Except FilterError String) :
    List Event × Except FilterError String :=
  match parse filter limit with
  | .error e => ([.compiling filter], .error (.parse e))
  | .ok call =>
    match call.check with
    | .error e => ([.compiling filter, .parsed call], .error (.check e))
    | .ok condition =>
      let (events, result) := use condition
      (.compiling filter :: .parsed call :: .checked condition :: events, result)

/-- The events and the output of a command. -/
def perform (limit : Nat) (mapping : FieldMapping) :
    Command → List Event × Except FilterError String
  | .tokens filter => ([], .ok (tokensOutput filter))
  | .ast filter json => compiling limit filter fun condition => ([], .ok (astOutput condition json))
  | .sql filter =>
    compiling limit filter fun condition =>
      match condition.toSql mapping with
      | .ok fragment => ([], .ok (sqlOutput fragment))
      | .error e => ([.rejected e.field], .error (.mapping e))

/-- The log aside, the clause is that of the fragment for the text. -/
theorem perform_sql (limit : Nat) (mapping : FieldMapping) (filter : String) :
    (perform limit mapping (.sql filter)).2 = (toWhere mapping filter limit).map sqlOutput := by
  have hok : ∀ {ε α : Type} (f : ε → FilterError) (a : α),
      (Except.ok a : Except ε α).mapError f = .ok a := fun _ _ => rfl
  simp only [perform, compiling, toWhere, compile, bind, Except.bind]
  cases parse filter limit with
  | error e => rfl
  | ok call =>
    simp only [hok]
    cases call.check with
    | error e => rfl
    | ok condition =>
      simp only [hok]
      cases condition.toSql mapping <;> rfl

end Command

end FilterExpr
