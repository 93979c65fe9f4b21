import FilterExpr.CommandLine

/-!
# FilterExpr.Main

The program: it hands arguments, environment and files to `CommandLine.run` and prints what comes back.
-/

namespace FilterExpr

/-- The content of a file, if it can be read as text. -/
def readFile? (path : String) : IO (Option String) := do
  try
    return some (← IO.FS.readFile path)
  catch _ =>
    return none

/-- Levels in the log are set flush right. -/
def logLine (e : Event) : String :=
  let level := e.level.name
  String.ofList (List.replicate (5 - level.length) ' ') ++ level ++ " " ++ e.message

def report (o : CommandLine.Outcome) : IO UInt32 := do
  for e in o.log do
    IO.eprintln (logLine e)
  IO.print o.output
  if let some message := o.failure then
    IO.eprintln ("Error: " ++ message)
  if o.exit = 2 then
    IO.eprint CommandLine.helpText
  return o.exit.toUInt32

end FilterExpr

def main (args : List String) : IO UInt32 := do
  let environment ← IO.getEnv "OXIDE_FILTER_FIELDS"
  FilterExpr.report (← FilterExpr.CommandLine.run FilterExpr.readFile? environment args)
