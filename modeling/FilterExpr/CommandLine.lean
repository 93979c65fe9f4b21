import FilterExpr.Command
import FilterExpr.Text.Basic

/-!
# FilterExpr.CommandLine

The command line. Options stand before the command, each at most once; the filter stands behind it, and
behind a double dash if it starts with a dash. `CommandLine.request` says what is asked for and
`CommandLine.run` does it, given a way to read files.
-/

namespace FilterExpr.CommandLine

/-- The options before the command. -/
structure Settings where
  fields : Option String := none
  limit : Option Nat := none
  verbose : Bool := false
  deriving DecidableEq, Repr

inductive Request where
  | help
  | version
  | misuse
  | perform (settings : Settings) (command : Command)
  deriving DecidableEq, Repr

/-! ## Options -/

/-- Reads a nesting limit: digits, with or without a plus sign, of a number below `2 ^ 64`. -/
def readLimit? (text : String) : Option Nat :=
  let digits :=
    match text.toList with
    | '+' :: rest => rest
    | cs => cs
  if digits.isEmpty || !digits.all Char.isDigit then none
  else if Text.ofDigits digits < Nat.pow 2 64 then some (Text.ofDigits digits)
  else none

/-- A path is not empty, and is given once. -/
def Settings.setFields? (s : Settings) (path : String) : Option Settings :=
  if s.fields.isSome || path.isEmpty then none else some { s with fields := some path }

def Settings.setLimit? (s : Settings) (text : String) : Option Settings :=
  if s.limit.isSome then none else (readLimit? text).map fun n => { s with limit := some n }

def Settings.setVerbose? (s : Settings) : Option Settings :=
  if s.verbose then none else some { s with verbose := true }

/-- What an argument before the command leads to. -/
inductive Step where
  | go (settings : Settings)
  /-- The next argument is the value of an option. -/
  | await (use : String → Option Settings)
  | stop (request : Request)

def Step.ofSettings? : Option Settings → Step
  | some s => .go s
  | none => .stop .misuse

/-- Reads the letters behind a single dash. -/
def readLetters (s : Settings) : List Char → Step
  | [] => .go s
  | c :: cs =>
    if c = 'v' then
      match s.setVerbose? with
      | some s => readLetters s cs
      | none => .stop .misuse
    else if c = 'f' then
      match cs with
      | [] => .await s.setFields?
      | '=' :: path => .ofSettings? (s.setFields? (String.ofList path))
      | path => .ofSettings? (s.setFields? (String.ofList path))
    else if c = 'h' then .stop .help
    else if c = 'V' then .stop .version
    else .stop .misuse

/-- Reads the word behind a double dash, and the value attached to it. -/
def readWord (s : Settings) (word : List Char) : Step :=
  let name := String.ofList (word.takeWhile (· != '='))
  match word.dropWhile (· != '=') with
  | [] =>
    if name = "fields" then .await s.setFields?
    else if name = "max-depth" then .await s.setLimit?
    else if name = "verbose" then .ofSettings? s.setVerbose?
    else if name = "help" then .stop .help
    else if name = "version" then .stop .version
    else .stop .misuse
  | _ :: value =>
    if name = "fields" then .ofSettings? (s.setFields? (String.ofList value))
    else if name = "max-depth" then .ofSettings? (s.setLimit? (String.ofList value))
    else .stop .misuse

def readOption (s : Settings) (arg : String) : Step :=
  match arg.toList with
  | '-' :: '-' :: word => readWord s word
  | '-' :: c :: cs => readLetters s (c :: cs)
  | _ => .stop .misuse

/-- Whether an argument is read as an option: it starts with a dash and is longer than that. -/
def isOption (arg : String) : Bool :=
  match arg.toList with
  | '-' :: _ :: _ => true
  | _ => false

/-! ## Commands -/

/-- The arguments behind a command: the filter, and whether JSON is asked for. -/
inductive Operands where
  | help
  | misuse
  | given (filter : String) (json : Bool)

/-- Reads the arguments behind a double dash, all of which are filters. -/
def readPlain (filter : Option String) (json : Bool) : List String → Operands
  | [] =>
    match filter with
    | some f => .given f json
    | none => .misuse
  | [arg] =>
    match filter with
    | some _ => .misuse
    | none => .given arg json
  | _ :: _ :: _ => .misuse

/-- Reads the arguments behind a command. Only some commands have the option for JSON. -/
def readOperands (hasJson : Bool) (filter : Option String) (json : Bool) : List String → Operands
  | [] => readPlain filter json []
  | arg :: args =>
    if arg = "--" then readPlain filter json args
    else if arg = "--help" || arg.startsWith "-h" then .help
    else if arg = "--json" then
      if hasJson && !json then readOperands hasJson filter true args else .misuse
    else if isOption arg || filter.isSome then .misuse
    else readOperands hasJson (some arg) json args

/-- The request for a command with the arguments behind it. -/
def commandRequest (s : Settings) (hasJson : Bool) (command : String → Bool → Command)
    (args : List String) : Request :=
  match readOperands hasJson none false args with
  | .help => .help
  | .misuse => .misuse
  | .given filter json => .perform s (command filter json)

/-- The request of a call for help on a command. -/
def helpRequest : List String → Request
  | [] => .help
  | [arg] => if arg ∈ ["tokens", "ast", "sql", "help"] then .help else .misuse
  | _ :: _ :: _ => .misuse

/-- Reads options up to the command, and the command. -/
def readArgs (s : Settings) : List String → Request
  | [] => .misuse
  | arg :: args =>
    if arg = "tokens" then commandRequest s false (fun filter _ => .tokens filter) args
    else if arg = "ast" then commandRequest s true .ast args
    else if arg = "sql" then commandRequest s false (fun filter _ => .sql filter) args
    else if arg = "help" then helpRequest args
    else
      match readOption s arg with
      | .go s => readArgs s args
      | .stop request => request
      | .await use =>
        match args with
        | [] => .misuse
        | value :: args =>
          if isOption value then .misuse
          else
            match use value with
            | some s => readArgs s args
            | none => .misuse

/-- What the arguments ask for. Where they name no field map, the environment may. -/
def request (environment : Option String) (args : List String) : Request :=
  match readArgs {} args with
  | .perform s command =>
    match s.fields, environment with
    | none, some path =>
      match s.setFields? path with
      | some s => .perform s command
      | none => .misuse
    | _, _ => .perform s command
  | r => r

/-! ## Running -/

def helpLines : List String :=
  ["Command-line front end for oxide-filter expressions",
   "",
   "Usage: oxide-filter [OPTIONS] <COMMAND>",
   "",
   "Commands:",
   "  tokens  Print the token stream",
   "  ast     Print the checked filter tree",
   "  sql     Print the MySQL WHERE clause",
   "  help    Print this message or the help of the given subcommand(s)",
   "",
   "Options:",
   "  -f, --fields <FIELDS>        JSON object mapping allowed fields to column names",
   "      --max-depth <MAX_DEPTH>  Deepest allowed function nesting",
   "  -v, --verbose                Enable verbose output",
   "  -h, --help                   Print help",
   "  -V, --version                Print version"]

def helpText : String := String.join (helpLines.map (· ++ "\n"))

def versionText : String := "oxide-filter 0.1.0\n"

/-- What a run leaves: its exit code, what it prints, the events that the log shows, and the message of
the error that ended it. -/
structure Outcome where
  exit : Nat
  output : String
  log : List Event
  failure : Option String

/-- Output ends with a line break. -/
def terminated (output : String) : String :=
  if output.endsWith "\n" then output else output ++ "\n"

/-- The outcome of a command that has been performed. Details are shown only if asked for. -/
def outcome (verbose : Bool) : List Event × Except String String → Outcome
  | (events, .ok output) => ⟨0, terminated output, shown verbose (events ++ [.finished]), none⟩
  | (events, .error message) => ⟨1, "", shown verbose events, some message⟩
where
  shown (verbose : Bool) (events : List Event) : List Event :=
    events.filter fun e => verbose || e.level = .warn

/-- Performs a command with a mapping. The events of loading it come first. -/
def performWith (s : Settings) (loaded : List Event) (mapping : FieldMapping) (command : Command) :
    Outcome :=
  let (events, result) := command.perform (s.limit.getD Parser.defaultLimit) mapping
  outcome s.verbose (loaded ++ events, result.mapError FilterError.message)

/-- The field map in the content of a file, if the file can be read. -/
def loadFields (path : String) : Option String → Except String FieldMap
  | none => .error ("Failed to read field map " ++ path)
  | some text => (FieldMap.ofJson text).mapError fun _ => "Invalid field map " ++ path

/-- Runs the tool. Only the command for the `WHERE` clause reads the field map. -/
def run {m : Type → Type} [Monad m] (readFile : String → m (Option String))
    (environment : Option String) (args : List String) : m Outcome :=
  match request environment args with
  | .help => return ⟨0, helpText, [], none⟩
  | .version => return ⟨0, versionText, [], none⟩
  | .misuse => return ⟨2, "", [], none⟩
  | .perform s command =>
    match command, s.fields with
    | .sql _, some path => do
      match loadFields path (← readFile path) with
      | .error message => return outcome s.verbose ([], .error message)
      | .ok fields => return performWith s [.loaded path fields.size] fields.toMapping command
    | _, _ => return performWith s [] .identity command

end FilterExpr.CommandLine
