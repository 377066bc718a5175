import AsmNotebook.Launch

namespace AsmNotebook

/-!
The command line.  Options may stand before or behind the name of a command, and
each is given once on either side; one behind the name counts more.
-/

/-- What a command line asks for. -/
structure Invocation where
  options : LaunchOptions
  mode : Launch.Mode
deriving DecidableEq, Repr

namespace CommandLine

/-- Arguments of a command, as far as they have been read. -/
structure Arguments where
  backendUrl : Option String
  timeoutMs : Option UInt64
  session : Option String
  logLevel : Option String
  json : Bool
  /-- Arguments that are no options. -/
  words : List String
deriving DecidableEq, Repr

namespace Arguments

def none : Arguments where
  backendUrl := .none
  timeoutMs := .none
  session := .none
  logLevel := .none
  json := false
  words := []

/-- A time in decimal digits, with or without a plus sign. -/
def time? (text : String) : Option UInt64 :=
  let digits :=
    match text.toList with
    | '+' :: digits => digits
    | digits => digits
  let value := Web.Host.valueOf 10 digits
  if !digits.isEmpty && digits.all Char.isDigit && value < UInt64.size then some (UInt64.ofNat value)
  else .none

/-- Set an option that takes a value, unless it is unknown, was set before or cannot have the value. -/
def set? (name value : String) (arguments : Arguments) : Option Arguments :=
  match name with
  | "backend-url" =>
    if arguments.backendUrl.isSome then .none
    else some { arguments with backendUrl := some value }
  | "timeout-ms" =>
    if arguments.timeoutMs.isSome then .none
    else (time? value).map fun time => { arguments with timeoutMs := some time }
  | "session" =>
    if arguments.session.isSome || value.isEmpty then .none
    else some { arguments with session := some value }
  | "log-level" =>
    if arguments.logLevel.isSome then .none
    else some { arguments with logLevel := some value }
  | _ => .none

/-- The options of a command line, those behind the command's name before those in front of it. -/
def options (before behind : Arguments) : LaunchOptions where
  backendUrl := behind.backendUrl.or before.backendUrl
  timeoutMs := behind.timeoutMs.or before.timeoutMs
  sessionPath := behind.session.or before.session

end Arguments

/-- An argument of the form of an option. -/
inductive Token
  /-- Everything behind it is no option. -/
  | terminator
  /-- The name of a long option, with its value if it holds one. -/
  | long (name : String) (value : Option String)
  | short
  | word (text : String)
deriving DecidableEq, Repr

def Token.of (argument : String) : Token :=
  match argument.toList with
  | ['-', '-'] => terminator
  | '-' :: '-' :: rest =>
    let (name, value) := Web.Url.splitAtFirst '=' rest
    long (String.ofList name) (value.map String.ofList)
  | '-' :: _ :: _ => short
  | _ => word argument

/-- Whether an argument can be the value of the option in front of it. -/
def isValue (argument : String) : Bool :=
  match Token.of argument with
  | .word _ => true
  | _ => false

/-- Read the arguments in front of a command's name; the result holds the name and what is behind it,
if there is one. -/
def readFront (arguments : Arguments) : List String → Option (Arguments × Option (String × List String))
  | [] => some (arguments, none)
  | argument :: rest =>
    match Token.of argument, rest with
    | .terminator, [] => some (arguments, none)
    | .terminator, _ :: _ => none
    | .long name (some value), rest => do
      let arguments ← arguments.set? name value
      readFront arguments rest
    | .long name none, value :: rest =>
      if isValue value then do
        let arguments ← arguments.set? name value
        readFront arguments rest
      else
        none
    | .long _ none, [] => none
    | .short, _ => none
    | .word text, rest => some (arguments, some (text, rest))

/-- Read the arguments behind a command's name. -/
def readBehind (arguments : Arguments) : List String → Option Arguments
  | [] => some arguments
  | argument :: rest =>
    match Token.of argument, rest with
    | .terminator, rest => some { arguments with words := arguments.words ++ rest }
    | .long "json" none, rest =>
      if arguments.json then none else readBehind { arguments with json := true } rest
    | .long name (some value), rest => do
      let arguments ← arguments.set? name value
      readBehind arguments rest
    | .long name none, value :: rest =>
      if isValue value then do
        let arguments ← arguments.set? name value
        readBehind arguments rest
      else
        none
    | .long _ none, [] => none
    | .short, _ => none
    | .word text, rest => readBehind { arguments with words := arguments.words ++ [text] } rest

/-- What arguments ask for, if they are in order. -/
def parse? (arguments : List String) : Option Invocation := do
  let (before, command) ← readFront .none arguments
  match command with
  | none => pure { options := Arguments.options before .none, mode := .prompt }
  | some (name, rest) =>
    let behind ← readBehind .none rest
    let options := Arguments.options before behind
    match name, behind.words, behind.json with
    | "run", [path], json =>
      if path.isEmpty then none else pure { options := options, mode := .run path json }
    | "health", [], false => pure { options := options, mode := .health }
    | _, _, _ => none

/-- How the program is used. -/
def usage : String :=
  "Usage: notebook [OPTIONS] [run [--json] FILE | health]\n\n" ++
    "Options:\n" ++
    "  --backend-url URL   simulator backend URL\n" ++
    "  --timeout-ms N      per-request timeout in milliseconds\n" ++
    "  --session PATH      notebook session file\n" ++
    "  --log-level LEVEL   log filter\n"

end CommandLine

end AsmNotebook
