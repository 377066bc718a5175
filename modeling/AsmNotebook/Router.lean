import AsmNotebook.Assistant.Basic
import AsmNotebook.Command
import AsmNotebook.Simulator.Answer

namespace AsmNotebook

/-!
Where the text of a cell goes.  Code goes to the simulator; a command is
answered at once or asks the simulator or the assistant.  No text leads to more
than one call, and every text ends in one output.
-/

/-- A call to the simulator or the assistant. -/
inductive ServiceCall
  | execute (code : String)
  | assemble (source : String)
  | reset
  | docs (instruction : String)
  | timing (instruction : String)
  | ask (question : String)
deriving DecidableEq, Repr

/-- What a call is answered with. -/
abbrev ServiceCall.Answer : ServiceCall → Type
  | .execute _ => Simulator.Execution
  | .assemble _ => Output
  | .reset => Simulator.Execution
  | .docs _ => Output
  | .timing _ => Output
  | .ask _ => Except AssistantFault String

/-- The output of a run and what it does to the processor. -/
structure Dispatch where
  output : Output
  effect : Option ProcessorEffect
deriving DecidableEq

namespace Dispatch

/-- An output that leaves the processor alone. -/
def plain (output : Output) : Dispatch where
  output := output
  effect := none

end Dispatch

/-- What a text leads to. -/
inductive Route
  | done (output : Output)
  | call (call : ServiceCall)
deriving DecidableEq

namespace Command

/-- The failure for a command without its argument. -/
def usageFailure (command : Command) : Output :=
  let (placeholder, sample) := command.usage?.getD ("", "")
  .fail .usage (some "Usage Error")
    ("Usage: " ++ command.name ++ " " ++ placeholder ++ "\nExample: " ++ command.name ++ " " ++ sample)
    none

/-- The failure for a name that is no command. -/
def unknownFailure (name : String) : Output :=
  .fail .unknownCommand none
    ("Unknown magic command: " ++ name ++ ". Type " ++ help.name ++
      " for a list of available commands.") none

/-- Where a command with its argument goes. -/
def route (command : Command) (argument : String) : Route :=
  if command.usage?.isSome && argument.isEmpty then
    .done command.usageFailure
  else
    match command with
    | help => .done .help
    | docs => .call (.docs (Text.upper argument))
    | timing => .call (.timing (Text.upper argument))
    | assemble => .call (.assemble argument)
    | ask => .call (.ask argument)
    | reset => .call .reset

end Command

/-- Where the text of a cell goes. -/
def route (content : String) : Route :=
  let trimmed := Text.trim content
  if !Command.isCommand trimmed then
    .call (.execute trimmed)
  else
    let (name, argument) := Command.split trimmed
    match Command.ofName? name with
    | none => .done (Command.unknownFailure name)
    | some command => command.route argument

/-- The output for a question. -/
def outputOfQuestion : Except AssistantFault String → Output
  | .ok text => .answer text
  | .error (.notConfigured provider) =>
    .warning ("API Key Required: AI features require a " ++ provider.display ++
      " API key. Add it to your settings file to enable @ask.")
  | .error (.invalidKey provider) =>
    .warning ("AI Service Error: " ++ (AssistantFault.invalidKey provider).message ++
      "\nPlease configure a valid API key in your settings file.")
  | .error fault => .fail .aiProvider (some "AI Service Error") fault.message none

/-- The end of a run whose call has been answered. -/
def conclude : (call : ServiceCall) → call.Answer → Dispatch
  | .execute _, execution =>
    { output := execution.output
      effect := (execution.update.filter fun update => !update.isEmpty).map .apply }
  | .assemble _, output => .plain output
  | .reset, execution =>
    { output := execution.output
      effect := if execution.output.isFailure then none else some .reset }
  | .docs _, output => .plain output
  | .timing _, output => .plain output
  | .ask _, answer => .plain (outputOfQuestion answer)

end AsmNotebook
