import AsmNotebook.Json.Printer
import AsmNotebook.Output
import AsmNotebook.Processor.Basic
import AsmNotebook.Text.LetterCase

namespace AsmNotebook
namespace Simulator

/-!
Answers of the simulator.  The service reports in several loosely typed shapes;
here every answer becomes one output, with what it says about the processor.
Nothing past this module looks at the documents it sends.
-/

/-- An output with the report on the processor that came with it. -/
structure Execution where
  output : Output
  update : Option ProcessorUpdate
deriving DecidableEq

namespace Execution

/-- An output alone. -/
def plain (output : Output) : Execution where
  output := output
  update := none

end Execution

def executedWithState : String :=
  "Code executed successfully. Check Processor State panel."

def executed : String :=
  "Code executed successfully."

def resetDone : String :=
  "Reset Successful: Processor state has been reset to default values. " ++
    "Check the Processor State panel to see the updated values."

def syntaxHint : String :=
  "Please check your code syntax and try again"

def connectivityHint : String :=
  "Please ensure the backend server is running"

def documentationHint : String :=
  "Valid instructions: MOV, MVI, LDA, STA, ADD, SUB, etc."

def timingHint : String :=
  "Valid instructions: MOV, MVI, ADD, SUB, LDA, STA, etc."

/-- Whether a value counts as true: anything but false, zero, the empty text and null. -/
def truthy : Json → Bool
  | .null => false
  | .bool value => value
  | .number value => !value.isZero
  | .text value => !value.isEmpty
  | .array _ => true
  | .object _ => true

/-- Whether a member is present and counts as true. -/
def truthyAt (name : String) (document : Json) : Bool :=
  match document.get? name with
  | some value => truthy value
  | none => false

/-- Upper-case hexadecimal digits of a number, with zeros in front up to a width. -/
def hexText (width n : Nat) : String :=
  let digits := (Nat.toDigits 16 n).map Char.toUpper
  String.ofList (List.replicate (width - digits.length) '0' ++ digits)

/-- Digits that a register is shown with at least. -/
def registerWidth (name : String) : Nat :=
  if name = "SP" ∨ name = "PC" then 4 else 2

/-- The text of a value shown with a number of digits; integers without sign are hexadecimal and
other numbers have no text. -/
def valueText? (width : Nat) : Json → Option String
  | .number value => value.unsigned?.map (hexText width)
  | other => other.scalarText?

def flagValue : Json → Bool
  | .text value => value == "1" || value == "true" || value == "True"
  | other => truthy other

def registers? (document : Json) : Option (SortedMap String) :=
  document.members?.map fun members =>
    .ofList (members.filterMap fun (name, value) =>
      (valueText? (registerWidth name) value).map fun text => (name, text))

def flags? (document : Json) : Option (SortedMap Bool) :=
  document.members?.map fun members =>
    .ofList (members.map fun (name, value) => (name, flagValue value))

/-- Memory from entries that name their address and value. -/
def memoryOfItems (items : List Json) : SortedMap String :=
  .ofList (items.filterMap fun item => do
    let address ← (item.get? "address").bind Json.scalarText?
    let value ← (item.get? "value").bind (valueText? 2)
    pure (address, value))

/-- Memory from an object with a member an address. -/
def memoryOfMembers (members : List (String × Json)) : SortedMap String :=
  .ofList (members.filterMap fun (address, value) =>
    (valueText? 2 value).map fun text => (address, text))

/-- Memory as an object, a list of entries, or either of them under `data`. -/
def memory? : Json → Option (SortedMap String)
  | .array items => some (memoryOfItems items)
  | .object members =>
    match Json.member? "data" members with
    | some (.array items) => some (memoryOfItems items)
    | some (.object data) => some (memoryOfMembers data)
    | _ => some (memoryOfMembers members)
  | _ => none

/-- A section of a report, if it counts as true. -/
def section? (name : String) (document : Json) : Option Json :=
  (document.get? name).filter truthy

/-- The report on the processor that an object holds, unless it has no section. -/
def processorUpdate? (document : Json) : Option ProcessorUpdate :=
  let update : ProcessorUpdate :=
    { registers := (section? "registers" document).bind registers?
      flags := (section? "flags" document).bind flags?
      memory := (section? "memory" document).bind memory? }
  if update.isEmpty then none else some update

/-- An object member. -/
def objectAt? (name : String) (document : Json) : Option Json :=
  (document.get? name).filter fun value => value.members?.isSome

/-- The report on the processor that an answer holds: in `newState` if that is an object, else in
`state` if that is one, else in the answer itself. -/
def reported? (document : Json) : Option ProcessorUpdate :=
  match objectAt? "newState" document with
  | some state => some ((processorUpdate? state).getD .empty)
  | none =>
    match objectAt? "state" document with
    | some state => some ((processorUpdate? state).getD .empty)
    | none => processorUpdate? document

/-- The failure for an answer that is no document or no object. -/
def serverFailure (code : String) : Output :=
  .fail .server (some "Server Error") "Server error occurred during execution"
    (some
      { kind := none
        instruction := some "Unknown"
        tag := none
        position := some "Unknown"
        line := some code
        hint := some syntaxHint })

/-- The failure for a service that could not be reached. -/
def networkFailure (title message : String) (code : Option String) : Output :=
  .fail .network (some title) message
    (some { FailureDetail.empty with line := code, hint := some connectivityHint })

/-- The title of failures to reach the service while code is executed. -/
def connectionTitle : String :=
  "Connection Error"

def executionFailure (message : Option String) (detail : Option Json) : Output :=
  .fail .domain (some "Execution Error") (message.getD "Execution failed")
    (detail.bind FailureDetail.ofJson?)

/-- A success, with the report on the processor that the answer holds. -/
def succeeded (document : Json) : Execution :=
  match reported? document with
  | some update => { output := .success executedWithState, update := some update }
  | none => .plain (.success executed)

/-- The answer to a request to execute code. -/
def ofExecute (document : Json) (code : String) : Execution :=
  match document.members? with
  | none => .plain (serverFailure code)
  | some _ =>
    if truthyAt "success" document then
      succeeded document
    else
      match document.get? "error" with
      | none => succeeded document
      | some error =>
        if !truthy error then
          succeeded document
        else
          match document.get? "success" with
          | some (.bool false) =>
            .plain (executionFailure ((error.textAt? "message").or error.text?) (some error))
          | _ =>
            .plain (executionFailure (document.textAt? "message") (document.get? "details"))

/-- A value as a field of a table. -/
def cellText : Json → String
  | .null => ""
  | other => other.scalarText?.getD other.compact

/-- The fields of a row.  An object gives the value under each label, or under the label in lower
case; if that leaves nothing to show it gives all its values. -/
def rowCells (labels : List String) : Json → List String
  | .array items => items.map cellText
  | .object members =>
    let byLabel := labels.map fun label =>
      match (Json.member? label members).or (Json.member? (Text.lower label) members) with
      | some value => cellText value
      | none => ""
    if byLabel.all String.isEmpty then members.map fun member => cellText member.2 else byLabel
  | other => [cellText other]

def assemblyTitle : String :=
  "Assembly Error"

/-- The table of an assembled program. -/
def listing? (document : Json) : Option Output := do
  let labels ← (document.get? "label").bind Json.items?
  let rows ← (document.get? "data").bind Json.items?
  let labels := labels.map cellText
  pure (.listing labels (rows.map (rowCells labels)))

/-- The answer to a request to assemble code. -/
def ofAssemble (document : Json) : Output :=
  let refused : Output :=
    .fail .server (some assemblyTitle)
      "Unable to process the assembly code. Please check your syntax and try again." none
  match document.textAt? "status" with
  | some "success" => (listing? document).getD refused
  | some "error" =>
    let details := document.get? "details"
    .fail .domain (some assemblyTitle)
      ((details.bind (Json.textAt? "message")).getD "Assembly failed")
      ((details.bind (Json.get? "details")).bind FailureDetail.ofJson?)
  | _ => refused

/-- The failure that an answer about an instruction reports. -/
def reportedFailure (title message : String) (document : Json) : Output :=
  .fail .domain (some title) ((document.textAt? "message").getD message)
    ((document.get? "details").bind FailureDetail.ofJson?)

def documentationTitle : String :=
  "Documentation Error"

/-- The detail of an instruction that is not known. -/
def instructionDetail (instruction hint : String) : FailureDetail :=
  { FailureDetail.empty with instruction := some instruction, hint := some hint }

/-- The answer to a request for documentation. -/
def ofDocumentation (document : Json) (instruction : String) : Output :=
  if truthyAt "error" document then
    reportedFailure documentationTitle "Documentation request failed" document
  else
    let named := (document.textAt? "instruction").getD instruction
    let missing : Output :=
      .fail .domain (some documentationTitle)
        ("Documentation not found for instruction: " ++ instruction) none
    match document.textAt? "documentation" with
    | none => missing
    | some text =>
      let trimmed := Text.trim text
      if trimmed.isEmpty then
        missing
      else if Text.opensWith "Invalid Instruction" trimmed || Text.holds "not found" trimmed then
        .fail .domain (some documentationTitle) trimmed
          (some (instructionDetail named documentationHint))
      else
        .documentation named (Documentation.parse text)

def timingTitle : String :=
  "Timing Diagram Error"

/-- The answer to a request for a timing diagram. -/
def ofTiming (document : Json) (instruction : String) : Output :=
  if truthyAt "error" document then
    reportedFailure timingTitle "Timing diagram request failed" document
  else
    match document.textAt? "detail" with
    | some detail =>
      .fail .domain (some timingTitle) detail (some (instructionDetail instruction timingHint))
    | none =>
      let missing : Output :=
        .fail .domain (some timingTitle)
          ("Failed to generate timing diagram for: " ++ instruction) none
      match document.textAt? "diagram" with
      | none => missing
      | some image =>
        if image.isEmpty then missing
        else .timing ((document.textAt? "instruction").getD instruction) image

def resetTitle : String :=
  "Reset Error"

/-- The answer to a request to reset the processor. -/
def ofReset (document : Json) : Execution :=
  if truthyAt "success" document then
    { output := .success resetDone
      update := (document.get? "defaultState").bind processorUpdate? }
  else
    .plain (.fail .domain (some resetTitle)
      ("Failed to reset processor: " ++ (document.textAt? "message").getD "Reset failed") none)

end Simulator
end AsmNotebook
