import AsmNotebook.Command
import AsmNotebook.Output
import AsmNotebook.Processor.Basic
import AsmNotebook.Render.Table

namespace AsmNotebook
namespace Render

/-!
Outputs and the processor as plain text.
-/

/-- A text and the end of its line. -/
def line (text : String) : String :=
  text ++ "\n"

/-- A name and a value, if there is one. -/
def optionalLine (name : String) (value : Option String) : String :=
  match value with
  | some value => line ("  " ++ name ++ ": " ++ value)
  | none => ""

def failureDetail (detail : FailureDetail) : String :=
  optionalLine "type" detail.kind ++ optionalLine "instruction" detail.instruction ++
    optionalLine "tag" detail.tag ++ optionalLine "position" detail.position ++
    optionalLine "line" detail.line ++ optionalLine "hint" detail.hint

def failure (f : Failure) : String :=
  let head :=
    match f.title with
    | some title => line ("error: " ++ title ++ ": " ++ f.message)
    | none => line ("error: " ++ f.message)
  let detail :=
    match f.detail with
    | some detail => failureDetail detail
    | none => ""
  let explanation :=
    match f.explanation with
    | some explanation => line ("\nexplanation:\n" ++ Text.trimEnd explanation)
    | none => ""
  head ++ detail ++ explanation

/-- A titled list of lines; nothing if there are none. -/
def titled (title : String) (lines : List String) : String :=
  if lines.isEmpty then ""
  else line ("\n" ++ title ++ ":") ++ String.join (lines.map fun text => line ("  " ++ text))

def documentation (instruction : String) (sections : Documentation) : String :=
  line instruction ++
    (if sections.description.isEmpty then "" else line ("  " ++ sections.description)) ++
    titled "Args" sections.args ++ titled "Raises" sections.raises ++
    titled "Notes" sections.notes ++ titled "Example" sections.examples

/-- The table of an assembled program; the labels are its first row, if there are any. -/
def listing (labels : List String) (rows : List (List String)) : String :=
  table (if labels.isEmpty then rows else labels :: rows)

/-- A text filled up with blanks to a number of characters. -/
def filled (width : Nat) (text : String) : String :=
  text ++ String.ofList (List.replicate (width - text.length) ' ')

def commandHelp (command : Command) : String :=
  match command.usage? with
  | some (placeholder, sample) =>
    line ("  " ++ filled 26 (command.name ++ " " ++ placeholder) ++ " " ++ command.description) ++
      line ("  " ++ filled 26 "" ++ " e.g. " ++ command.name ++ " " ++ sample)
  | none => line ("  " ++ filled 26 command.name ++ " " ++ command.description)

/-- The list of commands. -/
def help : String :=
  "Magic commands:\n" ++ String.join (Command.all.map commandHelp) ++
    "\nAnything else is assembled and executed on the simulator.\n"

/-- The kind of data an image reference holds. -/
def imageKind (image : String) : String :=
  match Text.afterPrefix? "data:" image with
  | some rest => String.ofList (rest.toList.takeWhile fun c => c ≠ ';')
  | none => "image"

def output : Output → String
  | .success message => line ("ok: " ++ message)
  | .failure f => failure f
  | .warning message => line ("warning: " ++ message)
  | .answer text => line (Text.trimEnd text)
  | .documentation instruction sections => documentation instruction sections
  | .timing instruction image =>
    line ("Timing diagram for " ++ instruction ++ " (" ++ imageKind image ++ ", " ++
      toString image.utf8ByteSize ++ " bytes)")
  | .listing labels rows => line (listing labels rows)
  | .help => help

/-- Registers as a table, then the flags and the memory. -/
def processor (state : Processor) : String :=
  let registers := state.registers.entries.map fun (name, value) => [name, value]
  let flags := state.flags.entries.map fun (name, set) => name ++ "=" ++ (if set then "1" else "0")
  let memory :=
    if state.memory.size = 0 then
      line "Memory: (empty)"
    else
      line ("Memory (" ++ toString state.memory.size ++ " locations):") ++
        String.join (state.memory.entries.map fun (address, value) =>
          line ("  " ++ address ++ ": " ++ value))
  line (table (["REGISTER", "VALUE"] :: registers)) ++
    line ("Flags: " ++ " ".intercalate flags) ++ memory

end Render
end AsmNotebook
