import AsmNotebook.Text.Blank

namespace AsmNotebook

/-!
Commands of cells.  A cell whose text opens with `@` names a command in its
first word; the rest is the argument.
-/

/-- The commands, in the order in which they are listed. -/
inductive Command
  | help
  | docs
  | timing
  | assemble
  | ask
  | reset
deriving DecidableEq, Repr

namespace Command

def all : List Command :=
  [help, docs, timing, assemble, ask, reset]

def name : Command → String
  | help => "@help"
  | docs => "@docs"
  | timing => "@timing"
  | assemble => "@assemble"
  | ask => "@ask"
  | reset => "@reset"

/-- The command of a name. -/
def ofName? (name : String) : Option Command :=
  all.find? fun command => command.name == name

def description : Command → String
  | help => "Show available commands"
  | docs => "Show documentation for an instruction"
  | timing => "Show the timing diagram for an instruction"
  | assemble => "Assemble code into an address/opcode table"
  | ask => "Ask the AI assistant about 8085 programming"
  | reset => "Reset the processor to its default state"

/-- Placeholder and example of the argument, for commands that take one. -/
def usage? : Command → Option (String × String)
  | docs => some ("[instruction]", "MOV")
  | timing => some ("[instruction]", "MOV")
  | assemble => some ("[instructions]", "MVI A, 05H")
  | ask => some ("[question]", "How does MOV instruction work?")
  | help => none
  | reset => none

/-- Whether a text is a command and not code. -/
def isCommand (text : String) : Bool :=
  (Text.trimStartChars text.toList).head? == some '@'

/-- The first word of a text and what follows it, both without surrounding white space. -/
def split (text : String) : String × String :=
  let trimmed := Text.trimChars text.toList
  (String.ofList (trimmed.takeWhile fun c => !Text.isBlank c),
    String.ofList (Text.trimChars (trimmed.dropWhile fun c => !Text.isBlank c)))

end Command

end AsmNotebook
