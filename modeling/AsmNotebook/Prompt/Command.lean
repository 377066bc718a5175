import AsmNotebook.Cell.Basic

namespace AsmNotebook
namespace Prompt

/-!
Commands of the prompt: a colon, a name, and an argument after white space.
Cells are numbered from one.
-/

inductive Command
  | list
  | add (kind : CellKind)
  | edit (index : Nat)
  | run (index : Nat)
  | runAll
  | delete (index : Nat)
  | clearOutputs
  | clear
  | state
  | explain (index : Nat)
  | exportTo (path : Option String)
  | importFrom (path : String)
  | help
  | quit
deriving DecidableEq, Repr

/-- The number that decimal digits write, with an optional plus sign, if it fits 64 bits. -/
def numeral? (text : String) : Option Nat :=
  let digits :=
    match text.toList with
    | '+' :: rest => rest
    | other => other
  if digits.isEmpty || !digits.all Char.isDigit then
    none
  else
    let value := digits.foldl (fun n d => n * 10 + (d.toNat - 48)) 0
    if value < UInt64.size then some value else none

/-- The position of the cell with a number, or what is wrong with the number. -/
def cellIndex (argument : Option String) : Except String Nat :=
  match argument with
  | none => .error "missing cell number"
  | some text =>
    match numeral? text with
    | some (n + 1) => .ok n
    | _ => .error ("invalid cell number: " ++ text)

namespace Command

/-- The name and the argument of what follows the colon. -/
def parts (body : List Char) : String × Option String :=
  let name := body.takeWhile fun c => !Text.isBlank c
  let argument := Text.trimChars (body.dropWhile fun c => !Text.isBlank c)
  (String.ofList name, if argument.isEmpty then none else some (String.ofList argument))

/-- The command of a name and an argument. -/
def ofParts (name : String) (argument : Option String) : Except String Command :=
  if name = "list" ∨ name = "ls" then .ok list
  else if name = "add" then
    match argument with
    | none => .ok (add .code)
    | some word => (CellKind.parse word).map add
  else if name = "edit" then (cellIndex argument).map edit
  else if name = "run" then (cellIndex argument).map run
  else if name = "runall" then .ok runAll
  else if name = "delete" ∨ name = "rm" then (cellIndex argument).map delete
  else if name = "clear-outputs" then .ok clearOutputs
  else if name = "clear" then .ok clear
  else if name = "state" then .ok state
  else if name = "explain" then (cellIndex argument).map explain
  else if name = "export" then .ok (exportTo argument)
  else if name = "import" then
    match argument with
    | none => .error "usage: :import PATH"
    | some path => .ok (importFrom path)
  else if name = "help" ∨ name = "h" then .ok help
  else if name = "quit" ∨ name = "q" ∨ name = "exit" then .ok quit
  else .error ("unknown command :" ++ name ++ " (try :help)")

/-- The command of a line, or what is wrong with the line. -/
def parse (line : String) : Except String Command :=
  match Text.trimChars line.toList with
  | ':' :: body =>
    let (name, argument) := parts body
    ofParts name argument
  | other => .error ("not a command: " ++ String.ofList other)

end Command

end Prompt
end AsmNotebook
