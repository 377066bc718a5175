import AsmNotebook.Documentation
import AsmNotebook.Json.Basic

namespace AsmNotebook

/-!
What running a cell produces.  Every run of a cell, whatever it asks for, ends
in exactly one output; a failure is an output like the others.
-/

inductive FailureKind
  /-- A command lacks its argument. -/
  | usage
  /-- No command has this name. -/
  | unknownCommand
  /-- The simulator could not be reached or did not answer in time. -/
  | network
  /-- The simulator answered with something that is no document or has no known shape. -/
  | server
  /-- The simulator reports a fault of the program. -/
  | domain
  /-- The assistant refused or failed. -/
  | aiProvider
deriving DecidableEq, Repr

/-- What the simulator says about a fault. -/
structure FailureDetail where
  kind : Option String
  instruction : Option String
  tag : Option String
  position : Option String
  line : Option String
  hint : Option String
deriving DecidableEq, Repr

namespace FailureDetail

def empty : FailureDetail where
  kind := none
  instruction := none
  tag := none
  position := none
  line := none
  hint := none

/-- The detail that a loosely typed object gives, unless it gives none. -/
def ofJson? (document : Json) : Option FailureDetail :=
  match document.members? with
  | none => none
  | some _ =>
    let field (name : String) : Option String := (document.get? name).bind Json.scalarText?
    let detail : FailureDetail :=
      { kind := field "type"
        instruction := field "instruction"
        tag := field "tag"
        position := field "position"
        line := field "line"
        hint := field "hint" }
    if detail = empty then none else some detail

end FailureDetail

structure Failure where
  kind : FailureKind
  title : Option String
  message : String
  detail : Option FailureDetail
  /-- What the assistant said about the failure, attached after the fact. -/
  explanation : Option String
deriving DecidableEq, Repr

inductive Output
  | success (message : String)
  | failure (failure : Failure)
  | warning (message : String)
  /-- What the assistant answered. -/
  | answer (text : String)
  | documentation (instruction : String) (sections : Documentation)
  /-- A timing diagram; the image is a reference, usually one that holds the data. -/
  | timing (instruction image : String)
  /-- An assembled program, one row an instruction. -/
  | listing (labels : List String) (rows : List (List String))
  | help
deriving DecidableEq, Repr

namespace Output

/-- A failure without an explanation. -/
def fail (kind : FailureKind) (title : Option String) (message : String)
    (detail : Option FailureDetail) : Output :=
  .failure { kind := kind, title := title, message := message, detail := detail, explanation := none }

def failure? : Output → Option Failure
  | .failure f => some f
  | _ => none

def isFailure (output : Output) : Bool :=
  output.failure?.isSome

end Output

end AsmNotebook
