import AsmNotebook.App.Loop
import AsmNotebook.Dialogue
import AsmNotebook.Files.Basic

namespace AsmNotebook

/-!
What the program asks of the world outside: answers to calls, files and the
time.
-/

/-- Files and the time. -/
inductive Errand
  /-- The text of a file. -/
  | fileText (path : String)
  | fileExists (path : String)
  /-- Replace the contents of a file. -/
  | replaceFile (path text : String)
  /-- Replace the contents of a file, making the directories it lies in. -/
  | saveFile (path text : String)
  /-- The time, as documents have it. -/
  | now
  /-- The date, as names of files have it. -/
  | today
deriving DecidableEq, Repr

abbrev Errand.Reply : Errand → Type
  | .fileText _ => Except FileFault String
  | .fileExists _ => Bool
  | .replaceFile _ _ => Except FileFault Unit
  | .saveFile _ _ => Except FileFault Unit
  | .now => String
  | .today => String

/-- What an application asks. -/
inductive Query
  /-- Attend to a call that waits for its answer. -/
  | attend (call : App.OpenCall)
  | errand (errand : Errand)

abbrev Query.Reply : Query → Type
  | .attend waiting => App.Attendance waiting.call
  | .errand e => e.Reply

/-- Work that asks the world. -/
abbrev Work (α : Type) : Type :=
  Dialogue Query Query.Reply α

end AsmNotebook
