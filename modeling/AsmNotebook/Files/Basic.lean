namespace AsmNotebook

/-!
Files as the notebook uses them: why an access fails, and reports of failures
with their cause.
-/

/-- Why a file cannot be used. -/
inductive FileFault
  | notFound
  | exists
  | notDirectory
  | isDirectory
  /-- The contents are not UTF-8. -/
  | notText
  | other (reason : String)
deriving DecidableEq, Repr

namespace FileFault

def message : FileFault → String
  | notFound => "No such file or directory (os error 2)"
  | «exists» => "File exists (os error 17)"
  | notDirectory => "Not a directory (os error 20)"
  | isDirectory => "Is a directory (os error 21)"
  | notText => "stream did not contain valid UTF-8"
  | other reason => reason

end FileFault

/-- A failure that ends an operation, with its cause if that is told apart. -/
structure Report where
  text : String
  cause : Option String
deriving DecidableEq, Repr

namespace Report

/-- The report on one line. -/
def oneLine (report : Report) : String :=
  match report.cause with
  | some cause => report.text ++ ": " ++ cause
  | none => report.text

/-- The report as a program ends with it. -/
def block (report : Report) : String :=
  match report.cause with
  | some cause => "Error: " ++ report.text ++ "\n\nCaused by:\n    " ++ cause ++ "\n"
  | none => "Error: " ++ report.text ++ "\n"

end Report

end AsmNotebook
