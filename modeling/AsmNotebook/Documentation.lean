import AsmNotebook.Text.Blank
import AsmNotebook.Text.Lines

namespace AsmNotebook

/-!
Documentation of an instruction, cut into sections.  A line that opens with
`Args:`, `Raises:`, `Notes:` or `Example:` in its first column is a header;
lines before the first header describe the instruction.
-/

/-- A documentation text in sections. -/
structure Documentation where
  description : String
  args : List String
  raises : List String
  notes : List String
  examples : List String
deriving DecidableEq, Repr

namespace Documentation

/-- The part of a documentation text that a line belongs to. -/
inductive Part
  | description
  | args
  | raises
  | notes
  | examples
deriving DecidableEq, Repr

/-- The part that a line opens, if it is a header. -/
def header? (line : String) : Option Part :=
  if Text.opensWith "Args:" line then some .args
  else if Text.opensWith "Raises:" line then some .raises
  else if Text.opensWith "Notes:" line then some .notes
  else if Text.opensWith "Example:" line then some .examples
  else none

/-- What a line adds to a part.  Arguments and examples keep their indentation; the conditions a
fault is raised on are the items that open with a dash. -/
def entry? (part : Part) (line : String) : Option String :=
  let trimmed := Text.trim line
  if trimmed.isEmpty then
    none
  else
    match part with
    | .args | .examples => some line
    | .description | .notes => some trimmed
    | .raises => (Text.afterPrefix? "-" trimmed).map Text.trim

/-- Lines filed by part. -/
structure Filed where
  description : List String
  args : List String
  raises : List String
  notes : List String
  examples : List String
deriving DecidableEq, Repr

namespace Filed

def empty : Filed where
  description := []
  args := []
  raises := []
  notes := []
  examples := []

/-- Put an entry before the others of its part. -/
def put (part : Part) (entry : String) (filed : Filed) : Filed :=
  match part with
  | .description => { filed with description := entry :: filed.description }
  | .args => { filed with args := entry :: filed.args }
  | .raises => { filed with raises := entry :: filed.raises }
  | .notes => { filed with notes := entry :: filed.notes }
  | .examples => { filed with examples := entry :: filed.examples }

end Filed

/-- File lines by the part that the last header before them opened, which is `part` at first. -/
def file (part : Part) : List String → Filed
  | [] => .empty
  | line :: rest =>
    match header? line with
    | some opened => file opened rest
    | none =>
      match entry? part line with
      | some entry => (file part rest).put part entry
      | none => file part rest

/-- The sections of filed lines; the description is one paragraph. -/
def ofFiled (filed : Filed) : Documentation where
  description := " ".intercalate filed.description
  args := filed.args
  raises := filed.raises
  notes := filed.notes
  examples := filed.examples

/-- The sections of a documentation text. -/
def parse (text : String) : Documentation :=
  ofFiled (file .description (Text.lines text))

end Documentation

end AsmNotebook
