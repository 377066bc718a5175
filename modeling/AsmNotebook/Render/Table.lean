import AsmNotebook.Text.Lines
import AsmNotebook.Text.Width

namespace AsmNotebook
namespace Render

/-!
Tables with round corners.  A column is as wide as its widest line with one
blank on either side; a field of several lines makes its row as high.  A rule
stands under the first row, and under the last one if there are others.
-/

/-- The lines of a field; there is at least one. -/
def fieldLines (field : String) : List (List Char) :=
  Text.splitFeeds field.toList

/-- Columns that a field needs. -/
def fieldWidth (field : String) : Nat :=
  (fieldLines field).foldl (fun widest line => max widest (Text.width line)) 0

/-- Number of columns of a table. -/
def columnCount (rows : List (List String)) : Nat :=
  rows.foldl (fun most row => max most row.length) 0

/-- A row with as many fields as there are columns. -/
def completeRow (columns : Nat) (row : List String) : List String :=
  row ++ List.replicate (columns - row.length) ""

/-- Widths of the columns of complete rows. -/
def columnWidths (columns : Nat) (rows : List (List String)) : List Nat :=
  rows.foldl (fun widths row => List.zipWith max widths (row.map fieldWidth))
    (List.replicate columns 0)

/-- A rule over all columns. -/
def rule (left middle right : Char) (widths : List Nat) : List Char :=
  left :: List.intercalate [middle] (widths.map fun width => List.replicate (width + 2) '─') ++ [right]

/-- A line of a field in a column. -/
def padded (width : Nat) (line : List Char) : List Char :=
  ' ' :: line ++ List.replicate (width - Text.width line) ' ' ++ [' ']

/-- The lines of a row. -/
def rowLines (widths : List Nat) (row : List String) : List (List Char) :=
  let fields := row.map fieldLines
  let height := fields.foldl (fun most lines => max most lines.length) 0
  (List.range height).map fun index =>
    '│' :: List.intercalate ['│']
      (List.zipWith (fun width lines => padded width (lines[index]?.getD [])) widths fields) ++ ['│']

/-- A table; there is none without columns. -/
def table (rows : List (List String)) : String :=
  let columns := columnCount rows
  if columns = 0 then
    ""
  else
    let rows := rows.map (completeRow columns)
    let widths := columnWidths columns rows
    let bodies := rows.map (rowLines widths)
    let under := rule '├' '┼' '┤' widths
    let lines :=
      match bodies with
      | [] => []
      | [header] => header ++ [under]
      | header :: body => header ++ under :: body.flatten ++ [rule '╰' '┴' '╯' widths]
    String.ofList (List.intercalate ['\n'] (rule '╭' '┬' '╮' widths :: lines))

end Render
end AsmNotebook
