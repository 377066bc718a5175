namespace AsmNotebook
namespace Text

/-!
Lines of a text.  A line ends at a line feed or at the end of the text; one
carriage return right before the line feed belongs to the line end.  Nothing
follows a final line feed, so a text that ends in one has no empty last line.
-/

/-- Remove one trailing carriage return from a line held in reverse. -/
def dropReturn : List Char → List Char
  | '\r' :: rest => rest
  | reversed => reversed

/-- Lines of a text whose current line has been read up to `carried`, in reverse. -/
def linesFrom (carried : List Char) : List Char → List (List Char)
  | [] => if carried.isEmpty then [] else [carried.reverse]
  | '\n' :: rest => (dropReturn carried).reverse :: linesFrom [] rest
  | c :: rest => linesFrom (c :: carried) rest

/-- Lines of a sequence of characters. -/
def lineChars (cs : List Char) : List (List Char) :=
  linesFrom [] cs

/-- Lines of a text. -/
def lines (text : String) : List String :=
  (lineChars text.toList).map String.ofList

/-- Pieces of a sequence between line feeds; there is one more piece than line feeds. -/
def splitFeeds : List Char → List (List Char)
  | [] => [[]]
  | c :: rest =>
    if c = '\n' then
      [] :: splitFeeds rest
    else
      match splitFeeds rest with
      | [] => [[c]]
      | piece :: pieces => (c :: piece) :: pieces

end Text
end AsmNotebook
