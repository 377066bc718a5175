import AsmNotebook.Json.Basic

namespace AsmNotebook
namespace Json

/-!
Written forms of a document: the compact one without any blanks, and the
indented one with a line for every member and item.  Texts escape quotes,
backslashes and control characters, and nothing else.
-/

/-- Two lower-case hexadecimal digits of a number below 256. -/
def byteDigits (n : Nat) : List Char :=
  [Nat.digitChar (n / 16), Nat.digitChar (n % 16)]

/-- One character of a text between its quotes. -/
def escapeChar (c : Char) : List Char :=
  if c = '"' then ['\\', '"']
  else if c = '\\' then ['\\', '\\']
  else if c = '\n' then ['\\', 'n']
  else if c = '\r' then ['\\', 'r']
  else if c = '\t' then ['\\', 't']
  else if c = '\x08' then ['\\', 'b']
  else if c = '\x0c' then ['\\', 'f']
  else if c.toNat < 0x20 then ['\\', 'u', '0', '0'] ++ byteDigits c.toNat
  else [c]

/-- A text with its quotes. -/
def writeText (text : String) : List Char :=
  '"' :: text.toList.flatMap escapeChar ++ ['"']

mutual

/-- The compact form. -/
def compactChars : Json → List Char
  | .null => ['n', 'u', 'l', 'l']
  | .bool true => ['t', 'r', 'u', 'e']
  | .bool false => ['f', 'a', 'l', 's', 'e']
  | .number value => value.write.toList
  | .text value => writeText value
  | .array items => '[' :: compactItems true items ++ [']']
  | .object members => '\x7b' :: compactMembers true members ++ ['\x7d']

def compactItems (first : Bool) : List Json → List Char
  | [] => []
  | item :: rest =>
    (if first then [] else [',']) ++ compactChars item ++ compactItems false rest

def compactMembers (first : Bool) : List (String × Json) → List Char
  | [] => []
  | (name, value) :: rest =>
    (if first then [] else [',']) ++ writeText name ++ ':' :: compactChars value ++
      compactMembers false rest

end

/-- A line feed and the blanks that open a line at a depth. -/
def indentation (depth : Nat) : List Char :=
  '\n' :: List.replicate (2 * depth) ' '

mutual

/-- The indented form inside `depth` enclosing arrays and objects. -/
def indentedChars (depth : Nat) : Json → List Char
  | .null => ['n', 'u', 'l', 'l']
  | .bool true => ['t', 'r', 'u', 'e']
  | .bool false => ['f', 'a', 'l', 's', 'e']
  | .number value => value.write.toList
  | .text value => writeText value
  | .array [] => ['[', ']']
  | .array (item :: rest) =>
    '[' :: indentation (depth + 1) ++ indentedChars (depth + 1) item ++
      indentedItems (depth + 1) rest ++ indentation depth ++ [']']
  | .object [] => ['\x7b', '\x7d']
  | .object ((name, value) :: rest) =>
    '\x7b' :: indentation (depth + 1) ++ writeText name ++ [':', ' '] ++
      indentedChars (depth + 1) value ++ indentedMembers (depth + 1) rest ++
      indentation depth ++ ['\x7d']

def indentedItems (depth : Nat) : List Json → List Char
  | [] => []
  | item :: rest =>
    ',' :: indentation depth ++ indentedChars depth item ++ indentedItems depth rest

def indentedMembers (depth : Nat) : List (String × Json) → List Char
  | [] => []
  | (name, value) :: rest =>
    ',' :: indentation depth ++ writeText name ++ [':', ' '] ++ indentedChars depth value ++
      indentedMembers depth rest

end

/-- The compact form of a document. -/
def compact (document : Json) : String :=
  String.ofList document.compactChars

/-- The indented form of a document. -/
def indented (document : Json) : String :=
  String.ofList (document.indentedChars 0)

end Json
end AsmNotebook
