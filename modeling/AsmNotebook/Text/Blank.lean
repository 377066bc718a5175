namespace AsmNotebook
namespace Text

/-!
White space and trimming.  The class is the Unicode property `White_Space`,
twenty-five code points; trimming removes every one of them from an end.
-/

/-- The property `White_Space`. -/
def isBlank (c : Char) : Bool :=
  (0x9 ≤ c.toNat && c.toNat ≤ 0xD) || c.toNat == 0x20 || c.toNat == 0x85 || c.toNat == 0xA0 ||
  c.toNat == 0x1680 || (0x2000 ≤ c.toNat && c.toNat ≤ 0x200A) || c.toNat == 0x2028 ||
  c.toNat == 0x2029 || c.toNat == 0x202F || c.toNat == 0x205F || c.toNat == 0x3000

/-- Characters without the leading white space. -/
def trimStartChars (cs : List Char) : List Char :=
  cs.dropWhile isBlank

/-- Characters without the trailing white space. -/
def trimEndChars (cs : List Char) : List Char :=
  (cs.reverse.dropWhile isBlank).reverse

/-- Characters without white space at either end. -/
def trimChars (cs : List Char) : List Char :=
  trimEndChars (trimStartChars cs)

/-- A text without the trailing white space. -/
def trimEnd (text : String) : String :=
  String.ofList (trimEndChars text.toList)

/-- A text without white space at either end. -/
def trim (text : String) : String :=
  String.ofList (trimChars text.toList)

/-- Text after a given opening, if it opens so. -/
def afterPrefix? (opening text : String) : Option String :=
  if opening.toList.isPrefixOf text.toList then
    some (String.ofList (text.toList.drop opening.length))
  else
    none

/-- Whether a text opens with another. -/
def opensWith (opening text : String) : Bool :=
  opening.toList.isPrefixOf text.toList

/-- Whether a sequence of characters holds another somewhere. -/
def holdsChars (part : List Char) : List Char → Bool
  | [] => part.isEmpty
  | c :: rest => part.isPrefixOf (c :: rest) || holdsChars part rest

/-- Whether a text holds another somewhere. -/
def holds (part text : String) : Bool :=
  holdsChars part.toList text.toList

end Text
end AsmNotebook
