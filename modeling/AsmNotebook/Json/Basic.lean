import AsmNotebook.Decimal.Shortest
import AsmNotebook.SortedMap

namespace AsmNotebook

/-!
Documents of loosely typed data.  A tree keeps the members of an object in the
order they were written in; the canonical tree has them in key order, each key
once with its last value, and is what answers of the simulator are read into.
-/

/-- A number of a document: an integer of at most 64 bits, or a binary floating-point number. -/
inductive Number
  | integer (value : Int)
  | real (value : Decimal.Binary64)
deriving DecidableEq, Repr

namespace Number

/-- The written form of a number. -/
def write : Number → String
  | integer value => toString value
  | real value => value.write

/-- The number as one without a sign, if it is such an integer. -/
def unsigned? : Number → Option Nat
  | integer value => if 0 ≤ value then some value.toNat else none
  | real _ => none

def isZero : Number → Bool
  | integer value => value == 0
  | real value => value.magnitude.mantissa == 0

end Number

/-- A document. -/
inductive Json
  | null
  | bool (value : Bool)
  | number (value : Number)
  | text (value : String)
  | array (items : List Json)
  | object (members : List (String × Json))
deriving Repr, Inhabited

namespace Json

mutual

/-- The tree with the members of every object in key order and without repetition. -/
def canonical : Json → Json
  | .array items => .array (canonicalItems items)
  | .object members => .object (sortEntries (canonicalMembers members))
  | .null => .null
  | .bool value => .bool value
  | .number value => .number value
  | .text value => .text value

def canonicalItems : List Json → List Json
  | [] => []
  | item :: rest => item.canonical :: canonicalItems rest

def canonicalMembers : List (String × Json) → List (String × Json)
  | [] => []
  | (name, value) :: rest => (name, value.canonical) :: canonicalMembers rest

end

/-- Value of a member by name. -/
def member? (name : String) (members : List (String × Json)) : Option Json :=
  (members.find? (fun m => m.1 == name)).map Prod.snd

/-- Member of an object; anything else has none. -/
def get? (name : String) : Json → Option Json
  | .object members => member? name members
  | _ => none

def text? : Json → Option String
  | .text value => some value
  | _ => none

def items? : Json → Option (List Json)
  | .array items => some items
  | _ => none

def members? : Json → Option (List (String × Json))
  | .object members => some members
  | _ => none

/-- Text member of an object. -/
def textAt? (name : String) (value : Json) : Option String :=
  (value.get? name).bind text?

/-- Item of an array. -/
def item? (index : Nat) (value : Json) : Option Json :=
  value.items?.bind (·[index]?)

/-- A text without quotes, a number or a truth value as it is written; the others have no such text. -/
def scalarText? : Json → Option String
  | .text value => some value
  | .number value => some value.write
  | .bool value => some (if value then "true" else "false")
  | _ => none

end Json

end AsmNotebook
