import AsmNotebook.Json.Basic
import AsmNotebook.Text.Quoted

namespace AsmNotebook
namespace Json

/-!
What can be wrong with a document: its text, or the kind of value found where
another is asked for.  The wording of every fault is `Fault.message`.
-/

/-- A value as messages name it. -/
inductive Found
  | null
  | bool (value : Bool)
  | number (value : Number)
  | text (value : String)
  | array
  | object
deriving DecidableEq, Repr

namespace Found

def describe : Found → String
  | null => "null"
  | bool value => "boolean `" ++ (if value then "true" else "false") ++ "`"
  | number (.integer value) => "integer `" ++ toString value ++ "`"
  | number (.real value) => "floating point `" ++ value.write ++ "`"
  | text value => "string " ++ Text.quoted value
  | array => "sequence"
  | object => "map"

end Found

/-- The name of a value in messages. -/
def found : Json → Found
  | .null => .null
  | .bool value => .bool value
  | .number value => .number value
  | .text value => .text value
  | .array _ => .array
  | .object _ => .object

inductive Fault
  | endOfList
  | endOfObject
  | endOfText
  | endOfValue
  | expectedColon
  | expectedListComma
  | expectedObjectComma
  | expectedWord
  | expectedValue
  | invalidEscape
  | invalidNumber
  | numberOutOfRange
  | controlCharacter
  | nameNotText
  | loneSurrogate
  | endOfEscape
  | trailingComma
  | trailingCharacters
  | tooDeep
  | invalidType (value : Found) (expected : String)
  | invalidValue (value : Found) (expected : String)
  | invalidLength (length : Nat) (expected : String)
  | unknownVariant (name : String) (names : List String)
  | missingField (name : String)
  | duplicateField (name : String)
deriving DecidableEq, Repr

/-- Names to choose from, each between backticks. -/
def alternatives : List String → String
  | [] => "there are no variants"
  | [one] => "expected `" ++ one ++ "`"
  | [one, two] => "expected `" ++ one ++ "` or `" ++ two ++ "`"
  | names => "expected one of " ++ ", ".intercalate (names.map fun name => "`" ++ name ++ "`")

namespace Fault

def message : Fault → String
  | endOfList => "EOF while parsing a list"
  | endOfObject => "EOF while parsing an object"
  | endOfText => "EOF while parsing a string"
  | endOfValue => "EOF while parsing a value"
  | expectedColon => "expected `:`"
  | expectedListComma => "expected `,` or `]`"
  | expectedObjectComma => "expected `,` or `\x7d`"
  | expectedWord => "expected ident"
  | expectedValue => "expected value"
  | invalidEscape => "invalid escape"
  | invalidNumber => "invalid number"
  | numberOutOfRange => "number out of range"
  | controlCharacter => "control character (\\u0000-\\u001F) found while parsing a string"
  | nameNotText => "key must be a string"
  | loneSurrogate => "lone leading surrogate in hex escape"
  | endOfEscape => "unexpected end of hex escape"
  | trailingComma => "trailing comma"
  | trailingCharacters => "trailing characters"
  | tooDeep => "recursion limit exceeded"
  | invalidType value expected => "invalid type: " ++ value.describe ++ ", expected " ++ expected
  | invalidValue value expected => "invalid value: " ++ value.describe ++ ", expected " ++ expected
  | invalidLength length expected =>
    "invalid length " ++ toString length ++ ", expected " ++ expected
  | unknownVariant name names => "unknown variant `" ++ name ++ "`, " ++ alternatives names
  | missingField name => "missing field `" ++ name ++ "`"
  | duplicateField name => "duplicate field `" ++ name ++ "`"

end Fault

/-- A line from one and a column from zero, counted in bytes. -/
structure Location where
  line : Nat
  column : Nat
deriving DecidableEq, Repr

/-- A fault, with its place when it has one in the text. -/
structure Error where
  fault : Fault
  location : Option Location
deriving DecidableEq, Repr

namespace Error

def message (error : Error) : String :=
  match error.location with
  | none => error.fault.message
  | some place =>
    error.fault.message ++ " at line " ++ toString place.line ++ " column " ++
      toString place.column

end Error

end Json
end AsmNotebook
