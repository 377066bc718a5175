import AsmNotebook.Json.Fault

namespace AsmNotebook
namespace Json

/-!
Reading a document from its text.  A reader takes the characters still to come
and hands back a value with the characters after it; it stops at the first
fault and says where.  Arrays and objects may be nested 127 deep.

Main definitions: `readValue` reads a tree, `readText`, `readNumber` and
`readWord` its leaves, and `foldItems` and `foldMembers` walk through an array
or an object for any reader of its parts.
-/

/-- Where and why reading stopped.  The place is `ahead` bytes past the beginning of `rest`.  A stop
that is not `settled` is a fault of a whole value and gets its place from the array or object that
holds the value, or has none. -/
structure Stop where
  fault : Fault
  rest : List Char
  ahead : Nat
  settled : Bool

/-- A reader of values. -/
abbrev Reader (α : Type) := List Char → Except Stop (α × List Char)

/-- Stop at the beginning of the given characters. -/
def halt {α : Type} (fault : Fault) (rest : List Char) (ahead : Nat := 0) : Except Stop α :=
  .error { fault := fault, rest := rest, ahead := ahead, settled := true }

/-- Stop past the byte that is looked at. -/
def haltAhead {α : Type} (fault : Fault) (rest : List Char) : Except Stop α :=
  halt fault rest 1

/-- Stop over a whole value. -/
def refuse {α : Type} (fault : Fault) (rest : List Char) : Except Stop α :=
  .error { fault := fault, rest := rest, ahead := 0, settled := false }

/-- The blanks of documents. -/
def isSpace (c : Char) : Bool :=
  c = ' ' || c = '\n' || c = '\t' || c = '\r'

def skipSpace (cs : List Char) : List Char :=
  cs.dropWhile isSpace

/-- Read the remaining letters of a fixed word. -/
def readWord : List Char → List Char → Except Stop (List Char)
  | [], cs => .ok cs
  | _ :: _, [] => halt .endOfValue []
  | expected :: word, c :: rest =>
    if c = expected then readWord word rest else halt .expectedWord (c :: rest) 1

/-- Value of a hexadecimal digit. -/
def hexValue? (c : Char) : Option Nat :=
  if '0' ≤ c ∧ c ≤ '9' then some (c.toNat - 48)
  else if 'a' ≤ c ∧ c ≤ 'f' then some (c.toNat - 87)
  else if 'A' ≤ c ∧ c ≤ 'F' then some (c.toNat - 55)
  else none

/-- Bytes of a sequence of characters. -/
def byteLength (cs : List Char) : Nat :=
  cs.foldl (fun n c => n + c.utf8Size) 0

/-- Value of four hexadecimal digits. -/
def hexUnit? (a b c d : Char) : Option Nat := do
  let a ← hexValue? a
  let b ← hexValue? b
  let c ← hexValue? c
  let d ← hexValue? d
  pure (((a * 16 + b) * 16 + c) * 16 + d)

/-- Value of the four digits of a numbered escape, which come next. -/
def unitAt (cs : List Char) : Except Stop Nat :=
  let broken : Except Stop Nat :=
    if 4 ≤ byteLength (cs.take 4) then halt .invalidEscape cs 4 else halt .endOfText []
  match cs with
  | a :: b :: c :: d :: _ =>
    match hexUnit? a b c d with
    | some unit => .ok unit
    | none => broken
  | _ => broken

/-- Whether a unit opens a pair of surrogates. -/
def isLeading (unit : Nat) : Bool :=
  0xD800 ≤ unit && unit ≤ 0xDBFF

/-- Whether a unit closes a pair of surrogates. -/
def isTrailing (unit : Nat) : Bool :=
  0xDC00 ≤ unit && unit ≤ 0xDFFF

/-- Value of the second escape of a pair of surrogates, which must come next. -/
def trailingAt (cs : List Char) : Except Stop Nat :=
  match cs with
  | [] => halt .endOfText []
  | '\\' :: afterSlash =>
    match afterSlash with
    | [] => halt .endOfText []
    | 'u' :: digits =>
      match unitAt digits with
      | .error stop => .error stop
      | .ok trailing =>
        if isTrailing trailing then .ok trailing else halt .loneSurrogate (digits.drop 4)
    | other => halt .endOfEscape other 1
  | other => halt .endOfEscape other 1

/-- The character of an escape, with the number of characters after the backslash that stand for it. -/
def escapeAt : List Char → Except Stop (Char × Nat)
  | [] => halt .endOfText []
  | c :: rest =>
    if c = '"' then .ok ('"', 1)
    else if c = '\\' then .ok ('\\', 1)
    else if c = '/' then .ok ('/', 1)
    else if c = 'b' then .ok ('\x08', 1)
    else if c = 'f' then .ok ('\x0c', 1)
    else if c = 'n' then .ok ('\n', 1)
    else if c = 'r' then .ok ('\r', 1)
    else if c = 't' then .ok ('\t', 1)
    else if c = 'u' then
      match unitAt rest with
      | .error stop => .error stop
      | .ok unit =>
        if isTrailing unit then
          halt .loneSurrogate (rest.drop 4)
        else if isLeading unit then
          match trailingAt (rest.drop 4) with
          | .error stop => .error stop
          | .ok trailing =>
            .ok (Char.ofNat ((unit - 0xD800) * 0x400 + (trailing - 0xDC00) + 0x10000), 11)
        else
          .ok (Char.ofNat unit, 5)
    else halt .invalidEscape (c :: rest) 1

/-- Read the rest of a text up to its closing quote.  The characters so far are held in reverse, and
the next `pass` characters belong to an escape that has been read. -/
def readTextFrom : Nat → List Char → Reader String
  | _, _, [] => halt .endOfText []
  | pass + 1, carried, _ :: rest => readTextFrom pass carried rest
  | 0, carried, c :: rest =>
    if c = '"' then
      .ok (String.ofList carried.reverse, rest)
    else if c = '\\' then
      match escapeAt rest with
      | .error stop => .error stop
      | .ok (escaped, used) => readTextFrom used (escaped :: carried) rest
    else if c.toNat < 0x20 then
      halt .controlCharacter rest
    else
      readTextFrom 0 (c :: carried) rest

/-- Read a text after its opening quote. -/
def readText : Reader String :=
  readTextFrom 0 []

/-- The largest integer that fits 64 bits. -/
def maxUnsigned : Nat :=
  UInt64.size - 1

/-- Extend a significand by digits while it fits 64 bits, with the number of digits taken and of
digits left over. -/
def gather : Nat → List Char → Nat × Nat × Nat
  | significand, [] => (significand, 0, 0)
  | significand, d :: more =>
    let next := significand * 10 + (d.toNat - 48)
    if next ≤ maxUnsigned then
      let (total, taken, left) := gather next more
      (total, taken + 1, left)
    else
      (significand, 0, more.length + 1)

/-- A number from its parts; the characters after it are the place of a number too large. -/
def realOf (negative : Bool) (significand : Nat) (exponent : Int) (rest : List Char) :
    Except Stop (Number × List Char) :=
  match Decimal.Magnitude.ofDecimal significand exponent with
  | some magnitude => .ok (.real ⟨negative, magnitude⟩, rest)
  | none => halt .numberOutOfRange rest

/-- Read the digits of an exponent.  One beyond 31 bits is too large where it is positive and the
significand is not zero, and makes the number zero otherwise. -/
def readExponentDigits (negative : Bool) (significand : Nat) (exponent : Int) (up : Bool) :
    Nat → List Char → Except Stop (Number × List Char)
  | power, [] => realOf negative significand (if up then exponent + power else exponent - power) []
  | power, c :: rest =>
    if c.isDigit then
      let next := power * 10 + (c.toNat - 48)
      if 0x80000000 ≤ next then
        if up && significand != 0 then
          halt .numberOutOfRange rest
        else
          .ok (.real ⟨negative, .zero⟩, rest.dropWhile Char.isDigit)
      else
        readExponentDigits negative significand exponent up next rest
    else
      realOf negative significand (if up then exponent + power else exponent - power) (c :: rest)

/-- Read an exponent after its mark. -/
def readExponent (negative : Bool) (significand : Nat) (exponent : Int) (cs : List Char) :
    Except Stop (Number × List Char) :=
  let (up, digits) :=
    match cs with
    | '+' :: rest => (true, rest)
    | '-' :: rest => (false, rest)
    | rest => (true, rest)
  match digits with
  | [] => halt .endOfValue []
  | c :: rest =>
    if c.isDigit then
      readExponentDigits negative significand exponent up 0 (c :: rest)
    else
      halt .invalidNumber (c :: rest) 1

/-- Read an exponent if its mark comes next. -/
def readExponent? (negative : Bool) (significand : Nat) (exponent : Int) (cs : List Char) :
    Except Stop (Number × List Char) :=
  match cs with
  | 'e' :: rest => readExponent negative significand exponent rest
  | 'E' :: rest => readExponent negative significand exponent rest
  | rest => realOf negative significand exponent rest

/-- Read the digits after a decimal point. -/
def readFraction (negative : Bool) (significand : Nat) (exponent : Int) (cs : List Char) :
    Except Stop (Number × List Char) :=
  let digits := cs.takeWhile Char.isDigit
  let rest := cs.dropWhile Char.isDigit
  if digits.isEmpty then
    match rest with
    | [] => haltAhead .endOfValue []
    | other => haltAhead .invalidNumber other
  else
    let (total, taken, _) := gather significand digits
    readExponent? negative total (exponent - taken) rest

/-- A number without fraction and exponent.  Integers beyond 64 bits and the negative zero are
floating-point numbers. -/
def wholeOf (negative : Bool) (significand : Nat) (left : Nat) (rest : List Char) :
    Except Stop (Number × List Char) :=
  if left ≠ 0 then realOf negative significand left rest
  else if negative then
    if significand = 0 || 0x8000000000000000 < significand then realOf true significand 0 rest
    else .ok (.integer (-(significand : Int)), rest)
  else .ok (.integer significand, rest)

/-- Read a number after its sign. -/
def readNumber (negative : Bool) (cs : List Char) : Except Stop (Number × List Char) :=
  match cs with
  | [] => halt .endOfValue []
  | c :: rest =>
    if c.isDigit then
      let digits := if c = '0' then [] else rest.takeWhile Char.isDigit
      let after := if c = '0' then rest else rest.dropWhile Char.isDigit
      let (significand, _, left) := gather (c.toNat - 48) digits
      match after with
      | '.' :: fraction => readFraction negative significand left fraction
      | 'e' :: exponent => readExponent negative significand left exponent
      | 'E' :: exponent => readExponent negative significand left exponent
      | [] => wholeOf negative significand left []
      | d :: more =>
        if c = '0' && d.isDigit then
          haltAhead .invalidNumber (d :: more)
        else
          wholeOf negative significand left (d :: more)
    else
      halt .invalidNumber (c :: rest) 1

/-- Look for the next item of an array: its first characters, or nothing before the closing bracket,
which stays. -/
def nextItem (first : Bool) (cs : List Char) : Except Stop (Option (List Char) × List Char) :=
  match skipSpace cs with
  | [] => haltAhead .endOfList []
  | c :: rest =>
    if c = ']' then .ok (none, c :: rest)
    else if first then .ok (some (c :: rest), c :: rest)
    else if c = ',' then
      match skipSpace rest with
      | [] => haltAhead .endOfValue []
      | d :: more => if d = ']' then haltAhead .trailingComma (d :: more) else .ok (some (d :: more), d :: more)
    else haltAhead .expectedListComma (c :: rest)

/-- Look for the next name of an object: the characters after its quote, or nothing before the
closing brace, which stays. -/
def nextName (first : Bool) (cs : List Char) : Except Stop (Option (List Char) × List Char) :=
  match skipSpace cs with
  | [] => haltAhead .endOfObject []
  | c :: rest =>
    if c = '\x7d' then .ok (none, c :: rest)
    else if first then
      if c = '"' then .ok (some rest, c :: rest) else haltAhead .nameNotText (c :: rest)
    else if c = ',' then
      match skipSpace rest with
      | [] => haltAhead .endOfValue []
      | d :: more =>
        if d = '"' then .ok (some more, d :: more)
        else if d = '\x7d' then haltAhead .trailingComma (d :: more)
        else haltAhead .nameNotText (d :: more)
    else haltAhead .expectedObjectComma (c :: rest)

/-- Read the colon between a name and its value. -/
def readColon (cs : List Char) : Except Stop (List Char) :=
  match skipSpace cs with
  | [] => haltAhead .endOfObject []
  | c :: rest => if c = ':' then .ok rest else haltAhead .expectedColon (c :: rest)

/-- Read the bracket that closes an array. -/
def closeArray (cs : List Char) : Except Stop (List Char) :=
  match skipSpace cs with
  | [] => haltAhead .endOfList []
  | c :: rest =>
    if c = ']' then .ok rest
    else if c = ',' then
      match skipSpace rest with
      | [] => haltAhead .trailingCharacters []
      | d :: more =>
        if d = ']' then haltAhead .trailingComma (d :: more) else haltAhead .trailingCharacters (d :: more)
    else haltAhead .trailingCharacters (c :: rest)

/-- Read the brace that closes an object. -/
def closeObject (cs : List Char) : Except Stop (List Char) :=
  match skipSpace cs with
  | [] => haltAhead .endOfObject []
  | c :: rest =>
    if c = '\x7d' then .ok rest
    else if c = ',' then haltAhead .trailingComma (c :: rest)
    else haltAhead .trailingCharacters (c :: rest)

/-- Where the end of an array is looked for from, after a fault over one of its values. -/
def pastArray (cs : List Char) : List Char :=
  match skipSpace cs with
  | [] => []
  | c :: rest => if c = ']' then rest else if c = ',' then skipSpace rest else c :: rest

/-- Where the end of an object is looked for from, after a fault over one of its values. -/
def pastObject (cs : List Char) : List Char :=
  match skipSpace cs with
  | [] => []
  | c :: rest => if c = '\x7d' then rest else c :: rest

/-- Close an array whose contents were read, or settle the fault that its contents had. -/
def endArray {α : Type} (contents : Except Stop (α × List Char)) : Except Stop (α × List Char) :=
  match contents with
  | .ok (value, rest) => (closeArray rest).map fun after => (value, after)
  | .error stop =>
    if stop.settled then .error stop else halt stop.fault (pastArray stop.rest)

/-- Close an object whose contents were read, or settle the fault that its contents had. -/
def endObject {α : Type} (contents : Except Stop (α × List Char)) : Except Stop (α × List Char) :=
  match contents with
  | .ok (value, rest) => (closeObject rest).map fun after => (value, after)
  | .error stop =>
    if stop.settled then .error stop else halt stop.fault (pastObject stop.rest)

/-- Read the items of an array into an accumulator, up to the closing bracket. -/
def foldItems {σ : Type} (step : σ → Reader σ) : Nat → Bool → σ → Reader σ
  | 0, _, _, _ => haltAhead .endOfList []
  | fuel + 1, first, state, cs =>
    match nextItem first cs with
    | .error stop => .error stop
    | .ok (none, rest) => .ok (state, rest)
    | .ok (some item, _) =>
      match step state item with
      | .error stop => .error stop
      | .ok (state, rest) => foldItems step fuel false state rest

/-- Read the members of an object into an accumulator, up to the closing brace.  The step gets the
name and reads from right behind it. -/
def foldMembers {σ : Type} (step : σ → String → Reader σ) : Nat → Bool → σ → Reader σ
  | 0, _, _, _ => haltAhead .endOfObject []
  | fuel + 1, first, state, cs =>
    match nextName first cs with
    | .error stop => .error stop
    | .ok (none, rest) => .ok (state, rest)
    | .ok (some name, _) =>
      match readText name with
      | .error stop => .error stop
      | .ok (name, rest) =>
        match step state name rest with
        | .error stop => .error stop
        | .ok (state, rest) => foldMembers step fuel false state rest

/-- Read a value, given readers for what follows an opening bracket and an opening brace. -/
def readWith (array object : Reader Json) : Reader Json := fun cs =>
  match skipSpace cs with
  | [] => haltAhead .endOfValue []
  | c :: rest =>
    if c = 'n' then (readWord ['u', 'l', 'l'] rest).map (Json.null, ·)
    else if c = 't' then (readWord ['r', 'u', 'e'] rest).map (Json.bool true, ·)
    else if c = 'f' then (readWord ['a', 'l', 's', 'e'] rest).map (Json.bool false, ·)
    else if c = '-' then (readNumber true rest).map fun (value, after) => (Json.number value, after)
    else if c.isDigit then
      (readNumber false (c :: rest)).map fun (value, after) => (Json.number value, after)
    else if c = '"' then (readText rest).map fun (value, after) => (Json.text value, after)
    else if c = '[' then array rest
    else if c = '\x7b' then object rest
    else haltAhead .expectedValue (c :: rest)

/-- Read an item and put it before those read so far. -/
def pushItem {α : Type} (value : Reader α) (items : List α) : Reader (List α) := fun cs =>
  (value cs).map fun (item, rest) => (item :: items, rest)

/-- Read the items of an array with a reader of values. -/
def readItems (value : Reader Json) : Reader Json := fun cs =>
  endArray ((foldItems (pushItem value) (cs.length + 1) true [] cs).map fun (items, rest) =>
    (.array items.reverse, rest))

/-- Read a member behind its name and put it before those read so far. -/
def pushMember (value : Reader Json) (members : List (String × Json)) (name : String) :
    Reader (List (String × Json)) := fun cs => do
  let rest ← readColon cs
  let (member, rest) ← value rest
  .ok ((name, member) :: members, rest)

/-- Read the members of an object with a reader of values. -/
def readMembers (value : Reader Json) : Reader Json := fun cs =>
  endObject ((foldMembers (pushMember value) (cs.length + 1) true [] cs).map fun (members, rest) =>
    (.object members.reverse, rest))

/-- Read a value inside which arrays and objects may be nested `depth` deep. -/
def readValue : Nat → Reader Json
  | 0 => readWith (fun rest => haltAhead .tooDeep ('[' :: rest))
      (fun rest => haltAhead .tooDeep ('\x7b' :: rest))
  | depth + 1 => readWith (readItems (readValue depth)) (readMembers (readValue depth))

/-- Arrays and objects may be nested this deep. -/
def maxDepth : Nat :=
  127

/-- The line and column a number of bytes into a text. -/
def locate : Nat → Location → List Char → Location
  | _, place, [] => place
  | bytes, place, c :: rest =>
    if bytes < c.utf8Size then ⟨place.line, place.column + bytes⟩
    else if c = '\n' then locate (bytes - c.utf8Size) ⟨place.line + 1, 0⟩ rest
    else locate (bytes - c.utf8Size) ⟨place.line, place.column + c.utf8Size⟩ rest

/-- The error of a reader that stopped inside a text. -/
def Stop.error (text : List Char) (stop : Stop) : Error where
  fault := stop.fault
  location :=
    if stop.settled then
      some (locate (byteLength text - byteLength stop.rest + stop.ahead) ⟨1, 0⟩ text)
    else
      none

/-- The value of a whole text, with blanks around it and nothing else. -/
def readWhole {α : Type} (reader : Reader α) (text : String) : Except Error α :=
  match reader text.toList with
  | .error stop => .error (stop.error text.toList)
  | .ok (value, rest) =>
    match skipSpace rest with
    | [] => .ok value
    | extra =>
      .error (Stop.error text.toList
        { fault := .trailingCharacters, rest := extra, ahead := 1, settled := true })

/-- The canonical document of a text. -/
def parse (text : String) : Except Error Json :=
  (readWhole (readValue maxDepth) text).map canonical

end Json
end AsmNotebook
