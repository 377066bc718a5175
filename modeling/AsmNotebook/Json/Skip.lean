import AsmNotebook.Json.Reader

namespace AsmNotebook
namespace Json

/-!
Passing over a value nobody asked for.  Such a value must be well formed, but
it may be nested to any depth, its numbers may be of any size and its escapes
need not pair their surrogates.
-/

/-- An array or object that is still open. -/
inductive Frame
  | array
  | object
deriving DecidableEq, Repr

/-- Pass over the rest of a text up to its closing quote; the next `pass` characters belong to an
escape. -/
def skipTextFrom : Nat → List Char → Except Stop (List Char)
  | _, [] => halt .endOfText []
  | pass + 1, _ :: rest => skipTextFrom pass rest
  | 0, c :: rest =>
    if c = '"' then
      .ok rest
    else if c = '\\' then
      match rest with
      | [] => halt .endOfText []
      | d :: more =>
        if d = 'u' then
          match unitAt more with
          | .error stop => .error stop
          | .ok _ => skipTextFrom 5 rest
        else if ['"', '\\', '/', 'b', 'f', 'n', 'r', 't'].contains d then
          skipTextFrom 1 rest
        else
          halt .invalidEscape (d :: more) 1
    else if c.toNat < 0x20 then
      halt .controlCharacter (c :: rest)
    else
      skipTextFrom 0 rest

/-- Pass over the digits of an exponent, after its mark. -/
def skipExponent (cs : List Char) : Except Stop (List Char) :=
  let digits :=
    match cs with
    | '+' :: rest => rest
    | '-' :: rest => rest
    | rest => rest
  match digits with
  | [] => halt .invalidNumber []
  | c :: rest =>
    if c.isDigit then .ok (rest.dropWhile Char.isDigit) else halt .invalidNumber (c :: rest) 1

/-- Pass over an exponent, if its mark comes next. -/
def skipExponent? (cs : List Char) : Except Stop (List Char) :=
  match cs with
  | 'e' :: rest => skipExponent rest
  | 'E' :: rest => skipExponent rest
  | rest => .ok rest

/-- Pass over a number after its sign. -/
def skipNumber (cs : List Char) : Except Stop (List Char) :=
  let whole : Except Stop (List Char) :=
    match cs with
    | [] => halt .invalidNumber []
    | c :: rest =>
      if c = '0' then
        match rest with
        | [] => .ok []
        | d :: more => if d.isDigit then haltAhead .invalidNumber (d :: more) else .ok (d :: more)
      else if c.isDigit then .ok (rest.dropWhile Char.isDigit)
      else halt .invalidNumber (c :: rest) 1
  match whole with
  | .error stop => .error stop
  | .ok ('.' :: fraction) =>
    match fraction with
    | [] => haltAhead .invalidNumber []
    | d :: more =>
      if d.isDigit then skipExponent? (more.dropWhile Char.isDigit)
      else haltAhead .invalidNumber (d :: more)
  | .ok rest => skipExponent? rest

/-- What comes next while values are passed over. -/
inductive Skipping
  | value
  /-- Right behind an opening bracket or brace. -/
  | opened
  /-- Behind a value inside the innermost frame. -/
  | closing
  /-- At an item or member of the innermost frame. -/
  | entry

/-- Pass over values until no frame is open.  Every second step takes at least one character. -/
def skipFrom : Nat → List Frame → Skipping → List Char → Except Stop (List Char)
  | 0, _, _, _ => haltAhead .endOfValue []
  | fuel + 1, frames, .value, cs =>
    let after (result : Except Stop (List Char)) : Except Stop (List Char) :=
      match result with
      | .error stop => .error stop
      | .ok rest => skipFrom fuel frames .closing rest
    match skipSpace cs with
    | [] => haltAhead .endOfValue []
    | c :: rest =>
      if c = 'n' then after (readWord ['u', 'l', 'l'] rest)
      else if c = 't' then after (readWord ['r', 'u', 'e'] rest)
      else if c = 'f' then after (readWord ['a', 'l', 's', 'e'] rest)
      else if c = '-' then after (skipNumber rest)
      else if c.isDigit then after (skipNumber (c :: rest))
      else if c = '"' then after (skipTextFrom 0 rest)
      else if c = '[' then skipFrom fuel (.array :: frames) .opened rest
      else if c = '\x7b' then skipFrom fuel (.object :: frames) .opened rest
      else haltAhead .expectedValue (c :: rest)
  | _ + 1, [], _, cs => .ok cs
  | fuel + 1, frame :: frames, .opened, cs =>
    match skipSpace cs with
    | [] => haltAhead (match frame with | .array => .endOfList | .object => .endOfObject) []
    | c :: rest =>
      if c = (match frame with | .array => ']' | .object => '\x7d') then
        skipFrom fuel frames .closing rest
      else
        skipFrom fuel (frame :: frames) .entry (c :: rest)
  | fuel + 1, frame :: frames, .closing, cs =>
    match skipSpace cs with
    | [] => haltAhead (match frame with | .array => .endOfList | .object => .endOfObject) []
    | c :: rest =>
      if c = ',' then
        skipFrom fuel (frame :: frames) .entry rest
      else if c = (match frame with | .array => ']' | .object => '\x7d') then
        skipFrom fuel frames .closing rest
      else
        haltAhead (match frame with | .array => .expectedListComma | .object => .expectedObjectComma)
          (c :: rest)
  | fuel + 1, .array :: frames, .entry, cs => skipFrom fuel (.array :: frames) .value cs
  | fuel + 1, .object :: frames, .entry, cs =>
    match skipSpace cs with
    | [] => haltAhead .endOfObject []
    | c :: rest =>
      if c = '"' then
        match skipTextFrom 0 rest with
        | .error stop => .error stop
        | .ok named =>
          match readColon named with
          | .error stop => .error stop
          | .ok member => skipFrom fuel (.object :: frames) .value member
      else
        haltAhead .nameNotText (c :: rest)

/-- Pass over one value. -/
def skipValue (cs : List Char) : Except Stop (List Char) :=
  skipFrom (3 * cs.length + 3) [] .value cs

end Json
end AsmNotebook
