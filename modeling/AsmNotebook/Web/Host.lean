import AsmNotebook.Text.LetterCase
import AsmNotebook.Text.Utf8
import AsmNotebook.Web.Percent
import AsmNotebook.Web.Punycode

namespace AsmNotebook
namespace Web

/-!
Hosts of addresses.  A host is a name or a number: four bytes with points
between them, or eight groups of digits in brackets.  A name whose last label is
a number must be one of the numbers, in any of the ways to write it.
-/

/-- Why a text is no address. -/
inductive AddressFault
  | noScheme
  | emptyHost
  | domain
  | portNumber
  | ipv4
  | ipv6
  | hostCharacter
deriving DecidableEq, Repr

namespace AddressFault

def message : AddressFault → String
  | noScheme => "relative URL without a base"
  | emptyHost => "empty host"
  | domain => "invalid international domain name"
  | portNumber => "invalid port number"
  | ipv4 => "invalid IPv4 address"
  | ipv6 => "invalid IPv6 address"
  | hostCharacter => "invalid domain character"

end AddressFault

inductive Host
  | name (text : String)
  | ipv4 (value : Nat)
  | ipv6 (groups : List Nat)
deriving DecidableEq, Repr

/-- Pieces of a text between separators. -/
def cut (isSeparator : Char → Bool) : List Char → List (List Char)
  | [] => [[]]
  | c :: rest =>
    if isSeparator c then
      [] :: cut isSeparator rest
    else
      match cut isSeparator rest with
      | [] => [[c]]
      | piece :: more => (c :: piece) :: more

namespace Host

/-- The value of digits to a base. -/
def valueOf (base : Nat) (cs : List Char) : Nat :=
  cs.foldl (fun value c => value * base + (hexDigit? c).getD 0) 0

/-- Whether characters are digits to a base. -/
def areDigits (base : Nat) (cs : List Char) : Bool :=
  cs.all fun c => match hexDigit? c with
    | some value => value < base
    | none => false

/-- A number in decimal, octal after a zero, or hexadecimal digits after `0x`. -/
def number? : List Char → Option Nat
  | [] => none
  | '0' :: 'x' :: cs => if areDigits 16 cs then some (valueOf 16 cs) else none
  | '0' :: 'X' :: cs => if areDigits 16 cs then some (valueOf 16 cs) else none
  | '0' :: c :: cs => if areDigits 8 (c :: cs) then some (valueOf 8 (c :: cs)) else none
  | cs => if areDigits 10 cs then some (valueOf 10 cs) else none

/-- The labels of a name, without an empty last one. -/
def labels (name : List Char) : List (List Char) :=
  let pieces := cut (· == '.') name
  if pieces.getLast? == some [] then pieces.dropLast else pieces

/-- Whether the last label of a name is a number. -/
def endsInNumber (name : List Char) : Bool :=
  match (labels name).getLast? with
  | some label => (!label.isEmpty && areDigits 10 label) || (number? label).isSome
  | none => false

/-- The number that one to four numbers stand for; the last one fills all bytes that are left. -/
def joinNumbers (numbers : List Nat) : Option Nat :=
  match numbers.reverse with
  | [] => none
  | last :: others =>
    let leading := others.reverse
    if 4 < numbers.length ∨ leading.any (255 < ·) ∨ Nat.pow 256 (4 - leading.length) ≤ last then
      none
    else
      some (leading.foldl (fun value n => value * 256 + n) 0 * Nat.pow 256 (4 - leading.length) + last)

/-- The number that a name stands for. -/
def ipv4? (name : List Char) : Option Nat :=
  if 4 < (labels name).length then none
  else ((labels name).mapM number?).bind joinNumbers

/-- A byte in decimal digits without a leading zero. -/
def byte? : List Char → Option Nat
  | [] => none
  | ['0'] => some 0
  | '0' :: _ => none
  | cs => if areDigits 10 cs && valueOf 10 cs ≤ 255 then some (valueOf 10 cs) else none

/-- Two groups written as four bytes. -/
def byteGroups? (cs : List Char) : Option (List Nat) :=
  match (cut (· == '.') cs).mapM byte? with
  | some [a, b, c, d] => some [a * 256 + b, c * 256 + d]
  | _ => none

/-- A group of one to four digits. -/
def group? (cs : List Char) : Option Nat :=
  if !cs.isEmpty && cs.length ≤ 4 && areDigits 16 cs then some (valueOf 16 cs) else none

/-- Groups of pieces; the last piece may be four bytes where the address ends. -/
def groups? (atEnd : Bool) : List (List Char) → Option (List Nat)
  | [] => some []
  | [piece] =>
    match group? piece with
    | some group => some [group]
    | none => if atEnd then byteGroups? piece else none
  | piece :: rest => do
    let group ← group? piece
    let more ← groups? atEnd rest
    pure (group :: more)

/-- Groups of a part of an address that may be empty. -/
def partGroups? (atEnd : Bool) (cs : List Char) : Option (List Nat) :=
  if cs.isEmpty then some [] else groups? atEnd (cut (· == ':') cs)

/-- A text before and after its first two colons in a row. -/
def splitGap : List Char → Option (List Char × List Char)
  | ':' :: ':' :: rest => some ([], rest)
  | c :: rest => (splitGap rest).map fun (before, after) => (c :: before, after)
  | [] => none

/-- The eight groups of an address, in which two colons stand for groups of zero. -/
def ipv6? (cs : List Char) : Option (List Nat) :=
  match splitGap cs with
  | none => (partGroups? true cs).filter fun groups => groups.length == 8
  | some (before, after) => do
    let front ← partGroups? false before
    let back ← partGroups? true after
    if front.length + back.length < 8 then
      pure (front ++ List.replicate (8 - front.length - back.length) 0 ++ back)
    else
      none

/-- Whether a character beyond ASCII leaves a name. -/
def isIgnored (c : Char) : Bool :=
  c.toNat == 0xAD || c.toNat == 0x200B || c.toNat == 0x2060 || c.toNat == 0xFEFF ||
  (0xFE00 ≤ c.toNat && c.toNat ≤ 0xFE0F)

/-- Characters of a name in their basic form: without those that leave it, of normal width, and with
points for full stops. -/
def basicForm (c : Char) : Option Char :=
  if isIgnored c then none
  else if c.toNat == 0x3002 || c.toNat == 0xFF61 then some '.'
  else if 0xFF01 ≤ c.toNat && c.toNat ≤ 0xFF5E then some (Char.ofNat (c.toNat - 0xFEE0))
  else some c

/-- What cannot stand in a name. -/
def isForbidden (c : Char) : Bool :=
  isControl c || c.toNat == 0x20 || c.toNat == 0xFFFD || ("%#/:<>?@[\\]^|".toList.contains c)

/-- A label in ASCII. -/
def asciiLabel (label : List Char) : List Char :=
  if label.all fun c => c.toNat < 128 then label else "xn--".toList ++ Punycode.encode label

/-- A name in lower case and ASCII. -/
def asciiName? (cs : List Char) : Option (List Char) :=
  let lower := (Text.lower (String.ofList (cs.filterMap basicForm))).toList
  if lower.any isForbidden then none
  else some (['.'].intercalate ((cut (· == '.') lower).map asciiLabel))

/-- A host in brackets. -/
def bracketed? (cs : List Char) : Option (Except AddressFault Host) :=
  match cs with
  | '[' :: rest =>
    some (match rest.reverse with
      | ']' :: inner =>
        match ipv6? inner.reverse with
        | some groups => .ok (.ipv6 groups)
        | none => .error .ipv6
      | _ => .error .ipv6)
  | _ => none

/-- The host of an address whose scheme has hosts of the network. -/
def parse (cs : List Char) : Except AddressFault Host :=
  (bracketed? cs).getD
    (match asciiName? (Text.decodeLossy (percentDecode cs)).toList with
    | none => .error .domain
    | some ascii =>
      if ascii.isEmpty then
        .error .emptyHost
      else if endsInNumber ascii then
        match ipv4? ascii with
        | some value => .ok (.ipv4 value)
        | none => .error .ipv4
      else
        .ok (.name (String.ofList ascii)))

/-- What cannot stand in a host of an unknown scheme. -/
def isForbiddenPlain (c : Char) : Bool :=
  c.toNat == 0 || c == ' ' || ("#/:<>?@[\\]^|".toList.contains c)

/-- The host of an address of an unknown scheme. -/
def parsePlain (cs : List Char) : Except AddressFault Host :=
  (bracketed? cs).getD
    (if cs.any isForbiddenPlain then .error .hostCharacter
    else .ok (.name (percentEncode (fun _ => false) cs)))

/-- The longest row of zero groups, the first of equally long ones: where it begins, and its length. -/
def longestGap (groups : List Nat) : Nat × Nat :=
  ((List.range groups.length).map fun start =>
      (start, ((groups.drop start).takeWhile (· == 0)).length)).foldl
    (fun best row => if best.2 < row.2 then row else best) (0, 0)

def writeGroups (groups : List Nat) : String :=
  ":".intercalate (groups.map fun group => String.ofList (Nat.toDigits 16 group))

def write : Host → String
  | name text => text
  | ipv4 value =>
    ".".intercalate ([value / 16777216, value / 65536 % 256, value / 256 % 256, value % 256].map
      toString)
  | ipv6 groups =>
    let (start, length) := longestGap groups
    if length < 2 then
      "[" ++ writeGroups groups ++ "]"
    else
      "[" ++ writeGroups (groups.take start) ++ "::" ++ writeGroups (groups.drop (start + length)) ++
        "]"

end Host

end Web
end AsmNotebook
