namespace AsmNotebook
namespace Web

/-!
Percent-encoding.  A part of an address is written in printable ASCII; every
byte of any other character, and of the characters that would end the part, is
written as a percent sign with two hexadecimal digits.
-/

/-- Control characters of ASCII. -/
def isControl (c : Char) : Bool :=
  c.toNat < 0x20 || c.toNat == 0x7F

/-- What cannot stand in a fragment. -/
def fragmentSet (c : Char) : Bool :=
  [' ', '"', '<', '>', '\x60'].contains c

/-- What cannot stand in a path. -/
def pathSet (c : Char) : Bool :=
  fragmentSet c || ['#', '?', '\x7b', '\x7d'].contains c

/-- What cannot stand in a name or password. -/
def userSet (c : Char) : Bool :=
  pathSet c || ['/', ':', ';', '=', '@', '[', '\\', ']', '^', '|'].contains c

/-- What cannot stand in one segment of a path. -/
def segmentSet (c : Char) : Bool :=
  pathSet c || c == '/' || c == '%'

/-- What cannot stand in a query. -/
def querySet (c : Char) : Bool :=
  [' ', '"', '#', '<', '>'].contains c

/-- A percent sign and the digits of a byte. -/
def percentByte (byte : UInt8) : List Char :=
  let digit (n : Nat) : Char := (Nat.digitChar n).toUpper
  ['%', digit (byte.toNat / 16), digit (byte.toNat % 16)]

/-- A character in a part that cannot hold those of a set. -/
def encodeChar (set : Char → Bool) (c : Char) : List Char :=
  if isControl c || 0x7F < c.toNat || set c then
    (String.singleton c).toUTF8.toList.flatMap percentByte
  else
    [c]

/-- Characters in a part that cannot hold those of a set. -/
def percentEncode (set : Char → Bool) (cs : List Char) : String :=
  String.ofList (cs.flatMap (encodeChar set))

/-- The value of a hexadecimal digit. -/
def hexDigit? (c : Char) : Option Nat :=
  if c.isDigit then some (c.toNat - 48)
  else if 'a' ≤ c ∧ c ≤ 'f' then some (c.toNat - 87)
  else if 'A' ≤ c ∧ c ≤ 'F' then some (c.toNat - 55)
  else none

/-- The bytes of a text with every percent sign and its two digits as the byte they stand for. -/
def percentDecode : List Char → List UInt8
  | '%' :: a :: b :: rest =>
    match hexDigit? a, hexDigit? b with
    | some high, some low => UInt8.ofNat (high * 16 + low) :: percentDecode rest
    | _, _ => 37 :: percentDecode (a :: b :: rest)
  | c :: rest => (String.singleton c).toUTF8.toList ++ percentDecode rest
  | [] => []
termination_by cs => cs.length

end Web
end AsmNotebook
