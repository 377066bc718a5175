namespace AsmNotebook
namespace Text

/-!
UTF-8: reading characters from bytes.  The strict reader stops at the first
bytes that are no character and says where they are; the lenient one puts the
replacement character in their place.
-/

/-- Bytes that are no character: their index, and their number unless the end of the input cuts a
character off. -/
structure InvalidBytes where
  index : Nat
  length : Option Nat
deriving DecidableEq, Repr

namespace InvalidBytes

def message (invalid : InvalidBytes) : String :=
  match invalid.length with
  | some length =>
    "invalid utf-8 sequence of " ++ toString length ++ " bytes from index " ++
      toString invalid.index
  | none => "incomplete utf-8 byte sequence from index " ++ toString invalid.index

end InvalidBytes

/-- What stands at the beginning of some bytes. -/
inductive Decoded
  | char (c : Char) (length : Nat)
  | invalid (length : Option Nat)

/-- The bits that a continuation byte adds. -/
def continued (value : Nat) (byte : UInt8) : Nat :=
  value * 64 + (byte.toNat - 0x80)

def isContinuation (byte : UInt8) : Bool :=
  0x80 ≤ byte && byte ≤ 0xBF

/-- A character whose second byte lies in a range and which has `more` continuation bytes behind the
second one. -/
def decodeLong (value : Nat) (low high : UInt8) (more : Nat) (rest : List UInt8) : Decoded :=
  match rest with
  | [] => .invalid none
  | second :: rest =>
    if second < low || high < second then
      .invalid (some 1)
    else
      let value := continued value second
      match more, rest with
      | 0, _ => .char (Char.ofNat value) 2
      | _ + 1, [] => .invalid none
      | more + 1, third :: rest =>
        if !isContinuation third then
          .invalid (some 2)
        else
          let value := continued value third
          match more, rest with
          | 0, _ => .char (Char.ofNat value) 3
          | _ + 1, [] => .invalid none
          | _ + 1, fourth :: _ =>
            if !isContinuation fourth then .invalid (some 3)
            else .char (Char.ofNat (continued value fourth)) 4

/-- What stands at a byte and the bytes behind it. -/
def decodeAt (byte : UInt8) (rest : List UInt8) : Decoded :=
  if byte < 0x80 then .char (Char.ofNat byte.toNat) 1
  else if 0xC2 ≤ byte && byte ≤ 0xDF then decodeLong (byte.toNat - 0xC0) 0x80 0xBF 0 rest
  else if byte == 0xE0 then decodeLong 0 0xA0 0xBF 1 rest
  else if byte == 0xED then decodeLong 13 0x80 0x9F 1 rest
  else if 0xE1 ≤ byte && byte ≤ 0xEF then decodeLong (byte.toNat - 0xE0) 0x80 0xBF 1 rest
  else if byte == 0xF0 then decodeLong 0 0x90 0xBF 2 rest
  else if 0xF1 ≤ byte && byte ≤ 0xF3 then decodeLong (byte.toNat - 0xF0) 0x80 0xBF 2 rest
  else if byte == 0xF4 then decodeLong 4 0x80 0x8F 2 rest
  else .invalid (some 1)

/-- Strict reading.  Characters so far are held in reverse, and the next `pass` bytes belong to the
last of them. -/
def decodeFrom : Nat → Nat → List Char → List UInt8 → Except InvalidBytes (List Char)
  | _, _, carried, [] => .ok carried.reverse
  | pass + 1, index, carried, _ :: rest => decodeFrom pass (index + 1) carried rest
  | 0, index, carried, byte :: rest =>
    match decodeAt byte rest with
    | .char c length => decodeFrom (length - 1) (index + 1) (c :: carried) rest
    | .invalid length => .error ⟨index, length⟩

/-- Lenient reading, in the same manner. -/
def decodeLossyFrom : Nat → List Char → List UInt8 → List Char
  | _, carried, [] => carried.reverse
  | pass + 1, carried, _ :: rest => decodeLossyFrom pass carried rest
  | 0, carried, byte :: rest =>
    match decodeAt byte rest with
    | .char c length => decodeLossyFrom (length - 1) (c :: carried) rest
    | .invalid (some length) => decodeLossyFrom (length - 1) ('\uFFFD' :: carried) rest
    | .invalid none => ('\uFFFD' :: carried).reverse

/-- The text of bytes, all of which must be characters. -/
def decode (bytes : List UInt8) : Except InvalidBytes String :=
  (decodeFrom 0 0 [] bytes).map String.ofList

/-- The text of bytes, with the replacement character for those that are none. -/
def decodeLossy (bytes : List UInt8) : String :=
  String.ofList (decodeLossyFrom 0 [] bytes)

/-- Bytes cut behind every line feed; the bytes of the current line are held in reverse. -/
def cutFrom (carried : List UInt8) : List UInt8 → List (List UInt8)
  | [] => if carried.isEmpty then [] else [carried.reverse]
  | byte :: rest =>
    if byte == 10 then (byte :: carried).reverse :: cutFrom [] rest
    else cutFrom (byte :: carried) rest

/-- A line without its line feed and the carriage return before that. -/
def withoutEnd (line : List Char) : List Char :=
  match line.reverse with
  | '\n' :: '\r' :: rest => rest.reverse
  | '\n' :: rest => rest.reverse
  | _ => line

/-- The lines of an input, each with what is wrong with its bytes. -/
def byteLines (bytes : List UInt8) : List (Except InvalidBytes String) :=
  (cutFrom [] bytes).map fun line =>
    (decodeFrom 0 0 [] line).map fun cs => String.ofList (withoutEnd cs)

end Text
end AsmNotebook
