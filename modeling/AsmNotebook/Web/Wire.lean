import AsmNotebook.Web.Exchange

namespace AsmNotebook
namespace Web

/-!
Messages on the wire.  A request is written with the demand to close the
connection behind the response, so that all bytes up to there are the response;
it is read from them with as much of its body as came.
-/

/-- The digit of six bits. -/
def sixBitDigit (n : Nat) : Char :=
  if n < 26 then Char.ofNat (65 + n)
  else if n < 52 then Char.ofNat (71 + n)
  else if n < 62 then Char.ofNat (n - 4)
  else if n = 62 then '+'
  else '/'

/-- Bytes in digits of six bits, filled up to a multiple of four. -/
def sixBits : List UInt8 → List Char
  | a :: b :: c :: rest =>
    let n := a.toNat * 65536 + b.toNat * 256 + c.toNat
    sixBitDigit (n / 262144) :: sixBitDigit (n / 4096 % 64) :: sixBitDigit (n / 64 % 64) ::
      sixBitDigit (n % 64) :: sixBits rest
  | [a, b] =>
    let n := a.toNat * 1024 + b.toNat * 4
    [sixBitDigit (n / 4096), sixBitDigit (n / 64 % 64), sixBitDigit (n % 64), '=']
  | [a] => [sixBitDigit (a.toNat / 4), sixBitDigit (a.toNat % 4 * 16), '=', '=']
  | [] => []

namespace Request

/-- The header that tells name and password of the address, if it has them. -/
def accountHeaders (url : Url) : List (String × String) :=
  if (url.username.isEmpty && url.password.isNone) || !accountTold url then
    []
  else
    let password := (url.password.map fun text => percentDecode text.toList).getD []
    [("authorization",
      "Basic " ++ String.ofList (sixBits (percentDecode url.username.toList ++ 58 :: password)))]

/-- The host as servers are told it. -/
def hostText (url : Url) : String :=
  ((url.host.map Host.write).getD "") ++
    (match url.portNumber with
    | some number => ":" ++ toString number
    | none => "")

/-- The length of the body; a message that submits something always has one. -/
def lengthHeaders (request : Request) : List (String × String) :=
  match request.verb, request.body with
  | .get, none => []
  | _, body => [("content-length", toString (body.getD "").utf8ByteSize)]

/-- The message of a request. -/
def message (request : Request) : String :=
  let verb := match request.verb with
    | .get => "GET "
    | .post => "POST "
  let headers :=
    [("host", hostText request.url), ("connection", "close"), ("accept", "*/*")] ++
      accountHeaders request.url ++ request.headers ++ request.lengthHeaders
  verb ++ request.url.target ++ " HTTP/1.1\r\n" ++
    String.join (headers.map fun header => header.1 ++ ": " ++ header.2 ++ "\r\n") ++ "\r\n" ++
    request.body.getD ""

end Request

namespace Response

/-- The bytes before and behind the first blank line. -/
def splitHead : List UInt8 → Option (List UInt8 × List UInt8)
  | 13 :: 10 :: 13 :: 10 :: rest => some ([], rest)
  | byte :: rest => (splitHead rest).map fun (head, body) => (byte :: head, body)
  | [] => none

/-- The lines of a head. -/
def headLines : List UInt8 → List (List UInt8)
  | [] => [[]]
  | 13 :: 10 :: rest => [] :: headLines rest
  | byte :: rest =>
    match headLines rest with
    | [] => [[byte]]
    | line :: more => (byte :: line) :: more

/-- The status in the first line of a head. -/
def status? (line : List UInt8) : Option Nat :=
  let text := (Text.decodeLossy line).toList
  if "HTTP/1.".toList.isPrefixOf text then
    let digits := ((text.dropWhile (· != ' ')).drop 1).takeWhile Char.isDigit
    if digits.length = 3 then some (Host.valueOf 10 digits) else none
  else
    none

/-- Bytes without blanks at their ends. -/
def trimBytes (bytes : List UInt8) : List UInt8 :=
  let isBlank (byte : UInt8) : Bool := byte == 32 || byte == 9
  ((bytes.dropWhile isBlank).reverse.dropWhile isBlank).reverse

/-- The value of the first header of a name, given in lower case. -/
def header? (name : String) (lines : List (List UInt8)) : Option (List UInt8) :=
  lines.findSome? fun line =>
    let label := line.takeWhile (· != 58)
    if (Text.decodeLossy label).toLower = name then some (trimBytes (line.drop (label.length + 1)))
    else none

/-- A body in chunks, each behind its length; nothing if its end did not come. -/
def unchunk (fuel : Nat) (bytes : List UInt8) : Option (List UInt8) :=
  match fuel with
  | 0 => none
  | fuel + 1 =>
    let digits := bytes.takeWhile fun byte => (hexDigit? (Char.ofNat byte.toNat)).isSome
    let length := Host.valueOf 16 (digits.map fun byte => Char.ofNat byte.toNat)
    let rest := (bytes.dropWhile (· != 10)).drop 1
    if digits.isEmpty || !bytes.contains 10 || rest.length < length then none
    else if length = 0 then some []
    else (unchunk fuel (rest.drop (length + 2))).map (rest.take length ++ ·)

/-- The body behind a head, or whether the time was up before all of it came. -/
def bodyOf (late : Bool) (status : Nat) (lines : List (List UInt8)) (bytes : List UInt8) :
    Except Bool (List UInt8) :=
  if status = 204 ∨ status = 304 then
    .ok []
  else if ((header? "transfer-encoding" lines).map Text.decodeLossy) = some "chunked" then
    match unchunk (bytes.length + 1) bytes with
    | some body => .ok body
    | none => .error late
  else
    match (header? "content-length" lines).map fun value => (Text.decodeLossy value).toNat? with
    | some (some length) => if bytes.length < length then .error late else .ok (bytes.take length)
    | some none => .error late
    | none => if late then .error true else .ok bytes

/-- The response in the bytes that came, and whether the time was up then. -/
def ofBytes? (late : Bool) (bytes : List UInt8) : Option Response := do
  let (head, rest) ← splitHead bytes
  let lines := headLines head
  let status ← lines.head?.bind status?
  pure
    { status := status
      contentType := header? "content-type" lines
      body := bodyOf late status lines rest }

end Response

/-- The reply in the bytes that came, and whether the time was up then. -/
def Reply.ofBytes (late : Bool) (bytes : List UInt8) : Reply :=
  match Response.ofBytes? late bytes with
  | some found => .response found
  | none => if late then .late else .unreachable

end Web
end AsmNotebook
