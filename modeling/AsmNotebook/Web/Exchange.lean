import AsmNotebook.Json.Printer
import AsmNotebook.Text.Blank
import AsmNotebook.Text.Utf8
import AsmNotebook.Web.Url

namespace AsmNotebook
namespace Web

/-!
Exchanges with a server: a request, and what came of it.  Sending is the work of
the world outside; here a request says all that is to be sent, and a reply all
that came back.
-/

inductive Verb
  | get
  | post
deriving DecidableEq, Repr

/-- A request.  Name and password stand in the address until it is sent. -/
structure Request where
  verb : Verb
  url : Url
  headers : List (String × String)
  body : Option String
  /-- How long the whole exchange may take. -/
  timeoutMs : Nat
deriving DecidableEq, Repr

/-- Why there is no whole response. -/
inductive TransportFault
  /-- There was no request to send, or its address is not one of the web. -/
  | unsendable (url : Option String)
  /-- No response came from the address. -/
  | unanswered (url : String) (late : Bool)
  /-- The body of the response broke off. -/
  | broken (late : Bool)
deriving DecidableEq, Repr

namespace TransportFault

def message : TransportFault → String
  | unsendable none => "builder error"
  | unsendable (some url) => "builder error for url (" ++ url ++ ")"
  | unanswered url _ => "error sending request for url (" ++ url ++ ")"
  | broken _ => "error decoding response body"

/-- Whether the time was up. -/
def isLate : TransportFault → Bool
  | unsendable _ => false
  | unanswered _ late => late
  | broken late => late

end TransportFault

/-- A response. -/
structure Response where
  status : Nat
  contentType : Option (List UInt8)
  /-- The body, unless it broke off; then, whether the time was up. -/
  body : Except Bool (List UInt8)

namespace Response

/-- Whether the status is one of success. -/
def isSuccess (response : Response) : Bool :=
  200 ≤ response.status && response.status < 300

/-- The body as text; bytes that are no characters are replaced. -/
def text (response : Response) : Except TransportFault String :=
  match response.body with
  | .ok bytes => .ok (Text.decodeLossy bytes)
  | .error late => .error (.broken late)

/-- Whether the header says that the body is a document; a header beyond printable ASCII does not
count. -/
def isJson (response : Response) : Bool :=
  match response.contentType with
  | none => false
  | some bytes =>
    bytes.all (fun byte => byte == 9 || (0x20 ≤ byte && byte < 0x7F)) &&
      Text.holds "application/json" (Text.decodeLossy bytes)

end Response

/-- What comes back for a request. -/
inductive Reply
  | response (response : Response)
  /-- No connection, or one that was closed before a response. -/
  | unreachable
  | late

namespace Request

/-- The header of a body that is a document. -/
def jsonHeader : String × String :=
  ("content-type", "application/json")

/-- A request for the document at an address. -/
def get (url : Url) (timeoutMs : Nat) : Request where
  verb := .get
  url := url
  headers := []
  body := none
  timeoutMs := timeoutMs

/-- A request that submits a document, or nothing. -/
def post (url : Url) (document : Option Json) (timeoutMs : Nat) : Request where
  verb := .post
  url := url
  headers := if document.isSome then [jsonHeader] else []
  body := document.map Json.compact
  timeoutMs := timeoutMs

/-- Whether name and password can be told to the server: the name must be text. -/
def accountTold (url : Url) : Bool :=
  match Text.decode (percentDecode url.username.toList) with
  | .ok _ => true
  | .error _ => false

/-- The address as messages show it, without name and password. -/
def shownUrl (request : Request) : String :=
  if accountTold request.url then
    { request.url with username := "", password := none }.write
  else
    request.url.write

/-- Whether a request can be sent: its address is one of the web and its headers hold no control
characters. -/
def check (request : Request) : Except TransportFault Unit :=
  let fits (c : Char) : Bool := c == '\t' || !isControl c
  if !request.url.hasHost then
    .error (.unsendable (some request.shownUrl))
  else if !request.headers.all (fun header => header.2.toList.all fits) then
    .error (.unsendable none)
  else if request.url.scheme == "http" || request.url.scheme == "https" then
    .ok ()
  else
    .error (.unsendable (some request.shownUrl))

/-- What came of a request; a reply to one that cannot be sent does not count. -/
def outcome (request : Request) (reply : Reply) : Except TransportFault Response :=
  match request.check with
  | .error fault => .error fault
  | .ok () =>
    match reply with
    | .response response => .ok response
    | .unreachable => .error (.unanswered request.shownUrl false)
    | .late => .error (.unanswered request.shownUrl true)

end Request

end Web
end AsmNotebook
