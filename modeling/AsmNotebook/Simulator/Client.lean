import AsmNotebook.Json.Reader
import AsmNotebook.Simulator.Answer
import AsmNotebook.Web.Exchange

namespace AsmNotebook
namespace Simulator

/-!
The simulator as a service of the web: the request for each thing it does, and
the answer that every outcome of such a request stands for.  No outcome is
without an answer, and nothing is tried twice.
-/

/-- Where the service is, and how long it may take. -/
structure Client where
  base : Web.Url
  timeoutMs : Nat
deriving DecidableEq, Repr

/-- Why an address cannot be that of the service. -/
inductive BaseFault
  | malformed (text : String) (fault : Web.AddressFault)
  /-- No other address can be built on it. -/
  | notBase (url : Web.Url)
deriving DecidableEq, Repr

def BaseFault.message : BaseFault → String
  | malformed text fault => "Invalid backend URL: " ++ text ++ ": " ++ fault.message
  | notBase url => "Invalid backend URL: " ++ url.write

namespace Client

/-- How long an exchange may take if nothing else is said. -/
def standardTimeoutMs : Nat := 30000

/-- How long the service may take to say that it is there. -/
def healthTimeoutMs : Nat := 5000

/-- The client of the service at an address. -/
def ofBase (address : String) (timeoutMs : Nat) : Except BaseFault Client :=
  match Web.Url.parse address with
  | .error fault => .error (.malformed address fault)
  | .ok url => if url.isBase then .ok { base := url, timeoutMs := timeoutMs } else .error (.notBase url)

def endpoint (client : Client) (names : List String) : Web.Url :=
  client.base.join names

/-- The document that carries code. -/
def codeDocument (code : String) : Json :=
  .object [("code", .text code)]

def executeRequest (client : Client) (code : String) : Web.Request :=
  .post (client.endpoint ["api", "execute"]) (some (codeDocument code)) client.timeoutMs

def assembleRequest (client : Client) (source : String) : Web.Request :=
  .post (client.endpoint ["api", "assemble"]) (some (codeDocument source)) client.timeoutMs

def resetRequest (client : Client) : Web.Request :=
  .post (client.endpoint ["api", "reset"]) none client.timeoutMs

def docsRequest (client : Client) (instruction : String) : Web.Request :=
  .get (client.endpoint ["api", "docs", instruction]) client.timeoutMs

def timingRequest (client : Client) (instruction : String) : Web.Request :=
  .get (client.endpoint ["api", "timing", instruction]) client.timeoutMs

def healthRequest (client : Client) : Web.Request :=
  .get (client.endpoint ["health"]) healthTimeoutMs

/-- What a fault of the transport is shown as. -/
def faultText (client : Client) (fault : Web.TransportFault) : String :=
  if fault.isLate then "Request timeout after " ++ toString client.timeoutMs ++ "ms"
  else "Failed to connect to backend: " ++ fault.message

/-- What came of a request, once the whole body was read. -/
def receive (outcome : Except Web.TransportFault Web.Response) :
    Except Web.TransportFault (Web.Response × String) :=
  match outcome with
  | .error fault => .error fault
  | .ok response => response.text.map fun text => (response, text)

/-- The answer to a request to execute code.  The service says in a header that it answers with a
document. -/
def execution (client : Client) (code : String) (outcome : Except Web.TransportFault Web.Response) :
    Execution :=
  match receive outcome with
  | .error fault => .plain (networkFailure connectionTitle (client.faultText fault) (some code))
  | .ok (response, text) =>
    if response.isJson then
      match Json.parse text with
      | .ok document => ofExecute document code
      | .error _ => .plain (serverFailure code)
    else
      .plain (serverFailure code)

/-- The answer that a document stands for, or the failure to get a document. -/
def answer {α : Type} (client : Client) (title : String) (failed : Output → α) (normal : Json → α)
    (outcome : Except Web.TransportFault Web.Response) : α :=
  match receive outcome with
  | .error fault => failed (networkFailure title (client.faultText fault) none)
  | .ok (_, text) =>
    match Json.parse text with
    | .ok document => normal document
    | .error error =>
      failed (.fail .server (some title) ("Unexpected response from backend: " ++ error.message) none)

/-- Whether the service says that it is there. -/
def isHealthy (outcome : Except Web.TransportFault Web.Response) : Bool :=
  match outcome with
  | .ok response => response.isSuccess
  | .error _ => false

end Client

end Simulator
end AsmNotebook
