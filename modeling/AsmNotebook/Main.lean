import AsmNotebook.Calendar
import AsmNotebook.CommandLine
import AsmNotebook.Session.Autosaver
import AsmNotebook.Web.Wire
import Std.Async.DNS
import Std.Async.TCP
import Std.Time.DateTime.Timestamp

namespace AsmNotebook
namespace Console

/-!
The program at a terminal: files, the clock and connections for a run, and a
prompt that reads a line at a time and keeps the notebook in quiet moments.
-/

/-- The fault of a file that an error of the system stands for. -/
def fileFault (error : IO.Error) : FileFault :=
  let ofCode (code : UInt32) (details : String) : FileFault :=
    match code with
    | 2 => .notFound
    | 17 => .exists
    | 20 => .notDirectory
    | 21 => .isDirectory
    | code => .other (details ++ " (os error " ++ toString code ++ ")")
  match error with
  | .noFileOrDirectory _ code details => ofCode code details
  | .alreadyExists _ code details => ofCode code details
  | .inappropriateType _ code details => ofCode code details
  | .permissionDenied _ code details => ofCode code details
  | .invalidArgument _ code details => ofCode code details
  | .noSuchThing _ code details => ofCode code details
  | .resourceExhausted _ code details => ofCode code details
  | .otherError code details => ofCode code details
  | error => .other (toString error)

/-- Work on files, with errors of the system as faults. -/
def onFiles {α : Type} (work : IO α) : IO (Except FileFault α) := do
  match ← work.toBaseIO with
  | .ok value => pure (.ok value)
  | .error error => pure (.error (fileFault error))

def fileText (path : String) : IO (Except FileFault String) := do
  match ← onFiles (IO.FS.readBinFile path) with
  | .error fault => pure (.error fault)
  | .ok bytes =>
    match Text.decode bytes.toList with
    | .ok text => pure (.ok text)
    | .error _ => pure (.error .notText)

/-- The directory that a path lies in. -/
def directoryOf (path : String) : String :=
  match Web.Url.splitAtLast '/' path.toList with
  | some (before, _) => String.ofList before
  | none => ""

/-- Replace the contents of a file, making the directories it lies in. -/
def saveFile (path text : String) : IO (Except FileFault Unit) :=
  onFiles do
    let directory := directoryOf path
    if !directory.isEmpty then
      IO.FS.createDirAll directory
    IO.FS.writeFile path text

/-- Seconds and nanoseconds since the beginning of 1970. -/
def clock : IO (Int × Nat) := do
  let now ← Std.Time.Timestamp.now
  let nanos := now.toNanosecondsSinceUnixEpoch.val
  pure (nanos / 1000000000, (nanos % 1000000000).toNat)

def errand : (task : Errand) → IO task.Reply
  | .fileText path => fileText path
  | .fileExists path => do
    match ← onFiles (IO.FS.readBinFile path) with
    | .error .notFound => pure false
    | .error .notDirectory => pure false
    | _ => pure true
  | .replaceFile path text => onFiles (IO.FS.writeFile path text)
  | .saveFile path text => saveFile path text
  | .now => do
    let (seconds, nanos) ← clock
    pure (Calendar.writeTime seconds nanos)
  | .today => do
    let (seconds, _) ← clock
    pure (Calendar.dateOf (seconds / 86400)).write

/-- The addresses of a host. -/
def addresses (host : Web.Host) : Std.Async.Async (List Std.Net.IPAddr) :=
  match host with
  | .ipv4 value =>
    let part (n : Nat) : UInt8 := UInt8.ofNat (value / Nat.pow 256 n)
    pure [.v4 (.ofParts (part 3) (part 2) (part 1) (part 0))]
  | .ipv6 groups =>
    let part (n : Nat) : UInt16 := UInt16.ofNat (groups[n]?.getD 0)
    pure [.v6 (.ofParts (part 0) (part 1) (part 2) (part 3) (part 4) (part 5) (part 6) (part 7))]
  | .name text => do
    let found ← Std.Async.DNS.getAddrInfo text ""
    pure found.toList

/-- Take in what comes until the other side closes the connection. -/
partial def takeIn (socket : Std.Async.TCP.Socket.Client) (taken : IO.Ref (List ByteArray)) :
    Std.Async.Async Unit := do
  match ← socket.recv? 65536 with
  | some bytes =>
    taken.modify (bytes :: ·)
    takeIn socket taken
  | none => pure ()

/-- Connect to the first of some addresses that answers. -/
def connect (number : UInt16) : List Std.Net.IPAddr → Std.Async.Async Std.Async.TCP.Socket.Client
  | [] => throw (IO.userError "no address")
  | address :: rest => do
    let socket ← Std.Async.TCP.Socket.Client.mk
    let target : Std.Net.SocketAddress :=
      match address with
      | .v4 address => .v4 ⟨address, number⟩
      | .v6 address => .v6 ⟨address, number⟩
    try
      socket.connect target
      pure socket
    catch _ => connect number rest

/-- Send a request and take in the response. -/
def converseWith (request : Web.Request) (taken : IO.Ref (List ByteArray)) :
    Std.Async.Async Unit := do
  let found ← addresses (request.url.host.getD (.name ""))
  let number := request.url.portNumber.getD ((Web.defaultPortNumber? request.url.scheme).getD 80)
  let socket ← connect (UInt16.ofNat number) found
  socket.send request.message.toUTF8
  takeIn socket taken

/-- Wait for the end of some work until a time on the clock; the result says whether it ended. -/
partial def awaitUntil {α : Type} (deadline : Nat) (work : Task α) : IO Bool := do
  if ← IO.hasFinished work then
    pure true
  else if deadline ≤ (← IO.monoMsNow) then
    pure false
  else
    IO.sleep 5
    awaitUntil deadline work

/-- Do an exchange.  Connections are not encrypted, so nothing answers where they must be. -/
def exchange (request : Web.Request) : IO Web.Reply := do
  match request.check, request.url.scheme with
  | .ok (), "http" =>
    let taken ← IO.mkRef ([] : List ByteArray)
    let deadline := (← IO.monoMsNow) + request.timeoutMs
    let work ← (converseWith request taken).toIO
    let ended ← awaitUntil deadline work
    let bytes ← taken.get
    pure (.ofBytes (!ended) (bytes.reverse.flatMap ByteArray.toList))
  | _, _ => pure .unreachable

/-- Do what a run asks for. -/
def perform {α : Type} : Launch.Errands α → IO α
  | .done value => pure value
  | .ask (.exchange request) next => do
    let reply ← exchange request
    perform (next reply)
  | .ask (.errand task) next => do
    let reply ← errand task
    perform (next reply)

/-- The bytes of a line with its end. -/
partial def readLine (input : IO.FS.Stream) (line : List UInt8) : IO (List UInt8) := do
  match (← input.read 1).toList with
  | [byte] => if byte == 10 then pure (byte :: line).reverse else readLine input (byte :: line)
  | _ => pure line.reverse

/-- A prompt that is being used. -/
structure Seat where
  services : Services
  state : Prompt.State
  saver : Autosaver
  /-- Number of announcements that the autosaver has heard. -/
  heard : Nat
  /-- When the last one was made. -/
  lastHeard : Nat

/-- Let the autosaver hear what was announced. -/
def Seat.listen (seat : Seat) : IO Seat := do
  let news := seat.state.app.events.drop seat.heard
  if news.isEmpty then
    pure seat
  else
    let saver := (seat.saver.hearAll news).catchUp
    pure
      { seat with
        saver := saver
        heard := seat.state.app.events.length
        lastHeard := ← IO.monoMsNow }

/-- Keep the notebook if it has been quiet for long enough. -/
def Seat.keep (path : String) (delay : Nat) (seat : Seat) : IO Seat := do
  if seat.saver.phase = .settling ∧ seat.lastHeard + delay ≤ (← IO.monoMsNow) then
    let (seconds, nanos) ← clock
    let time := Calendar.writeTime seconds nanos
    let _ ← saveFile path (seat.state.app.notebook.save time)
    pure { seat with saver := seat.saver.quiet time seat.state.app.notebook }
  else
    pure seat

/-- Wait for a line; meanwhile the notebook is kept in quiet moments. -/
partial def awaitLine (path : String) (delay : Nat) (line : Task (Except IO.Error (List UInt8)))
    (seat : Seat) : IO (Seat × List UInt8) := do
  if ← awaitUntil ((← IO.monoMsNow) + 100) line then
    match line.get with
    | .ok bytes => pure (seat, bytes)
    | .error error => throw error
  else
    awaitLine path delay line (← seat.keep path delay)

/-- Read lines until the prompt ends; the result is what it leaves and why it could not read on. -/
partial def converse (path : String) (delay : Nat) (seat : Seat) : IO (App × Option String) := do
  let input ← IO.getStdin
  let output ← IO.getStdout
  let (seat, bytes) ← awaitLine path delay (← IO.asTask (readLine input [])) seat
  let (step, last) : Work Prompt.Response × Bool :=
    match Text.byteLines bytes with
    | .ok line :: _ => (Prompt.take seat.state line, false)
    | _ => (Prompt.finish seat.state, true)
  match Text.byteLines bytes with
  | .error invalid :: _ => pure (seat.state.app, some invalid.message)
  | _ =>
    let (services, response) ← perform (Launch.serve seat.services step)
    output.putStr response.shown
    output.flush
    let seat ← { seat with services := services, state := response.state }.listen
    if last || response.ended then
      pure (response.state.app, none)
    else
      converse path delay seat

/-- The prompt over the notebook of a session. -/
def session (settings : Settings) (path : String) (firstId : Nat) : IO Launch.Ending := do
  let state ← perform (Launch.openSession path firstId)
  match Launch.services settings with
  | .error fault => pure (.failed fault.message)
  | .ok services =>
    IO.print (Launch.banner settings)
    let seat : Seat :=
      { services := services, state := state, saver := .start none, heard := 0, lastHeard := 0 }
    let (app, unread) ← converse path settings.autosaveDelayMs.toNat seat
    let unsaved ← perform (Launch.closeSession path app)
    let unread : Option Report := unread.map fun text => { text := text, cause := none }
    pure { shown := "", failure := unsaved.or unread }

/-- Run the program as its command line asks. -/
def run (invocation : Invocation) : IO Launch.Ending := do
  let places := Launch.Places.ofEnvironment (← IO.getEnv "HOME") (← IO.getEnv "XDG_CONFIG_HOME")
    (← IO.getEnv "XDG_DATA_HOME")
  let firstId ← IO.rand 0 (Nat.pow 2 118)
  match invocation.mode with
  | .prompt =>
    let settings ← perform (Launch.settings places invocation.options)
    session settings (invocation.options.sessionPath.getD places.session) firstId
  | mode => perform (Launch.run places invocation.options mode firstId [])

end Console
end AsmNotebook

open AsmNotebook in
/-- The program. -/
def main (arguments : List String) : IO UInt32 := do
  match CommandLine.parse? arguments with
  | none =>
    IO.eprint CommandLine.usage
    pure 2
  | some invocation =>
    let ending ← Console.run invocation
    IO.print ending.shown
    match ending.failure with
    | none => pure 0
    | some report =>
      IO.eprint report.block
      pure 1
