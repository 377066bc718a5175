import AsmNotebook.Web.Host

namespace AsmNotebook
namespace Web

/-!
Addresses of the web.  An address is read into its parts, each in its normal
form, and written from them; the segments of its path are resolved, so that none
of them is a dot or two.  Readers take any text that a browser would.
-/

inductive Path
  | segments (items : List String)
  /-- A path that is not cut into segments and cannot be extended. -/
  | plain (text : String)
deriving DecidableEq, Repr

/-- An address.  Its texts are percent-encoded as far as they must be. -/
structure Url where
  scheme : String
  username : String
  password : Option String
  /-- No host, the empty one, or a host. -/
  host : Option Host
  /-- Left out where it is that of the scheme. -/
  portNumber : Option Nat
  path : Path
  query : Option String
  fragment : Option String
deriving DecidableEq, Repr

/-- The number that a host of the network listens on by default, for a scheme that has hosts. -/
def defaultPortNumber? (scheme : String) : Option Nat :=
  match scheme with
  | "http" => some 80
  | "ws" => some 80
  | "https" => some 443
  | "wss" => some 443
  | "ftp" => some 21
  | _ => none

namespace Url

/-- A text without blanks and control characters at its ends, nor tabs and breaks inside. -/
def tidy (cs : List Char) : List Char :=
  let isOuter (c : Char) : Bool := c.toNat ≤ 0x20
  let trimmed := ((cs.dropWhile isOuter).reverse.dropWhile isOuter).reverse
  trimmed.filter fun c => !(c == '\t' || c == '\n' || c == '\r')

def isSchemeChar (c : Char) : Bool :=
  c.isAlphanum || c == '+' || c == '-' || c == '.'

/-- The scheme before a colon, in lower case, and what is behind it. -/
def splitScheme (cs : List Char) : Option (String × List Char) :=
  match cs.head?, cs.dropWhile isSchemeChar with
  | some c, ':' :: rest =>
    if c.isAlpha then some (String.ofList ((cs.takeWhile isSchemeChar).map Char.toLower), rest)
    else none
  | _, _ => none

/-- A text before and behind the first of some character. -/
def splitAtFirst (mark : Char) (cs : List Char) : List Char × Option (List Char) :=
  match cs.dropWhile (· != mark) with
  | [] => (cs, none)
  | _ :: rest => (cs.takeWhile (· != mark), some rest)

/-- A text before and behind the last of some character. -/
def splitAtLast (mark : Char) (cs : List Char) : Option (List Char × List Char) :=
  match cs.reverse.dropWhile (· != mark) with
  | [] => none
  | _ :: before => some (before.reverse, (cs.reverse.takeWhile (· != mark)).reverse)

def isDot (segment : String) : Bool :=
  [".", "%2e", "%2E"].contains segment

def isDoubleDot (segment : String) : Bool :=
  ["..", "%2e%2e", "%2e%2E", "%2E%2e", "%2E%2E", "%2e.", "%2E.", ".%2e", ".%2E"].contains segment

/-- A letter with a colon or a bar: the name of a drive. -/
def isDrive (segment : String) : Bool :=
  match segment.toList with
  | [letter, mark] => letter.isAlpha && (mark == ':' || mark == '|')
  | _ => false

/-- Segments without the last one; a drive alone stays. -/
def shorten (file : Bool) (segments : List String) : List String :=
  if file && segments.length == 1 && segments.all isDrive then segments else segments.dropLast

/-- Resolve a segment behind others: a dot stays in place and two dots step back, and either leaves
an empty segment where it is the last one. -/
def resolve (file last : Bool) (segments : List String) (segment : String) : List String :=
  let ending := if last then [""] else []
  if isDoubleDot segment then shorten file segments ++ ending
  else if isDot segment then segments ++ ending
  else if file && segments.isEmpty && isDrive segment then
    segments ++ [String.ofList (segment.toList.take 1 ++ [':'])]
  else segments ++ [segment]

/-- Resolve segments in order. -/
def resolveAll (file : Bool) (segments : List String) : List String → List String
  | [] => segments
  | [segment] => resolve file true segments segment
  | segment :: rest => resolveAll file (resolve file false segments segment) rest

/-- The segments of a path whose first separator is taken off. -/
def segmentsOf (file special : Bool) (cs : List Char) : List String :=
  let isSeparator (c : Char) : Bool := c == '/' || (special && c == '\\')
  resolveAll file [] ((cut isSeparator cs).map (percentEncode pathSet))

/-- Name and password before the host. -/
structure Account where
  username : String
  password : Option String

/-- The account of a text without its at-sign. -/
def accountOf (cs : List Char) : Account :=
  let (name, password) := splitAtFirst ':' cs
  { username := percentEncode userSet name
    password := (password.filter fun cs => !cs.isEmpty).map (percentEncode userSet) }

/-- The account and the rest of a text that ends with a host and its number. -/
def splitAccount (cs : List Char) : Account × List Char :=
  match splitAtLast '@' cs with
  | none => ({ username := "", password := none }, cs)
  | some (account, rest) => (accountOf account, rest)

/-- A host up to the colon that is not in brackets, and what is behind that. -/
def splitHost (inside : Bool) : List Char → List Char × Option (List Char)
  | [] => ([], none)
  | c :: rest =>
    if c == ':' && !inside then
      ([], some rest)
    else
      let (host, number) := splitHost (c == '[' || (inside && c != ']')) rest
      (c :: host, number)

/-- The number of a host that some digits give, unless it is that of the scheme; no digits give none. -/
def portNumberOf (scheme : String) (cs : List Char) : Except AddressFault (Option Nat) :=
  if cs.all Char.isDigit then
    let number := Host.valueOf 10 cs
    if 65535 < number then .error .portNumber
    else if cs.isEmpty || some number == defaultPortNumber? scheme then .ok none
    else .ok (some number)
  else
    .error .portNumber

/-- The address of a scheme with an account, a host and its number, and the path behind them. -/
def ofAuthority (scheme : String) (special : Bool) (authority : List Char) (path : Path)
    (query fragment : Option String) : Except AddressFault Url := do
  let (account, rest) := splitAccount authority
  let (hostText, numberText) := splitHost false rest
  if hostText.isEmpty && (special || numberText.isSome) then
    throw .emptyHost
  let host ← if special then Host.parse hostText else Host.parsePlain hostText
  let portNumber ← portNumberOf scheme (numberText.getD [])
  if hostText.isEmpty && !(account.username.isEmpty && account.password.isNone) then
    throw .emptyHost
  pure
    { scheme := scheme, username := account.username, password := account.password
      host := some host, portNumber := portNumber, path := path, query := query, fragment := fragment }

/-- An address without an account and the number of a host. -/
def ofPath (scheme : String) (host : Option Host) (path : Path) (query fragment : Option String) :
    Url where
  scheme := scheme
  username := ""
  password := none
  host := host
  portNumber := none
  path := path
  query := query
  fragment := fragment

def isSlash (c : Char) : Bool :=
  c == '/' || c == '\\'

/-- The host of a file. -/
def fileHost (cs : List Char) : Except AddressFault Host :=
  if cs.isEmpty then
    .ok (.name "")
  else
    (Host.parse cs).map fun host => if host = .name "localhost" then .name "" else host

/-- The address of a file; leading empty segments of its path are dropped. -/
def ofFile (cs : List Char) (query fragment : Option String) : Except AddressFault Url := do
  let finish (host : Host) (path : List Char) : Url :=
    let segments := segmentsOf true true path
    let named := match segments with
      | first :: _ => isDrive first
      | [] => false
    let rest := segments.dropWhile String.isEmpty
    ofPath "file" (some (if named then .name "" else host))
      (.segments (if rest.isEmpty then [""] else rest)) query fragment
  match cs with
  | a :: b :: rest =>
    if isSlash a && isSlash b then
      let hostText := rest.takeWhile fun c => !isSlash c
      if isDrive (String.ofList hostText) then
        pure (finish (.name "") rest)
      else
        let host ← fileHost hostText
        pure (finish host (rest.drop (hostText.length + 1)))
    else if isSlash a then
      pure (finish (.name "") (b :: rest))
    else
      pure (finish (.name "") cs)
  | [a] => pure (finish (.name "") (if isSlash a then [] else [a]))
  | [] => pure (finish (.name "") [])

/-- The address behind a scheme, without its query and fragment. -/
def ofScheme (scheme : String) (cs : List Char) (query fragment : Option String) :
    Except AddressFault Url :=
  if scheme = "file" then
    ofFile cs query fragment
  else if (defaultPortNumber? scheme).isSome then
    let rest := cs.dropWhile isSlash
    let authority := rest.takeWhile fun c => !isSlash c
    let path := segmentsOf false true (rest.drop (authority.length + 1))
    ofAuthority scheme true authority (.segments path) query fragment
  else
    match cs with
    | '/' :: '/' :: rest =>
      let authority := rest.takeWhile (· != '/')
      let behind := rest.drop authority.length
      -- An empty account has a host behind it, unless the text ends there.
      if authority == ['@'] && !(behind.isEmpty && query.isNone && fragment.isNone) then
        .error .emptyHost
      else
        let path :=
          match behind with
          | [] => []
          | _ :: path => segmentsOf false false path
        ofAuthority scheme false authority (.segments path) query fragment
    | '/' :: rest => .ok (ofPath scheme none (.segments (segmentsOf false false rest)) query fragment)
    | _ => .ok (ofPath scheme none (.plain (percentEncode (fun _ => false) cs)) query fragment)

/-- Read an address. -/
def parse (text : String) : Except AddressFault Url :=
  match splitScheme (tidy text.toList) with
  | none => .error .noScheme
  | some (scheme, rest) =>
    let special := scheme == "file" || (defaultPortNumber? scheme).isSome
    let (rest, fragment) := splitAtFirst '#' rest
    let (rest, query) := splitAtFirst '?' rest
    let inQuery (c : Char) : Bool := querySet c || (special && c == '\'')
    ofScheme scheme rest (query.map (percentEncode inQuery)) (fragment.map (percentEncode fragmentSet))

def writeAccount (url : Url) : String :=
  match url.password with
  | some password => url.username ++ ":" ++ password ++ "@"
  | none => if url.username.isEmpty then "" else url.username ++ "@"

/-- Account, host and number with the slashes before them. -/
def writeAuthority (url : Url) : String :=
  match url.host with
  | none => ""
  | some host =>
    "//" ++ url.writeAccount ++ host.write ++
      (match url.portNumber with
      | some number => ":" ++ toString number
      | none => "")

/-- The path; where it would read as a host, a dot stands before it. -/
def writePath (url : Url) : String :=
  match url.path with
  | .plain text => text
  | .segments items =>
    let written := String.join (items.map ("/" ++ ·))
    match url.host, items with
    | none, "" :: _ :: _ => "/." ++ written
    | _, _ => written

/-- Path and query: what a server is asked for. -/
def target (url : Url) : String :=
  url.writePath ++
    (match url.query with
    | some query => "?" ++ query
    | none => "")

/-- The text of an address. -/
def write (url : Url) : String :=
  url.scheme ++ ":" ++ url.writeAuthority ++ url.target ++
    (match url.fragment with
    | some fragment => "#" ++ fragment
    | none => "")

/-- Whether other addresses can be built on one. -/
def isBase (url : Url) : Bool :=
  match url.path with
  | .segments _ => true
  | .plain _ => false

/-- Whether an address names a host. -/
def hasHost (url : Url) : Bool :=
  match url.host with
  | some host => host != .name ""
  | none => false

/-- Segments without an empty last one behind others. -/
def withoutSlash (segments : List String) : List String :=
  if 1 < segments.length && segments.getLast? == some "" then segments.dropLast else segments

/-- Segments with one more behind them; dots are no names and add nothing. -/
def pushSegment (special : Bool) (segments : List String) (name : String) : List String :=
  if name == "." || name == ".." then
    segments
  else
    let before := if segments == [""] then [] else segments
    let inSegment (c : Char) : Bool := segmentSet c || (special && c == '\\')
    let tidied := name.toList.filter fun c => !(c == '\t' || c == '\n' || c == '\r')
    resolve false true before (percentEncode inSegment tidied)

/-- The address with names behind its path. -/
def join (url : Url) (names : List String) : Url :=
  match url.path with
  | .plain _ => url
  | .segments items =>
    let special := url.scheme == "file" || (defaultPortNumber? url.scheme).isSome
    { url with path := .segments (names.foldl (pushSegment special) (withoutSlash items)) }

end Url

end Web
end AsmNotebook
