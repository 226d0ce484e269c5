import ModuleBridge.Endpoint
import ModuleBridge.Host.Address
import ModuleBridge.Text.Percent

/-!
# The address of a request

A request is posted to a path on the host and port that an endpoint names. The endpoint is read as
the front of an address: an at sign ends the name of a user, the host goes up to the port, or to
what begins a path, a query or a fragment. Users are not shown, and the host and all else are shown
in ASCII.
-/

namespace ModuleBridge.Session

/-- The path under which sessions take requests. Reference: `API_PATH`. -/
def apiPath : String := "api/session/python/"

/-- The address to which the paths of an endpoint's requests are appended. Reference: `base_url`. -/
def baseUrl (endpoint : SessionEndpoint) : String :=
  s!"http://{endpoint.text}/{apiPath}"

/-- Why an address is none to which a request can be posted. -/
inductive UrlFault
  | emptyHost
  | invalidName
  | invalidBytes
  | invalidPieces
  | invalidPort
  /-- The address has characters that a request cannot have, or it is too long. -/
  | unusable (url : String)
  deriving DecidableEq, Repr

/-- The texts of a fault, outermost first. -/
def UrlFault.reasons : UrlFault → List String
  | .emptyHost => ["builder error", "empty host"]
  | .invalidName => ["builder error", "invalid international domain name"]
  | .invalidBytes => ["builder error", "invalid IPv4 address"]
  | .invalidPieces => ["builder error", "invalid IPv6 address"]
  | .invalidPort => ["builder error", "invalid port number"]
  | .unusable url => [s!"builder error for url ({url})", "Parsed Url is not a valid Uri"]

/-! ## Hosts and ports -/

/-- The host as it is shown. -/
def readHost (host : List Char) : Except UrlFault String :=
  match host with
  | [] => .error .emptyHost
  | '[' :: inner =>
    match inner.getLast?, Host.pieces? inner.dropLast with
    | some ']', some pieces => .ok s!"[{Host.piecesText pieces}]"
    | _, _ => .error .invalidPieces
  | _ =>
    match (Text.Percent.decode? host).bind Host.Name.toAscii? with
    | none => .error .invalidName
    | some [] => .error .emptyHost
    | some name =>
      if Host.isNumeric name then
        match Host.bytes? (Host.parts name) with
        | some bytes => .ok (Host.bytesText bytes)
        | none => .error .invalidBytes
      else .ok (String.ofList name)

/-- The host at the front of some characters, and what follows it. A colon in square brackets
belongs to it. -/
def splitHost (isBracketed : Bool) : List Char → List Char × List Char
  | [] => ([], [])
  | c :: cs =>
    if c = ':' && !isBracketed then ([], c :: cs)
    else
      let (host, rest) := splitHost (if c = '[' then true else isBracketed && c ≠ ']') cs
      (c :: host, rest)

/-- The largest port. -/
def portLimit : Nat := 65535

/-- The port on which requests are posted unless another is given. -/
def defaultPort : Nat := 80

/-- The port after a host. The default one is not shown. -/
def readPort (cs : List Char) : Except UrlFault String :=
  match cs with
  | [] => .ok ""
  | _ :: digits =>
    let port := Host.digitsValue 10 digits
    if !digits.all Char.isDigit || portLimit < port then .error .invalidPort
    else if digits.isEmpty || port = defaultPort then .ok ""
    else .ok s!":{port}"

/-! ## Users -/

/-- Is the character written with a percent sign in the name or the password of a user? -/
def isEncodedInUser (c : Char) : Bool :=
  c.toNat ≤ 0x20 || c = '\x7f' || ['"', '#', '<', '>', '?', '`', '\x7b', '\x7d', '/', ':', ';',
    '=', '@', '[', '\\', ']', '^', '|'].contains c

/-- The user in front of a host as it is shown. A user is known by a name or a password. One that is
known is sent apart from the address and not shown in it, but a name that is no text makes none
known, and a password that is no text does not do without a name. -/
def userText (user : List Char) : String :=
  let name := user.takeWhile (· ≠ ':')
  let password := user.drop (name.length + 1)
  let isReadable := fun cs => (Text.Percent.decode? cs).isSome
  let isShown := !isReadable name || (name.isEmpty && !isReadable password)
  let shown := fun cs => String.ofList (Text.Percent.encode isEncodedInUser cs)
  if !isShown then ""
  else if password.isEmpty then s!"{shown name}@"
  else s!"{shown name}:{shown password}@"

/-- The user and the host with its port. The last at sign stands between them. -/
def splitUser (authority : List Char) : List Char × List Char :=
  let host := (authority.reverse.takeWhile (· ≠ '@')).reverse
  (authority.take (authority.length - host.length - 1), host)

/-! ## Queries and fragments -/

/-- Is the character written with a percent sign in a fragment? -/
def isEncodedInFragment (c : Char) : Bool :=
  c.toNat ≤ 0x20 || c = '\x7f' || ['"', '<', '>', '`'].contains c

/-- Is the character written with a percent sign in a query? -/
def isEncodedInQuery (c : Char) : Bool :=
  c.toNat ≤ 0x20 || c = '\x7f' || ['"', '<', '>', '\''].contains c

/-- What follows host and port as it is shown. A path is there in any case. -/
def pathText (rest : List Char) : String :=
  let front := rest.takeWhile (· ≠ '#')
  let path := front.takeWhile (· ≠ '?')
  let query := Text.Percent.encode isEncodedInQuery (front.drop path.length)
  let fragment := Text.Percent.encode isEncodedInFragment (rest.drop front.length)
  String.ofList ((if path.isEmpty then ['/'] else path) ++ query ++ fragment)

/-! ## Addresses -/

/-- Does the character end the front of an address? -/
def endsAuthority (c : Char) : Bool :=
  c = '/' || c = '?' || c = '#'

/-- May the character not stand in the host of a request? -/
def isUnusable (c : Char) : Bool :=
  ['"', '`', '\x7b', '\x7d'].contains c

/-- The most bytes that the address of a request may have. -/
def urlLimit : Nat := 65534

/-- The address to which a request goes that is posted to an operation of an endpoint. -/
def requestUrl (endpoint : SessionEndpoint) (operation : String) : Except UrlFault String := do
  let cs := s!"{endpoint.text}/{apiPath}{operation}".toList
  let authority := cs.takeWhile fun c => !endsAuthority c
  let (user, place) := splitUser authority
  let (host, port) := splitHost false place
  let host ← readHost host
  let port ← readPort port
  let url := s!"http://{userText user}{host}{port}{pathText (cs.drop authority.length)}"
  if host.toList.any isUnusable || urlLimit < url.utf8ByteSize then throw (.unusable url)
  return url

end ModuleBridge.Session
