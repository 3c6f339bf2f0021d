import ClusterConsole.Execution
import ClusterConsole.Http.Body
import ClusterConsole.Http.Excerpt
import ClusterConsole.Http.Wire

/-!
# Sending requests over connections

A request goes to the server that its URL names.  An answer may redirect it; then the next request
is for the resource that the answer names, and so on, up to ten times.  Whatever goes wrong there is
told with the first URL.

What the network does is given by a `Network`: what comes back for each of these requests, one after
the other, and why there is no connection for one more.  An answer ends by itself or with its
connection, so it does not matter here whether the next request has a new connection or one that was
kept open; that is left to the network.

`exchange` gives what came of a request, and what was sent; `transport` is the way of sending that
also keeps a log.
-/

set_option autoImplicit false

namespace ClusterConsole
namespace Http

/-- What came back for a request, up to the close of its connection or to the next request over
it. -/
abbrev Arrived := List UInt8

/-- What the network does: what comes back for each request, whichever connection it goes over, and
why there is no connection for one more. -/
structure Network where
  arrived : List Arrived
  refusal : String

/-- The cause when nobody listens at a port. -/
def Network.nobodyThere : String := "tcp connect error: Connection refused (os error 111)"

/-- The network that gives these bytes for one request each, and then refuses further
connections. -/
def Network.ofArrived (arrived : List Arrived) : Network := ⟨arrived, Network.nobodyThere⟩

/-- Why a request got no answer. -/
inductive SendFault where
  | invalidUrl (cause : Url.Fault)
  | schemeNotAllowed (url : Url)
  | noConnection (url : Url) (cause : String)
  | unreadable (url : Url) (cause : HeadFault)
  | redirectedTooOften (url : Url)
  | brokenBody (cause : BodyFault)
  deriving DecidableEq, Repr

/-- A URL as it is told. -/
def shownUrl (url : Url) : String := " for url (" ++ String.ofList url.text ++ ")"

/-- How it is told, with its causes. -/
def SendFault.message : SendFault → String
  | .invalidUrl cause => "builder error: " ++ cause.message
  | .schemeNotAllowed url => "builder error" ++ shownUrl url ++ ": URL scheme is not allowed"
  | .noConnection url cause =>
    "error sending request" ++ shownUrl url ++ ": client error (Connect): " ++ cause
  | .unreadable url cause =>
    "error sending request" ++ shownUrl url ++ ": client error (SendRequest): " ++ cause.message
  | .redirectedTooOften url => "error following redirect" ++ shownUrl url ++ ": too many redirects"
  | .brokenBody cause =>
    "error decoding response body: error reading a body from connection: " ++ cause.message

/-- Bytes as the characters with the same numbers. -/
def characters (bytes : Arrived) : List Char := bytes.map fun b ↦ Char.ofNat b.toNat

/-! ## Redirection -/

/-- Can the text be a reference to another resource? -/
def isReference : List Char → Bool
  | [] => true
  | '%' :: a :: b :: rest =>
    (Text.Percent.hexValue? a).isSome && (Text.Percent.hexValue? b).isSome && isReference rest
  | c :: rest =>
    Url.isVisible c && c ∉ ['%', '"', '<', '>', '\\', '^', '\x60', '{', '|', '}'] &&
      isReference rest

/-- Where an answer redirects the request to, if it does. -/
def Head.target? (h : Head) (url : Url) : Option Url :=
  if [301, 302, 303, 307, 308].contains h.status then
    match (h.values "location").head? with
    | some reference =>
      if isReference reference then (url.resolve reference).toOption else none
    | none => none
  else none

/-- The request after a redirection.  It is made a question if the status code says so, and two more
codes make questions of requests that post something. -/
def Request.redirected (r : Request) (status : Nat) : Request :=
  if status = 303 then
    { r with method := if r.method.text = "HEAD" then r.method else .get, body := none }
  else if (status = 301 || status = 302) && r.method = .post then
    { r with method := .get, body := none }
  else r

/-! ## The exchange -/

/-- A connection for a request, and what is to be sent over it. -/
structure Connection where
  host : Url.Host
  port : Nat
  isSecure : Bool
  wire : Wire
  deriving DecidableEq, Repr

/-- The connection for a request to a URL. -/
def Connection.of (url : Url) (authority : Url.Authority) (wire : Wire) : Connection where
  host := authority.host
  port := (authority.port.or (Url.Authority.defaultPort? url.scheme)).getD 0
  isSecure := url.isSecure
  wire := wire

/-- What came of a request, all requests that were sent, and the connection that was asked for in
vain. -/
structure Exchange where
  result : Except SendFault Response
  sent : List Wire
  wanted : Option Connection

/-- An answer: a response, or a redirection by a status code to another URL. -/
inductive Answer where
  | response (r : Response)
  | redirection (status : Nat) (url : Url)

/-- Reads what came back for a request to a URL. -/
def readAnswer (first url : Url) (method : String) (arrived : Arrived) : Except SendFault Answer :=
  let s := characters arrived
  match Head.read (s.length + 1) s with
  | .error cause => .error (.unreadable first cause)
  | .ok (head, rest) =>
    match Framing.of method head with
    | .error cause => .error (.unreadable first cause)
    | .ok framing =>
      match head.target? url with
      | some target => .ok (.redirection head.status target)
      | none =>
        match framing.read rest with
        | .error cause => .error (.brokenBody cause)
        | .ok body => .ok (.response (.standard head.status (bodyText body)))

/-- Has everything come back that belongs to the answer, so that more need not be waited for? -/
def isComplete (method : String) (arrived : Arrived) : Bool :=
  let s := characters arrived
  match Head.read (s.length + 1) s with
  | .error cause => cause != .closed
  | .ok (head, rest) =>
    match Framing.of method head with
    | .error _ => true
    | .ok .untilClose => false
    | .ok framing =>
      match framing.read rest with
      | .ok _ => true
      | .error cause => cause != .incomplete && cause != .incompleteLine

/-- Sends a request from an origin, and sends it on as long as it is redirected; `budget` is how
often it still may be.  Faults are told with the `first` URL. -/
def follow (refusal : String) (first : Url) (budget : Nat) (origin : Wire.Origin) (r : Request)
    (url : Url) (authority : Url.Authority) : List Arrived → Exchange
  | [] =>
    ⟨.error (.noConnection first refusal), [],
      some (.of url authority (.ofRequestFrom origin r url authority))⟩
  | arrived :: more =>
    let wire := Wire.ofRequestFrom origin r url authority
    match readAnswer first url wire.method arrived with
    | .error fault => ⟨.error fault, [wire], none⟩
    | .ok (.response response) => ⟨.ok response, [wire], none⟩
    | .ok (.redirection status target) =>
      match budget, target.webAuthority? with
      | 0, _ => ⟨.error (.redirectedTooOften first), [wire], none⟩
      | _, none => ⟨.error (.schemeNotAllowed target), [wire], none⟩
      | budget + 1, some next =>
        let rest := follow refusal first budget (origin.redirected url target)
          (r.redirected status) target next more
        { rest with sent := wire :: rest.sent }

/-- How often a request may be redirected. -/
def maxRedirections : Nat := 10

/-- Sends a request. -/
def exchange (network : Network) (r : Request) : Exchange :=
  match Url.parse r.url.toList with
  | .error cause => ⟨.error (.invalidUrl cause), [], none⟩
  | .ok url =>
    let shown := if (url.authority.bind Wire.credentials?).isSome then url.withoutUser else url
    match url.webAuthority? with
    | none => ⟨.error (.schemeNotAllowed shown), [], none⟩
    | some authority =>
      follow network.refusal shown maxRedirections (.first authority) r url authority
        network.arrived

/-! ## The log -/

/-- What is logged of a request before it is sent. -/
def requestEntry (r : Request) : LogEntry :=
  ⟨.debug, Log.requestMark ++ " " ++ r.method.text ++ " " ++ r.url⟩

/-- A status code with its standard reason. -/
def statusText (status : Nat) : String :=
  toString status ++ " " ++ (reason? status).getD "<unknown status code>"

/-- What is logged of a response. -/
def responseEntry (r : Response) : LogEntry :=
  if isSuccess r.status then
    ⟨.debug, Log.requestMark ++ " " ++ statusText r.status ++ " (" ++
      toString (Text.byteCount r.body.toList) ++ " bytes)"⟩
  else
    ⟨.warn, Log.requestMark ++ " API error: " ++ statusText r.status ++ " - " ++ excerpt r.body⟩

/-- The way of sending requests over a network. -/
def transport (network : Network) : Transport := fun r ↦
  match (exchange network r).result with
  | .error fault => ⟨.error fault.message, [requestEntry r]⟩
  | .ok response => ⟨.ok response, [requestEntry r, responseEntry response]⟩

end Http
end ClusterConsole
