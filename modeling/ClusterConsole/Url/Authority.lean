import ClusterConsole.Text.Numeral
import ClusterConsole.Url.Host
import ClusterConsole.Url.Path

/-!
# The authority in a URL

What stands between the two slashes and the path says whom to ask: a host with an optional port, and
before an at sign an optional user name and password.  The last at sign is the one that counts.
-/

set_option autoImplicit false

namespace ClusterConsole
namespace Url

/-- Whom to ask.  User name and password are percent-encoded. -/
structure Authority where
  user : List Char
  password : Option (List Char)
  host : Host
  port : Option Nat
  deriving DecidableEq, Repr

namespace Authority

/-- The schemes that are read in the special way, with the port each of them uses unless another one
is given. -/
def defaultPort? (scheme : List Char) : Option Nat :=
  if scheme = ['h', 't', 't', 'p'] || scheme = ['w', 's'] then some 80
  else if scheme = ['h', 't', 't', 'p', 's'] || scheme = ['w', 's', 's'] then some 443
  else if scheme = ['f', 't', 'p'] then some 21
  else none

/-- Cuts a text at the last at sign: what comes before it, if there is one, and what comes after
it. -/
def splitUser (s : List Char) : Option (List Char) × List Char :=
  match (Text.pieces '@' s).reverse with
  | last :: first :: rest => (some (Text.join '@' (first :: rest).reverse), last)
  | _ => (none, s)

/-- The user name and the password, percent-encoded.  An empty password is none. -/
def readUser (s : List Char) : List Char × Option (List Char) :=
  let name := s.takeWhile (· != ':')
  let password := (s.dropWhile (· != ':')).drop 1
  (Text.Percent.escape isUserPlain name,
    if password.isEmpty then none else some (Text.Percent.escape isUserPlain password))

/-- Cuts a text at the first colon that is not in brackets. -/
def splitPort (inBrackets : Bool) : List Char → List Char × Option (List Char)
  | [] => ([], none)
  | c :: rest =>
    if c = ':' && !inBrackets then ([], some rest)
    else
      let (host, port) := splitPort (c = '[' || (inBrackets && c != ']')) rest
      (c :: host, port)

/-- The largest port. -/
def maxPort : Nat := 65535

/-- Reads a port; no digits are no port, and neither is the one that is used anyway. -/
def readPort (usual : Option Nat) (s : List Char) : Except Fault (Option Nat) :=
  if s.isEmpty then .ok none
  else
    match Text.Numeral.digits maxPort 0 s with
    | .ok n => .ok (if some n = usual then none else some n)
    | .error _ => .error .invalidPort

/-- Reads the authority of a URL with a special scheme, which uses the `usual` port. -/
def parse (usual : Nat) (s : List Char) : Except Fault Authority :=
  let (user, rest) := splitUser s
  let (host, port) := splitPort false rest
  if host.isEmpty then .error .emptyHost
  else
    match Host.parse host with
    | .error fault => .error fault
    | .ok host =>
      match readPort (some usual) (port.getD []) with
      | .error fault => .error fault
      | .ok port =>
        let (user, password) := readUser (user.getD [])
        .ok ⟨user, password, host, port⟩

/-- Reads the authority of a URL with another scheme; it may be missing.  `atEnd` is set if nothing
comes after it. -/
def parsePlain (atEnd : Bool) (s : List Char) : Except Fault (Option Authority) :=
  let (user, rest) := splitUser s
  let (host, port) := splitPort false rest
  let (name, password) := readUser (user.getD [])
  if host.isEmpty then
    if port.isSome || !name.isEmpty || password.isSome || (user.isSome && !atEnd) then
      .error .emptyHost
    else .ok none
  else
    match Host.parsePlain host with
    | .error fault => .error fault
    | .ok host =>
      match readPort none (port.getD []) with
      | .error fault => .error fault
      | .ok port => .ok (some ⟨name, password, host, port⟩)

/-- A user name and a password, with the at sign after them. -/
def userText (a : Authority) : List Char :=
  match a.user, a.password with
  | [], none => []
  | user, none => user ++ ['@']
  | user, some password => user ++ ':' :: password ++ ['@']

/-- A host and a port. -/
def hostText (a : Authority) : List Char :=
  a.host.text ++ (a.port.map fun n ↦ ':' :: Nat.toDigits 10 n).getD []

/-- How an authority is written. -/
def text (a : Authority) : List Char := a.userText ++ a.hostText

/-- The same host and port, without a user. -/
def withoutUser (a : Authority) : Authority := { a with user := [], password := none }

end Authority
end Url
end ClusterConsole
