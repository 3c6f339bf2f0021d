import ClusterConsole.Url.Address
import ClusterConsole.Url.Name

/-!
# Hosts in URLs

A host is a name or a numeric address.  An address of 128 bits stands in brackets, and a name that
ends in a number is meant as an address of 32 bits.  Schemes that are not special do not know names:
their hosts are any text without certain characters.
-/

set_option autoImplicit false

namespace ClusterConsole
namespace Url

/-- A host. -/
inductive Host where
  | name (text : List Char)
  | address4 (n : Nat)
  | address6 (groups : List Nat)
  deriving DecidableEq, Repr

namespace Host

/-- How a host is written. -/
def text : Host → List Char
  | .name s => s
  | .address4 n => Address4.text n
  | .address6 groups => '[' :: (Address6.text groups ++ [']'])

/-- What stands in brackets, if the text begins with one. -/
def bracketed? : List Char → Option (Except Fault (List Char))
  | '[' :: rest =>
    some (if rest.getLast? = some ']' then .ok rest.dropLast else .error .invalidAddress6)
  | _ => none

/-- Reads an address in brackets. -/
def parseBracketed (inner : Except Fault (List Char)) : Except Fault Host :=
  match inner with
  | .error fault => .error fault
  | .ok s => (Address6.parse s).map .address6

/-- Reads the host of a special scheme. -/
def parse (s : List Char) : Except Fault Host :=
  match bracketed? s with
  | some inner => parseBracketed inner
  | none =>
    match Name.parse s with
    | .error fault => .error fault
    | .ok s => if Address4.isMeant s then (Address4.parse s).map .address4 else .ok (.name s)

/-- The characters that cannot be in the host of another scheme. -/
def isBarred (c : Char) : Bool :=
  ['\x00', '\t', '\n', '\r', ' ', '#', '/', ':', '<', '>', '?', '@', '[', '\\', ']', '^',
    '|'].contains c

/-- Reads the host of another scheme. -/
def parsePlain (s : List Char) : Except Fault Host :=
  match bracketed? s with
  | some inner => parseBracketed inner
  | none =>
    if s.any isBarred then .error .invalidHostCharacter
    else .ok (.name (Text.Percent.escape (fun c ↦ 0x20 ≤ c.toNat && c.toNat ≤ 0x7e) s))

end Host
end Url
end ClusterConsole
