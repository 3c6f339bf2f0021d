import ClusterConsole.Text.Percent
import ClusterConsole.Text.Pieces

/-!
# The head of an answer

What comes back over a connection are bytes.  They are read as the characters with the same numbers,
so that the marks of the format can be written as such; only the text of the body is decoded later.

An answer begins with a line that holds the version and the status code, and then come fields, one
on each line, up to an empty line.  A line may end with or without a carriage return.  Where the
bytes end before the head does, the connection was closed too early.
-/

set_option autoImplicit false

namespace ClusterConsole
namespace Http

/-- What can be wrong with the head of an answer. -/
inductive HeadFault where
  | closed
  | version
  | status
  | field
  | length
  | encoding
  | tooLarge
  deriving DecidableEq, Repr

/-- How it is told. -/
def HeadFault.message : HeadFault → String
  | .closed => "connection closed before message completed"
  | .version => "invalid HTTP version parsed"
  | .status => "invalid HTTP status-code parsed"
  | .field => "invalid HTTP header parsed"
  | .length => "invalid content-length parsed"
  | .encoding => "unexpected transfer-encoding parsed"
  | .tooLarge => "message head is too large"

/-- A field: its name in small letters, and its value. -/
structure Field where
  name : List Char
  value : List Char
  deriving DecidableEq, Repr

/-- The head of an answer. -/
structure Head where
  isOld : Bool
  status : Nat
  fields : List Field
  deriving DecidableEq, Repr

namespace Head

/-- What a reader of part of a head gives, and what is left. -/
abbrev Part (α : Type) := Except HeadFault (α × List Char)

/-- Goes on reading with what was read and what is left. -/
@[inline] def Part.andThen {α β : Type} (p : Part α) (next : α → List Char → Part β) : Part β :=
  match p with
  | .ok (v, rest) => next v rest
  | .error fault => .error fault

/-- Drops empty lines at the front. -/
def skipEmptyLines : List Char → Except HeadFault (List Char)
  | '\n' :: rest => skipEmptyLines rest
  | '\r' :: '\n' :: rest => skipEmptyLines rest
  | ['\r'] => .error .closed
  | '\r' :: _ => .error .field
  | s => .ok s

/-- Reads a version: is it the older one?  `mark` is the part that both share. -/
def readVersion : (mark : List Char) → List Char → Part Bool
  | _, [] => .error .closed
  | [], '0' :: rest => .ok (true, rest)
  | [], '1' :: rest => .ok (false, rest)
  | [], _ :: _ => .error .version
  | m :: mark, c :: rest => if c = m then readVersion mark rest else .error .version

/-- The part that all versions share. -/
def versionMark : List Char := ['H', 'T', 'T', 'P', '/', '1', '.']

/-- Reads the blank after the version. -/
def readBlank : List Char → Except HeadFault (List Char)
  | [] => .error .closed
  | ' ' :: rest => .ok rest
  | _ => .error .version

/-- Reads a status code of so many more digits. -/
def readCode : (digits n : Nat) → List Char → Part Nat
  | 0, n, s => if n < 100 then .error .status else .ok (n, s)
  | _ + 1, _, [] => .error .closed
  | digits + 1, n, c :: rest =>
    if c.isDigit then readCode digits (10 * n + (c.toNat - 48)) rest else .error .status

/-- Can the character be in a reason or in the value of a field? -/
def isTextChar (c : Char) : Bool := c == '\t' || (0x20 ≤ c.toNat && c != '\x7f')

/-- Drops the reason after a status code.  There may be none, and what it says does not count. -/
def skipReason : List Char → Except HeadFault (List Char)
  | [] => .error .closed
  | ['\r'] => .error .closed
  | '\r' :: '\n' :: rest => .ok rest
  | '\n' :: rest => .ok rest
  | c :: rest => if isTextChar c then skipReason rest else .error .status

/-- Drops what comes after a status code up to the end of the line. -/
def skipLine : List Char → Except HeadFault (List Char)
  | [] => .error .closed
  | ['\r'] => .error .closed
  | ' ' :: rest => skipReason rest
  | '\r' :: '\n' :: rest => .ok rest
  | '\n' :: rest => .ok rest
  | _ => .error .status

/-- Can the character be in the name of a field? -/
def isNameChar (c : Char) : Bool :=
  c.isAlphanum ||
    ['!', '#', '$', '%', '&', '\'', '*', '+', '-', '.', '^', '_', '\x60', '|', '~'].contains c

/-- Reads the name of a field and the colon after it; `done` holds its characters so far,
backwards. -/
def readName (done : List Char) : List Char → Part (List Char)
  | [] => .error .closed
  | ':' :: rest => if done.isEmpty then .error .field else .ok (done.reverse, rest)
  | c :: rest => if isNameChar c then readName (c.toLower :: done) rest else .error .field

/-- Is it a blank within a line? -/
def isGap (c : Char) : Bool := c == ' ' || c == '\t'

/-- Reads the value of a field up to the end of the line; `done` holds its characters so far,
backwards.  Blanks around it do not count. -/
def readValue (done : List Char) : List Char → Part (List Char)
  | [] => .error .closed
  | ['\r'] => .error .closed
  | '\r' :: '\n' :: rest => .ok ((done.dropWhile isGap).reverse.dropWhile isGap, rest)
  | '\n' :: rest => .ok ((done.dropWhile isGap).reverse.dropWhile isGap, rest)
  | c :: rest => if isTextChar c then readValue (c :: done) rest else .error .field

/-- How many fields are read. -/
def maxFields : Nat := 100

/-- Reads fields up to the empty line, at most as many as there is room for. -/
def readFields : (room : Nat) → (done : List Field) → List Char → Part (List Field)
  | _, _, [] => .error .closed
  | _, _, ['\r'] => .error .closed
  | _, done, '\r' :: '\n' :: rest => .ok (done.reverse, rest)
  | _, done, '\n' :: rest => .ok (done.reverse, rest)
  | 0, _, s =>
    (readName [] s).andThen fun _ rest ↦ (readValue [] rest).andThen fun _ _ ↦ .error .tooLarge
  | room + 1, done, s =>
    (readName [] s).andThen fun name rest ↦
      (readValue [] rest).andThen fun value rest ↦ readFields room (⟨name, value⟩ :: done) rest

/-- Reads one head. -/
def readOne (s : List Char) : Part Head :=
  match skipEmptyLines s with
  | .error fault => .error fault
  | .ok s =>
    (readVersion versionMark s).andThen fun isOld s ↦
      match readBlank s with
      | .error fault => .error fault
      | .ok s =>
        (readCode 3 0 s).andThen fun status s ↦
          match skipLine s with
          | .error fault => .error fault
          | .ok s => (readFields maxFields [] s).andThen fun fields s ↦
              .ok (⟨isOld, status, fields⟩, s)

/-- Does the head only announce another one? -/
def isInterim (h : Head) : Bool := 100 ≤ h.status && h.status < 200 && h.status != 101

/-- Reads a head, past those that only announce another one. -/
def read : (fuel : Nat) → List Char → Part Head
  | 0, _ => .error .closed
  | fuel + 1, s =>
    (readOne s).andThen fun h rest ↦ if h.isInterim then read fuel rest else .ok (h, rest)

/-- The values of all fields with a name. -/
def values (h : Head) (name : String) : List (List Char) :=
  (h.fields.filter fun f ↦ f.name == name.toList).map (·.value)

end Head
end Http
end ClusterConsole
