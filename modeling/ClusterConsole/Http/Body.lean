import ClusterConsole.Http.Answer
import ClusterConsole.Text.Blank
import ClusterConsole.Text.Utf8

/-!
# The body of an answer

Where a body ends is decided by the method, the status code and the fields of the head: `Framing.of`
is the decision, and `Framing.read` takes the body from what follows the head.  A body comes with
its length, in chunks that come with their lengths, or goes on until the connection is closed.
-/

set_option autoImplicit false

namespace ClusterConsole
namespace Http

/-- How the end of a body is known. -/
inductive Framing where
  | sized (length : Nat)
  | chunked
  | untilClose
  deriving DecidableEq, Repr

/-- What can be wrong with a body. -/
inductive BodyFault where
  | incomplete
  | incompleteLine
  | sizeMissing
  | sizeInvalid
  | sizeTooLarge
  | sizeBlank
  | sizeEnd
  | extensionBreak
  | chunkReturn
  | chunkBreak
  | trailerBreak
  | endBreak
  deriving DecidableEq, Repr

/-- How it is told. -/
def BodyFault.message : BodyFault → String
  | .incomplete => "end of file before message length reached"
  | .incompleteLine => "unexpected EOF during chunk size line"
  | .sizeMissing => "Invalid chunk size line: missing size digit"
  | .sizeInvalid => "Invalid chunk size line: Invalid Size"
  | .sizeTooLarge => "invalid chunk size: overflow"
  | .sizeBlank => "Invalid chunk size linear white space"
  | .sizeEnd => "Invalid chunk size LF"
  | .extensionBreak => "invalid chunk extension contains newline"
  | .chunkReturn => "Invalid chunk body CR"
  | .chunkBreak => "Invalid chunk body LF"
  | .trailerBreak => "Invalid trailer end LF"
  | .endBreak => "Invalid chunk end LF"

namespace Framing

/-! ## The decision -/

/-- The largest length of a body. -/
def maxLength : Nat := UInt64.size - 3

/-- A length in decimal; it must fit a word of 64 bits. -/
def length? (s : List Char) : Option Nat :=
  let s := Text.trim s
  if s.isEmpty || !s.all Char.isDigit then none
  else
    let n := s.foldl (fun n c ↦ 10 * n + (c.toNat - 48)) 0
    if n < UInt64.size then some n else none

/-- The one length in some fields, each of which may give it several times. -/
def commonLength? (values : List (List Char)) : Option Nat :=
  match (values.flatMap (Text.pieces ',')).mapM length? with
  | some (n :: rest) => if rest.all (· == n) then some n else none
  | _ => none

/-- Do the fields that tell how the body is encoded end with chunks? -/
def isChunked (values : List (List Char)) : Bool :=
  match values.getLast? with
  | none => false
  | some value =>
    ((Text.pieces ',' value).getLast?.map fun s ↦ (Text.trim s).map Char.toLower) ==
      some ['c', 'h', 'u', 'n', 'k', 'e', 'd']

/-- How the end of the body is known, after a request with the given method. -/
def of (method : String) (h : Head) : Except HeadFault Framing :=
  let encodings := h.values "transfer-encoding"
  let lengths := h.values "content-length"
  if h.status = 101 || h.status = 204 || h.status = 304 || method = "HEAD" then .ok (.sized 0)
  else if !encodings.isEmpty then
    if h.isOld then .error .encoding
    else .ok (if isChunked encodings then .chunked else .untilClose)
  else if lengths.isEmpty then .ok .untilClose
  else
    match commonLength? lengths with
    | none => .error .length
    | some n => if n ≤ maxLength then .ok (.sized n) else .error .tooLarge

/-! ## Chunks -/

open Text.Percent (hexValue?)

/-- Where the reader is within the chunks. -/
inductive Place where
  | start
  | size
  | sizeGap
  | extension
  | sizeEnd
  | content
  | contentReturn
  | contentEnd
  | trailer
  | trailerEnd
  | lastReturn
  | lastEnd
  deriving DecidableEq, Repr

/-- The size of a chunk with one more digit. -/
def addDigit (size digit : Nat) : Except BodyFault (Place × Nat) :=
  if 16 * size + digit < UInt64.size then .ok (.size, 16 * size + digit)
  else .error .sizeTooLarge

/-- Where a character that is not content leads, and the size of the chunk after it. -/
def step (p : Place) (size : Nat) (c : Char) : Except BodyFault (Place × Nat) :=
  match p with
  | .start =>
    match hexValue? c with
    | some d => addDigit 0 d
    | none => .error .sizeMissing
  | .size =>
    match hexValue? c with
    | some d => addDigit size d
    | none =>
      if c = ' ' || c = '\t' then .ok (.sizeGap, size)
      else if c = ';' then .ok (.extension, size)
      else if c = '\r' then .ok (.sizeEnd, size)
      else .error .sizeInvalid
  | .sizeGap =>
    if c = ' ' || c = '\t' then .ok (.sizeGap, size)
    else if c = ';' then .ok (.extension, size)
    else if c = '\r' then .ok (.sizeEnd, size)
    else .error .sizeBlank
  | .extension =>
    if c = '\r' then .ok (.sizeEnd, size)
    else if c = '\n' then .error .extensionBreak
    else .ok (.extension, size)
  | .sizeEnd =>
    if c = '\n' then .ok (if size = 0 then .lastReturn else .content, size) else .error .sizeEnd
  | .content => .ok (if size ≤ 1 then .contentReturn else .content, size - 1)
  | .contentReturn => if c = '\r' then .ok (.contentEnd, 0) else .error .chunkReturn
  | .contentEnd => if c = '\n' then .ok (.start, 0) else .error .chunkBreak
  | .trailer => .ok (if c = '\r' then .trailerEnd else .trailer, 0)
  | .trailerEnd => if c = '\n' then .ok (.lastReturn, 0) else .error .trailerBreak
  | .lastReturn => .ok (if c = '\r' then .lastEnd else .trailer, 0)
  | .lastEnd => .error .endBreak

/-- Reads chunks; `done` holds their content so far, backwards. -/
def readChunks (done : List Char) : (p : Place) → (size : Nat) → List Char →
    Except BodyFault (List Char)
  | .content, _, [] => .error .incomplete
  | _, _, [] => .error .incompleteLine
  | .lastEnd, _, '\n' :: _ => .ok done.reverse
  | p, size, c :: rest =>
    match step p size c with
    | .error fault => .error fault
    | .ok (next, left) => readChunks (if p = .content then c :: done else done) next left rest

/-- Takes the body from what follows the head. -/
def read (f : Framing) (s : List Char) : Except BodyFault (List Char) :=
  match f with
  | .sized n => if n ≤ s.length then .ok (s.take n) else .error .incomplete
  | .chunked => readChunks [] .start 0 s
  | .untilClose => .ok s

end Framing

/-- The text of a body: its bytes as UTF-8. -/
def bodyText (body : List Char) : String :=
  String.ofList (Text.Utf8.decode (body.map fun c ↦ UInt8.ofNat c.toNat))

end Http
end ClusterConsole
