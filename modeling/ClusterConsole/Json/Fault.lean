import ClusterConsole.Text.Utf8

/-!
# What can be wrong with a JSON text, and where

A fault keeps how many bytes of the text were left when it was found, which needs no counter while
reading.  The place is told as a line and a column: the lines are those of the text before the
fault, and the column counts the bytes since the last newline.

Some faults are found at a byte that has been read, and some at the next byte, which then counts as
well: `Fault.before` and `Fault.at` make the two kinds.
-/

set_option autoImplicit false

namespace ClusterConsole
namespace Json

/-- What is wrong.  The last two come from reading a value of a fixed shape. -/
inductive Cause where
  | endOfValue
  | endOfArray
  | endOfObject
  | endOfString
  | expectedValue
  | expectedWord
  | expectedColon
  | expectedCommaOrBracket
  | expectedCommaOrBrace
  | nameMustBeString
  | trailingComma
  | trailingText
  | invalidNumber
  | numberOutOfRange
  | invalidEscape
  | controlCharacter
  | loneSurrogate
  | unfinishedEscape
  | nestedTooDeeply
  | unexpected (what expected : String)
  | repeatedMember (name : String)
  deriving DecidableEq, Repr

/-- How a fault is told. -/
def Cause.message : Cause → String
  | .endOfValue => "EOF while parsing a value"
  | .endOfArray => "EOF while parsing a list"
  | .endOfObject => "EOF while parsing an object"
  | .endOfString => "EOF while parsing a string"
  | .expectedValue => "expected value"
  | .expectedWord => "expected ident"
  | .expectedColon => "expected `:`"
  | .expectedCommaOrBracket => "expected `,` or `]`"
  | .expectedCommaOrBrace => "expected `,` or `\x7d`"
  | .nameMustBeString => "key must be a string"
  | .trailingComma => "trailing comma"
  | .trailingText => "trailing characters"
  | .invalidNumber => "invalid number"
  | .numberOutOfRange => "number out of range"
  | .invalidEscape => "invalid escape"
  | .controlCharacter => "control character (\\u0000-\\u001F) found while parsing a string"
  | .loneSurrogate => "lone leading surrogate in hex escape"
  | .unfinishedEscape => "unexpected end of hex escape"
  | .nestedTooDeeply => "recursion limit exceeded"
  | .unexpected what expected => what ++ ", expected " ++ expected
  | .repeatedMember name => "duplicate field `" ++ name ++ "`"

/-- A cause, and how many bytes of the text were left. -/
structure Fault where
  cause : Cause
  left : Nat
  deriving DecidableEq, Repr

/-- A fault found with `rest` still to be read. -/
def Fault.before (cause : Cause) (rest : List Char) : Fault := ⟨cause, Text.byteCount rest⟩

/-- A fault found at the next byte, if there is one. -/
def Fault.at (cause : Cause) (rest : List Char) : Fault := ⟨cause, Text.byteCount rest - 1⟩

/-- The line and the column after reading some bytes. -/
def place (line column : Nat) : List UInt8 → Nat × Nat
  | [] => (line, column)
  | b :: rest => if b == 10 then place (line + 1) 0 rest else place line (column + 1) rest

/-- A fault in a text, with its place. -/
def Fault.message (f : Fault) (text : List Char) : String :=
  let bytes := Text.utf8 text
  let (line, column) := place 1 0 (bytes.take (bytes.length - f.left))
  f.cause.message ++ " at line " ++ toString line ++ " column " ++ toString column

/-- What a reader gives: a value and what is left to read, or a fault. -/
abbrev Reading (α : Type) := Except Fault (α × List Char)

/-- Goes on reading with what was read and what is left. -/
@[inline] def Reading.andThen {α β : Type} (r : Reading α) (next : α → List Char → Reading β) :
    Reading β :=
  match r with
  | .ok (v, rest) => next v rest
  | .error fault => .error fault

/-- The blanks between the parts of a JSON text. -/
def isBlank (c : Char) : Bool := c == ' ' || c == '\n' || c == '\t' || c == '\r'

/-- What is left after the blanks at the front. -/
def skipBlanks (s : List Char) : List Char := s.dropWhile isBlank

end Json
end ClusterConsole
