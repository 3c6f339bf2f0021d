import ClusterConsole.Text.Blank

/-!
# Whole numbers written in decimal

Number fields are read as an optional sign and one or more ASCII digits, with blanks around them
allowed where the field says so.  The digits are read from the left, and reading stops at the first
digit that takes the number out of range or at the first character that is no digit, whichever
comes first; the fault says which it was.

* `natural limit` reads a number that takes no minus sign.
* `whole bound` reads a number of either sign.
* `Int64`-sized and `UInt32`-sized fields are `replicaCount?` and `fieldNumber?`.
-/

set_option autoImplicit false

namespace ClusterConsole
namespace Text
namespace Numeral

/-- Why a text is no number of the range asked for. -/
inductive Fault where
  | empty
  | invalidDigit
  | tooLarge
  | tooSmall
  deriving DecidableEq, Repr

/-- How a fault is told to the user. -/
def Fault.message : Fault → String
  | .empty => "cannot parse integer from empty string"
  | .invalidDigit => "invalid digit found in string"
  | .tooLarge => "number too large to fit in target type"
  | .tooSmall => "number too small to fit in target type"

/-- The value of an ASCII digit. -/
def digit? (c : Char) : Option Nat := if c.isDigit then some (c.toNat - 48) else none

/-- Reads the digits that follow the number `n` read so far, up to a limit. -/
def digits (limit n : Nat) : List Char → Except Fault Nat
  | [] => .ok n
  | c :: rest =>
    match digit? c with
    | none => .error .invalidDigit
    | some d => if 10 * n + d ≤ limit then digits limit (10 * n + d) rest else .error .tooLarge

/-- Reads one or more digits, up to a limit. -/
def magnitude (limit : Nat) (s : List Char) : Except Fault Nat :=
  if s.isEmpty then .error .invalidDigit else digits limit 0 s

/-- Reads a number from zero to the limit; a plus sign before it is allowed. -/
def natural (limit : Nat) : List Char → Except Fault Nat
  | [] => .error .empty
  | '+' :: rest => magnitude limit rest
  | s => magnitude limit s

/-- Reads a number from minus `bound` up to, and without, `bound`; a sign before it is allowed. -/
def whole (bound : Nat) : List Char → Except Fault Int
  | [] => .error .empty
  | '+' :: rest => (magnitude (bound - 1) rest).map Int.ofNat
  | '-' :: rest =>
    match magnitude bound rest with
    | .ok n => .ok (-(n : Int))
    | .error .tooLarge => .error .tooSmall
    | .error fault => .error fault
  | s => (magnitude (bound - 1) s).map Int.ofNat

/-- The number in a number field of a new cluster: blanks around it do not count, and it is of the
size of a signed word of 64 bits. -/
def fieldNumber? (s : String) : Option Int :=
  (whole (UInt64.size / 2) (trim s.toList)).toOption

/-- The number of replicas to scale to: blanks around it do not count, and it is of the size of an
unsigned word of 32 bits. -/
def replicaCount? (s : String) : Option Nat :=
  (natural (UInt32.size - 1) (trim s.toList)).toOption

end Numeral
end Text
end ClusterConsole
