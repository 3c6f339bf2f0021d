import ClusterConsole.Json.Printer
import ClusterConsole.Json.Reader
import ClusterConsole.Text.Quoted

/-!
# Reading values of a known type

Where the type of a value is known beforehand, another value in its place is a fault that names
both.  A word, a number or a string is read before it is told of, and the fault stands after it; an
array or an object is told of as soon as it opens.

* `mismatch` is the fault.
* `readText`, `readWord64` and `readOptional` read values of one type each.
* `nextItem` and `closeArray` take an array apart that has a fixed number of items.
-/

set_option autoImplicit false

namespace ClusterConsole
namespace Json

/-- A number in the words of a fault. -/
def Number.description : Number → String
  | .whole n => "integer `" ++ String.ofList (integerText n) ++ "`"
  | x => "floating point `" ++ String.ofList x.text ++ "`"

/-- The fault of finding `what`, which has been read, where something else was `expected`. -/
def mismatchAfter (what expected : String) (rest : List Char) : Fault :=
  .before (.unexpected ("invalid type: " ++ what) expected) rest

/-- The fault of finding a word. -/
def mismatchWord (what expected : String) (ending s : List Char) : Fault :=
  match readWord ending s with
  | .ok rest => mismatchAfter what expected rest
  | .error fault => fault

/-- The fault of finding a value of another type than the `expected` one. -/
def mismatch (expected : String) (fuel : Nat) : List Char → Fault
  | [] => .before .endOfValue []
  | 'n' :: rest => mismatchWord "null" expected ['u', 'l', 'l'] rest
  | 't' :: rest => mismatchWord "boolean `true`" expected ['r', 'u', 'e'] rest
  | 'f' :: rest => mismatchWord "boolean `false`" expected ['a', 'l', 's', 'e'] rest
  | '"' :: rest =>
    match Quoted.read fuel rest with
    | .ok (s, rest) => mismatchAfter ("string " ++ Text.quoted s) expected rest
    | .error fault => fault
  | '[' :: rest => mismatchAfter "sequence" expected ('[' :: rest)
  | '{' :: rest => mismatchAfter "map" expected ('{' :: rest)
  | c :: rest =>
    if c = '-' || c.isDigit then
      match readNumber (c :: rest) with
      | .ok (n, rest) => mismatchAfter n.description expected rest
      | .error fault => fault
    else .at .expectedValue (c :: rest)

/-! ## Single values -/

/-- Reads a string. -/
def readText (fuel : Nat) (s : List Char) : Reading String :=
  match skipBlanks s with
  | '"' :: rest => Quoted.read fuel rest
  | s => .error (mismatch "a string" fuel s)

/-- The name of the unsigned words of 64 bits in faults. -/
def word64 : String := "u64"

/-- A number as an unsigned word of 64 bits.  Numbers that are written as whole numbers are never
larger. -/
def Number.toWord64 (n : Number) (rest : List Char) : Reading UInt64 :=
  match n with
  | .whole (.ofNat m) => .ok (UInt64.ofNat m, rest)
  | .whole m => .error
      (.before (.unexpected ("invalid value: " ++ (Number.whole m).description) word64) rest)
  | x => .error (mismatchAfter x.description word64 rest)

/-- Reads an unsigned word of 64 bits. -/
def readWord64 (fuel : Nat) (s : List Char) : Reading UInt64 :=
  match skipBlanks s with
  | [] => .error (mismatch word64 fuel [])
  | c :: rest =>
    if c = '-' || c.isDigit then (readNumber (c :: rest)).andThen Number.toWord64
    else .error (mismatch word64 fuel (c :: rest))

/-- Reads a value that may be missing, which is written as the word for it. -/
def readOptional {α : Type} (value : List Char → Reading α) (s : List Char) : Reading (Option α) :=
  match skipBlanks s with
  | 'n' :: rest =>
    match readWord ['u', 'l', 'l'] rest with
    | .ok rest => .ok (none, rest)
    | .error fault => .error fault
  | s => (value s).andThen fun v rest ↦ .ok (some v, rest)

/-! ## Arrays of fixed length -/

/-- Goes to the next item of an array: is there one, and what is left from it on?  The closing
bracket is not taken. -/
def nextItem (first : Bool) (s : List Char) : Reading Bool :=
  match skipBlanks s with
  | [] => .error (.before .endOfArray [])
  | ']' :: rest => .ok (false, ']' :: rest)
  | c :: rest =>
    if first then .ok (true, c :: rest)
    else if c = ',' then
      match skipBlanks rest with
      | [] => .error (.before .endOfValue [])
      | ']' :: rest => .error (.at .trailingComma (']' :: rest))
      | s => .ok (true, s)
    else .error (.at .expectedCommaOrBracket (c :: rest))

/-- Reads an item of an array, if there is another one; else it is the given one. -/
def readItem {α : Type} (default : α) (value : List Char → Reading α) (first : Bool)
    (s : List Char) : Reading α :=
  (nextItem first s).andThen fun more rest ↦ if more then value rest else .ok (default, rest)

/-- Takes the closing bracket of an array that has no more items. -/
def closeArray (s : List Char) : Except Fault (List Char) :=
  match skipBlanks s with
  | [] => .error (.before .endOfArray [])
  | ']' :: rest => .ok rest
  | ',' :: rest =>
    match skipBlanks rest with
    | ']' :: rest => .error (.at .trailingComma (']' :: rest))
    | s => .error (.at .trailingText s)
  | s => .error (.at .trailingText s)

end Json
end ClusterConsole
