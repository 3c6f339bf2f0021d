import ClusterConsole.Json.Fault
import ClusterConsole.Json.Value

/-!
# Numbers in a JSON text

A number is read in two steps.  `Decimal.read` takes the longest text that has the form of a number
apart into its digits; `Decimal.number?` computes the value.

A number without fraction and exponent stays whole if it fits a word of 64 bits (of either
signedness) and is not a negative zero.  Any other becomes a double, and not always the nearest
one: the digits are collected in a word of 64 bits, digits for which it has no room only count as
places, the word is rounded to a double, and that is multiplied or divided once by a rounded power
of ten.  A number beyond the largest double is refused; one below the least becomes zero.
-/

set_option autoImplicit false

namespace ClusterConsole
namespace Json

/-- A number as it is written: its digits before the point, those after it, and the digits of an
exponent with its sign. -/
structure Decimal where
  negative : Bool
  whole : List Char
  fraction : Option (List Char)
  exponent : Option (Bool × List Char)

namespace Decimal

/-- The digits at the front of a text, and the rest. -/
def digits (s : List Char) : List Char × List Char :=
  (s.takeWhile Char.isDigit, s.dropWhile Char.isDigit)

/-- Reads the digits before the point.  `atEnd` is the cause to report where the text ends. -/
def readWhole (atEnd : Cause) : List Char → Reading (List Char)
  | [] => .error (.before atEnd [])
  | '0' :: rest =>
    match rest with
    | [] => .ok (['0'], rest)
    | c :: _ => if c.isDigit then .error (.at .invalidNumber rest) else .ok (['0'], rest)
  | c :: rest =>
    if c.isDigit then .ok (digits (c :: rest)) else .error (.at .invalidNumber (c :: rest))

/-- Reads a point and the digits after it, if a point follows. -/
def readFraction (atEnd : Cause) : List Char → Reading (Option (List Char))
  | '.' :: rest =>
    match digits rest with
    | ([], []) => .error (.before atEnd [])
    | ([], c :: rest) => .error (.at .invalidNumber (c :: rest))
    | (ds, rest) => .ok (some ds, rest)
  | s => .ok (none, s)

/-- The sign at the front of an exponent: is it a minus sign? -/
def exponentSign : List Char → Bool × List Char
  | '+' :: rest => (false, rest)
  | '-' :: rest => (true, rest)
  | s => (false, s)

/-- Reads the digits of an exponent after its letter. -/
def readExponentDigits (atEnd : Cause) (s : List Char) : Reading (Option (Bool × List Char)) :=
  let (negative, s) := exponentSign s
  match digits s with
  | ([], []) => .error (.before atEnd [])
  | ([], c :: rest) => .error (.at .invalidNumber (c :: rest))
  | (ds, rest) => .ok (some (negative, ds), rest)

/-- Reads an exponent, if its letter follows. -/
def readExponent (atEnd : Cause) : List Char → Reading (Option (Bool × List Char))
  | 'e' :: rest => readExponentDigits atEnd rest
  | 'E' :: rest => readExponentDigits atEnd rest
  | s => .ok (none, s)

/-- The minus sign at the front of a number, if there is one. -/
def sign : List Char → Bool × List Char
  | '-' :: rest => (true, rest)
  | s => (false, s)

/-- Reads a number. -/
def read (atEnd : Cause) (s : List Char) : Reading Decimal :=
  let (negative, s) := sign s
  (readWhole atEnd s).andThen fun whole s ↦
    (readFraction atEnd s).andThen fun fraction s ↦
      (readExponent atEnd s).andThen fun exponent s ↦
        .ok (⟨negative, whole, fraction, exponent⟩, s)

/-! ## Its value -/

/-- The largest word of 64 bits. -/
def maxWord : Nat := UInt64.size - 1

/-- The largest exponent that is computed with. -/
def maxExponent : Nat := UInt32.size / 2 - 1

/-- Adds digits to a word as long as it has room; what is left are the digits for which it has
none. -/
def collect (word : Nat) : List Char → Nat × List Char
  | [] => (word, [])
  | c :: rest =>
    let next := 10 * word + (c.toNat - 48)
    if next ≤ maxWord then collect next rest else (word, c :: rest)

/-- The double nearest to a power of ten within the range of doubles. -/
def power (n : Nat) : Binary64 := (Binary64.ofNat (Nat.pow 10 n)).getD .zero

/-- The largest power of ten that is a double, by its exponent. -/
def maxPower : Nat := 308

/-- Divides by the largest power of ten as long as the exponent asks for it. -/
def lower : (steps : Nat) → Binary64 → (exponent : Nat) → Binary64
  | 0, _, _ => .zero
  | steps + 1, x, exponent =>
    if x.isZero then x
    else if exponent ≤ maxPower then (x.div (power exponent)).getD .zero
    else lower steps ((x.div (power maxPower)).getD .zero) (exponent - maxPower)

/-- A word times a power of ten as a double, if there is one.  After four divisions by the largest
power every word has become zero. -/
def scaled? (word : Nat) (exponent : Int) : Option Binary64 := do
  let x ← Binary64.ofNat word
  if exponent < 0 then some (lower 4 x (-exponent).toNat)
  else if exponent.toNat ≤ maxPower then x.mul (power exponent.toNat)
  else if x.isZero then some x
  else none

/-- The value of the digits of an exponent, as long as it is computed with; and how many digits are
left where it grows too large. -/
def exponentValue (n : Nat) : List Char → Except Nat Nat
  | [] => .ok n
  | c :: rest =>
    let next := 10 * n + (c.toNat - 48)
    if next ≤ maxExponent then exponentValue next rest else .error rest.length

/-- The word and the power of ten for the digits before the exponent. -/
def significand (d : Decimal) : Nat × Int :=
  let (word, surplus) := collect 0 d.whole
  match d.fraction with
  | none => (word, surplus.length)
  | some ds =>
    let (word, unread) := collect word ds
    (word, (surplus.length : Int) - ((ds.length - unread.length : Nat) : Int))

/-- The whole number, if it is written as one and fits a word of 64 bits. -/
def whole? (d : Decimal) : Option Int :=
  match d.fraction, d.exponent, collect 0 d.whole with
  | none, none, (word, []) =>
    if !d.negative then some word
    else if 0 < word && word ≤ UInt64.size / 2 then some (-(word : Int))
    else none
  | _, _, _ => none

/-- The value, or how many digits at the end were not looked at any more when the number turned out
to be out of range. -/
def number? (d : Decimal) : Except Nat Number :=
  match d.whole? with
  | some n => .ok (.whole n)
  | none =>
    let (word, places) := d.significand
    match d.exponent with
    | none => result (scaled? word places)
    | some (negative, ds) =>
      match exponentValue 0 ds with
      | .ok n => result (scaled? word (if negative then places - n else places + n))
      | .error unread =>
        if word = 0 || negative then .ok (.real d.negative .zero) else .error unread
where
  /-- The number with this magnitude. -/
  result (x : Option Binary64) : Except Nat Number :=
    match x with
    | some x => .ok (.real d.negative x)
    | none => .error 0

end Decimal

/-- Reads a number and computes its value. -/
def readNumber (s : List Char) : Reading Number :=
  (Decimal.read .endOfValue s).andThen fun d rest ↦
    match d.number? with
    | .ok n => .ok (n, rest)
    | .error unread => .error ⟨.numberOutOfRange, Text.byteCount rest + unread⟩

end Json
end ClusterConsole
