import ClusterConsole.Json.Reader

/-!
# Skipping a value

A member that nobody asked for is skipped.  Its value has to have the form of a JSON value, but is
never computed, so less can be wrong with it: numbers have no range, escapes no pairs, and nesting
no limit.  Open brackets are kept in a list instead.
-/

set_option autoImplicit false

namespace ClusterConsole
namespace Json
namespace Skip

/-- An open bracket. -/
inductive Bracket where
  | array
  | object
  deriving DecidableEq, Repr

/-- The character that closes a bracket. -/
def Bracket.close : Bracket → Char
  | .array => ']'
  | .object => '}'

/-- What is wrong when the text ends within a bracket. -/
def Bracket.atEnd : Bracket → Cause
  | .array => .endOfArray
  | .object => .endOfObject

/-- What is wrong when neither a comma nor the closing bracket follows an item. -/
def Bracket.expected : Bracket → Cause
  | .array => .expectedCommaOrBracket
  | .object => .expectedCommaOrBrace

/-- Skips an escape after its backslash. -/
def escape : List Char → Except Fault (List Char)
  | [] => .error ⟨.endOfString, 0⟩
  | 'u' :: rest => (Quoted.readCode rest).map (·.2)
  | c :: rest =>
    if ['"', '\\', '/', 'b', 'f', 'n', 'r', 't'].contains c then .ok rest
    else .error (.at .invalidEscape (c :: rest))

/-- Skips a string after its opening quotation mark. -/
def string : (fuel : Nat) → List Char → Except Fault (List Char)
  | 0, _ => .error ⟨.endOfString, 0⟩
  | _ + 1, [] => .error ⟨.endOfString, 0⟩
  | _ + 1, '"' :: rest => .ok rest
  | fuel + 1, '\\' :: rest =>
    match escape rest with
    | .ok rest => string fuel rest
    | .error fault => .error fault
  | fuel + 1, c :: rest =>
    if c.toNat < 32 then .error (.before .controlCharacter (c :: rest)) else string fuel rest

/-- Skips the name of a member and the colon after it. -/
def name (fuel : Nat) (s : List Char) : Except Fault (List Char) :=
  match skipBlanks s with
  | [] => .error (.before .endOfObject [])
  | '"' :: rest =>
    match string fuel rest with
    | .ok rest => readColon rest
    | .error fault => .error fault
  | s => .error (.at .nameMustBeString s)

/-- What comes first in a value: a bracket that opens, or a whole value without brackets, which has
been skipped. -/
def start (fuel : Nat) (s : List Char) : Except Fault (Option Bracket × List Char) :=
  match skipBlanks s with
  | [] => .error (.before .endOfValue [])
  | 'n' :: rest => (readWord ['u', 'l', 'l'] rest).map (none, ·)
  | 't' :: rest => (readWord ['r', 'u', 'e'] rest).map (none, ·)
  | 'f' :: rest => (readWord ['a', 'l', 's', 'e'] rest).map (none, ·)
  | '"' :: rest => (string fuel rest).map (none, ·)
  | '[' :: rest => .ok (some .array, rest)
  | '{' :: rest => .ok (some .object, rest)
  | c :: rest =>
    if c = '-' || c.isDigit then (Decimal.read .invalidNumber (c :: rest)).map (none, ·.2)
    else .error (.at .expectedValue (c :: rest))

/-- What follows an item, or an opening bracket if `first` is set: closing brackets, and then the
next item of the innermost bracket that stays open, which comes with the other open ones.  There is
none when the last bracket has been closed. -/
def close : (fuel : Nat) → (first : Bool) → (inner : Bracket) → (outer : List Bracket) →
    List Char → Except Fault (Option (Bracket × List Bracket) × List Char)
  | 0, _, inner, _, _ => .error ⟨inner.atEnd, 0⟩
  | fuel + 1, first, inner, outer, s =>
    match skipBlanks s with
    | [] => .error (.before inner.atEnd [])
    | c :: rest =>
      if c = ',' && !first then .ok (some (inner, outer), rest)
      else if c = inner.close then
        match outer with
        | [] => .ok (none, rest)
        | next :: outer => close fuel false next outer rest
      else if first then .ok (some (inner, outer), c :: rest)
      else .error (.at inner.expected (c :: rest))

/-- Goes to the value of the next item: past its name, if the bracket is that of an object. -/
def item (fuel : Nat) (inner : Bracket) (s : List Char) : Except Fault (List Char) :=
  match inner with
  | .array => .ok s
  | .object => name fuel s

/-- Skips what is left of a value within the open brackets, of which the innermost comes first.
Every turn takes a character. -/
def within (limit : Nat) : (fuel : Nat) → List Bracket → List Char → Except Fault (List Char)
  | 0, _, _ => .error ⟨.endOfValue, 0⟩
  | fuel + 1, brackets, s =>
    match start limit s with
    | .error fault => .error fault
    | .ok (opened, rest) =>
      match opened, brackets with
      | none, [] => .ok rest
      | none, inner :: outer => proceed fuel false inner outer rest
      | some inner, outer => proceed fuel true inner outer rest
where
  /-- Goes on after an item or an opening bracket. -/
  proceed (fuel : Nat) (first : Bool) (inner : Bracket) (outer : List Bracket)
      (rest : List Char) : Except Fault (List Char) :=
    match close limit first inner outer rest with
    | .error fault => .error fault
    | .ok (none, rest) => .ok rest
    | .ok (some (inner, outer), rest) =>
      match item limit inner rest with
      | .error fault => .error fault
      | .ok rest => within limit fuel (inner :: outer) rest

/-- Skips a value; the fuel is a number above the length of the text. -/
def value (fuel : Nat) (s : List Char) : Except Fault (List Char) := within fuel fuel [] s

end Skip
end Json
end ClusterConsole
