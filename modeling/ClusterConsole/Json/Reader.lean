import ClusterConsole.Json.Decimal
import ClusterConsole.Json.Quoted

/-!
# Reading a JSON text

`parse` reads a whole text as one value with blanks around it.  Arrays and objects may be nested up
to a fixed depth.  `readItems` and `readMembers` read what stands between brackets for any way of
reading an item, so a value of a fixed shape can be read with them as well; each returns with the
closing bracket taken.

Every loop takes at least one character in each turn.  The fuel they are given is one number above
the length of the whole text, which is enough for each of them.
-/

set_option autoImplicit false

namespace ClusterConsole
namespace Json

/-- How deep arrays and objects may be nested. -/
def maxDepth : Nat := 127

/-- Reads the rest of a word, such as what follows the `n` of `null`. -/
def readWord : (word : List Char) → List Char → Except Fault (List Char)
  | [], s => .ok s
  | _ :: _, [] => .error (.before .endOfValue [])
  | w :: word, c :: rest =>
    if c = w then readWord word rest else .error (.at .expectedWord (c :: rest))

/-- Reads a word as a value. -/
def readConstant (word : List Char) (v : Value) (s : List Char) : Reading Value :=
  match readWord word s with
  | .ok rest => .ok (v, rest)
  | .error fault => .error fault

/-- Reads the items of an array after its opening bracket, or after an item if `done` holds any;
they come out in order. -/
def readItems {α : Type} (item : List Char → Reading α) :
    (fuel : Nat) → (done : List α) → List Char → Reading (List α)
  | 0, _, _ => .error ⟨.endOfArray, 0⟩
  | fuel + 1, done, s =>
    match skipBlanks s with
    | [] => .error (.before .endOfArray [])
    | ']' :: rest => .ok (done.reverse, rest)
    | c :: rest =>
      if done.isEmpty then next fuel done (c :: rest)
      else if c = ',' then
        match skipBlanks rest with
        | [] => .error (.before .endOfValue [])
        | ']' :: rest => .error (.at .trailingComma (']' :: rest))
        | s => next fuel done s
      else .error (.at .expectedCommaOrBracket (c :: rest))
where
  /-- Reads one item and those after it. -/
  next (fuel : Nat) (done : List α) (s : List Char) : Reading (List α) :=
    (item s).andThen fun v rest ↦ readItems item fuel (v :: done) rest

/-- Reads the colon between a name and its value. -/
def readColon (s : List Char) : Except Fault (List Char) :=
  match skipBlanks s with
  | [] => .error (.before .endOfObject [])
  | ':' :: rest => .ok rest
  | s => .error (.at .expectedColon s)

/-- Reads the members of an object after its opening brace, or after a member if `first` is not
set.  `member` is given what has been gathered so far, the name, and the text after it. -/
def readMembers {α : Type} (member : α → String → List Char → Reading α) :
    (fuel : Nat) → (first : Bool) → (gathered : α) → List Char → Reading α
  | 0, _, _, _ => .error ⟨.endOfObject, 0⟩
  | fuel + 1, first, gathered, s =>
    match skipBlanks s with
    | [] => .error (.before .endOfObject [])
    | '}' :: rest => .ok (gathered, rest)
    | c :: rest =>
      if first then next fuel gathered (c :: rest)
      else if c = ',' then
        match skipBlanks rest with
        | [] => .error (.before .endOfValue [])
        | '}' :: rest => .error (.at .trailingComma ('}' :: rest))
        | s => next fuel gathered s
      else .error (.at .expectedCommaOrBrace (c :: rest))
where
  /-- Reads one member and those after it. -/
  next (fuel : Nat) (gathered : α) : List Char → Reading α
    | '"' :: rest =>
      (Quoted.read (fuel + 1) rest).andThen fun name rest ↦
        (member gathered name rest).andThen fun gathered rest ↦
          readMembers member fuel false gathered rest
    | s => .error (.at .nameMustBeString s)

/-- Reads a member of any shape with its value, which `value` reads. -/
def readMember (value : List Char → Reading Value) (done : List (String × Value)) (name : String)
    (s : List Char) : Reading (List (String × Value)) :=
  match readColon s with
  | .error fault => .error fault
  | .ok rest => (value rest).andThen fun v rest ↦ .ok ((name, v) :: done, rest)

/-- Reads a value; `depth` is how deep arrays and objects may still be nested. -/
def readValue (fuel : Nat) : (depth : Nat) → List Char → Reading Value
  | depth, s =>
    match skipBlanks s with
    | [] => .error (.before .endOfValue [])
    | 'n' :: rest => readConstant ['u', 'l', 'l'] .null rest
    | 't' :: rest => readConstant ['r', 'u', 'e'] (.bool true) rest
    | 'f' :: rest => readConstant ['a', 'l', 's', 'e'] (.bool false) rest
    | '"' :: rest =>
      (Quoted.read fuel rest).andThen fun s rest ↦ .ok (.string s, rest)
    | '[' :: rest =>
      match depth with
      | 0 => .error (.at .nestedTooDeeply ('[' :: rest))
      | depth + 1 =>
        (readItems (readValue fuel depth) fuel [] rest).andThen fun items rest ↦
          .ok (.array items, rest)
    | '{' :: rest =>
      match depth with
      | 0 => .error (.at .nestedTooDeeply ('{' :: rest))
      | depth + 1 =>
        (readMembers (readMember (readValue fuel depth)) fuel true [] rest).andThen
          fun members rest ↦ .ok (.ofMembers members.reverse, rest)
    | c :: rest =>
      if c = '-' || c.isDigit then
        (readNumber (c :: rest)).andThen fun n rest ↦ .ok (.number n, rest)
      else .error (.at .expectedValue (c :: rest))

/-- Makes sure that nothing but blanks is left. -/
def finish {α : Type} : Reading α → Except Fault α
  | .error fault => .error fault
  | .ok (v, rest) =>
    match skipBlanks rest with
    | [] => .ok v
    | s => .error (.at .trailingText s)

/-- Reads a text as one value. -/
def parse (s : List Char) : Except Fault Value := finish (readValue (s.length + 1) maxDepth s)

end Json
end ClusterConsole
