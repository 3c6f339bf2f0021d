import ClusterConsole.Json.Quoted
import ClusterConsole.Json.Value
import ClusterConsole.Number.Shortest

/-!
# Writing JSON

* `Value.compact` writes a value without blanks, as it goes into a request.
* `Value.pretty` writes one item or member on a line, indented by two blanks for each level, as it
  is shown to the user.  An empty array or object stays on one line.

A double is written with the fewest digits that read back: from `0.00001` up to, and without,
`1e16` with a point and at least one digit after it, and beyond that with one digit before the point
and a signed exponent.
-/

set_option autoImplicit false

namespace ClusterConsole
namespace Json

/-! ## Numbers -/

/-- The exponents of ten from which on a double is written with an exponent. -/
def scientificFrom : Int := 16

/-- The exponent of ten below which a double is written with an exponent. -/
def scientificBelow : Int := -5

/-- An integer in decimal. -/
def integerText (n : Int) : List Char :=
  match n with
  | .ofNat n => Nat.toDigits 10 n
  | .negSucc n => '-' :: Nat.toDigits 10 (n + 1)

/-- Digits with a point after the first, unless there is only one. -/
def scientificDigits : List Char → List Char
  | [] => ['0']
  | [d] => [d]
  | d :: rest => d :: '.' :: rest

/-- The exponent with its sign. -/
def exponentText (e : Int) : List Char :=
  if 0 ≤ e then '+' :: Nat.toDigits 10 e.toNat else integerText e

/-- The text of a number with the given digits, which counts `10 ^ places`. -/
def decimalText (digits : List Char) (places : Int) : List Char :=
  let point : Int := digits.length + places
  if point - 1 < scientificBelow || scientificFrom ≤ point - 1 then
    scientificDigits digits ++ 'e' :: exponentText (point - 1)
  else if point ≤ 0 then ['0', '.'] ++ List.replicate (-point).toNat '0' ++ digits
  else if 0 ≤ places then digits ++ List.replicate places.toNat '0' ++ ['.', '0']
  else digits.take point.toNat ++ '.' :: digits.drop point.toNat

/-- The text of the magnitude of a double. -/
def magnitudeText (x : Binary64) : List Char :=
  if x.isZero then ['0', '.', '0']
  else
    let (n, places) := x.shortest
    decimalText (Nat.toDigits 10 n) places

/-- The text of a number. -/
def Number.text : Number → List Char
  | .whole n => integerText n
  | .real negative x => (if negative then ['-'] else []) ++ magnitudeText x

/-! ## Values -/

/-- The name of a member and the colon after it. -/
def nameText (name : String) : List Char := Quoted.encode name.toList ++ [':']

mutual

/-- A value without blanks. -/
def Value.compact : Value → List Char
  | .null => ['n', 'u', 'l', 'l']
  | .bool true => ['t', 'r', 'u', 'e']
  | .bool false => ['f', 'a', 'l', 's', 'e']
  | .number n => n.text
  | .string s => Quoted.encode s.toList
  | .array items => '[' :: (compactItems items ++ [']'])
  | .object members => '{' :: (compactMembers members ++ ['}'])

/-- Items with commas between them. -/
def compactItems : List Value → List Char
  | [] => []
  | [v] => v.compact
  | v :: rest => v.compact ++ ',' :: compactItems rest

/-- Members with commas between them. -/
def compactMembers : List (String × Value) → List Char
  | [] => []
  | [(name, v)] => nameText name ++ v.compact
  | (name, v) :: rest => nameText name ++ v.compact ++ ',' :: compactMembers rest

end

/-- A line break and the indent of a level. -/
def breakTo (level : Nat) : List Char := '\n' :: List.replicate (2 * level) ' '

mutual

/-- A value spread over lines; it stands at the given level. -/
def Value.prettyAt (level : Nat) : Value → List Char
  | .array [] => ['[', ']']
  | .array items => '[' :: (prettyItems (level + 1) items ++ (breakTo level ++ [']']))
  | .object [] => ['{', '}']
  | .object members => '{' :: (prettyMembers (level + 1) members ++ (breakTo level ++ ['}']))
  | v => v.compact

/-- Items on lines of their own, with commas between them. -/
def prettyItems (level : Nat) : List Value → List Char
  | [] => []
  | [v] => breakTo level ++ v.prettyAt level
  | v :: rest => breakTo level ++ v.prettyAt level ++ ',' :: prettyItems level rest

/-- Members on lines of their own, with commas between them. -/
def prettyMembers (level : Nat) : List (String × Value) → List Char
  | [] => []
  | [(name, v)] => breakTo level ++ nameText name ++ ' ' :: v.prettyAt level
  | (name, v) :: rest =>
    breakTo level ++ nameText name ++ ' ' :: (v.prettyAt level ++ ',' :: prettyMembers level rest)

end

/-- A value spread over lines. -/
def Value.pretty (v : Value) : List Char := v.prettyAt 0

/-- A value without blanks, as a string. -/
def Value.compactString (v : Value) : String := String.ofList v.compact

/-- A value spread over lines, as a string. -/
def Value.prettyString (v : Value) : String := String.ofList v.pretty

end Json
end ClusterConsole
