import ClusterConsole.Text.Pieces

/-!
# Labels in ASCII

A label with characters beyond ASCII is written by its ASCII characters and, after a hyphen, numbers
for the others.  These are added in increasing order; each number says how many places to go on from
the last one, counting through all places of the label for one character before the next character.
A number is written with its least digit first; how many digits follow depends on a bias that adapts
to the numbers before.

`decode?` reads a label that is written in this way, and `encode` writes one.
-/

set_option autoImplicit false

namespace ClusterConsole
namespace Url

/-- Is this an ASCII character? -/
def isAscii (c : Char) : Bool := c.toNat < 0x80

namespace Punycode

/-! ## Numbers -/

/-- How many digits there are. -/
def base : Nat := 36

/-- The value of a digit. -/
def digit? (c : Char) : Option Nat :=
  if 'a' ≤ c ∧ c ≤ 'z' then some (c.toNat - 97)
  else if '0' ≤ c ∧ c ≤ '9' then some (c.toNat - 48 + 26)
  else none

/-- The digit with a value. -/
def digit (d : Nat) : Char := if d < 26 then Char.ofNat (97 + d) else Char.ofNat (48 + (d - 26))

/-- The threshold of a digit at place `k`: a digit below it is the last one. -/
def threshold (k bias : Nat) : Nat :=
  if k ≤ bias then 1 else if bias + 26 ≤ k then 26 else k - bias

theorem one_le_threshold (k bias : Nat) : 1 ≤ threshold k bias := by
  rw [threshold]
  split
  · exact Nat.le_refl 1
  · split <;> omega

theorem threshold_le (k bias : Nat) : threshold k bias ≤ 26 := by
  rw [threshold]
  split
  · omega
  · split <;> omega

/-- The bias after a number, by counting how often it can be divided. -/
def adaptFrom : (steps : Nat) → (k delta : Nat) → Nat
  | 0, k, delta => k + base * delta / (delta + 38)
  | steps + 1, k, delta =>
    if 455 < delta then adaptFrom steps (k + base) (delta / 35)
    else k + base * delta / (delta + 38)

/-- The bias after the number `delta`, when the label has `count` characters. -/
def adapt (delta count : Nat) (first : Bool) : Nat :=
  let delta := if first then delta / 700 else delta / 2
  adaptFrom 32 0 (delta + delta / count)

/-- The bias before the first number. -/
def firstBias : Nat := 72

/-- The code point before which there are no characters to be added. -/
def firstAdded : Nat := 0x80

/-! ## Reading -/

/-- The largest number that is read, and the largest weight of a digit. -/
def maxNumber : Nat := UInt32.size - 1

/-- Reads a number and adds it to `i`; `w` is the weight of the next digit, at place `k`. -/
def addNumber? (bias : Nat) : (k w i : Nat) → List Char → Option (Nat × List Char)
  | _, _, _, [] => none
  | k, w, i, c :: rest =>
    match digit? c with
    | none => none
    | some d =>
      let i := i + d * w
      let t := threshold k bias
      if maxNumber < i then none
      else if d < t then some (i, rest)
      else if maxNumber < w * (base - t) then none
      else addNumber? bias (k + base) (w * (base - t)) i rest

/-- Puts a character into a label at a place. -/
def insertAt (label : List Char) (place : Nat) (c : Char) : List Char :=
  label.take place ++ c :: label.drop place

/-- Is there a character with this number? -/
def isCharacter (n : Nat) : Bool := n < 0xd800 || (0xdfff < n && n ≤ 0x10ffff)

/-- Adds the characters that the digits give to a label.  `n` is the number of the character and `i`
the place reached. -/
def addCharacters : (fuel : Nat) → (label : List Char) → (n i bias : Nat) → List Char →
    Option (List Char)
  | _, label, _, _, _, [] => some label
  | 0, _, _, _, _, _ :: _ => none
  | fuel + 1, label, n, i, bias, digits =>
    match addNumber? bias base 1 i digits with
    | none => none
    | some (next, rest) =>
      let count := label.length + 1
      let n := n + next / count
      let place := next % count
      if isCharacter n then
        addCharacters fuel (insertAt label place (Char.ofNat n)) n (place + 1)
          (adapt (next - i) count (i == 0)) rest
      else none

/-- The characters before the last hyphen, and what comes after it.  A hyphen with nothing before
it does not count. -/
def splitLast (s : List Char) : List Char × List Char :=
  match (Text.pieces '-' s).reverse with
  | [] => ([], s)
  | last :: before =>
    match Text.join '-' before.reverse with
    | [] => ([], s)
    | ascii => (ascii, last)

/-- The longest text that is read as a label. -/
def maxRead : Nat := 2000

/-- The label that is written as a text. -/
def decode? (s : List Char) : Option (List Char) :=
  let (ascii, digits) := splitLast s
  if maxRead < s.length then none
  else addCharacters digits.length ascii firstAdded 0 firstBias digits

/-! ## Writing -/

/-- The digits of a number, from place `k` on. -/
def digits (bias k q : Nat) : List Char :=
  let t := threshold k bias
  if q < t then [digit q]
  else digit (t + (q - t) % (base - t)) :: digits bias (k + base) ((q - t) / (base - t))
termination_by q
decreasing_by
  have hlow := one_le_threshold k bias
  exact Nat.lt_of_le_of_lt (Nat.div_le_self _ _) (by omega)

/-- A label that is being written: how far it is to the next character, by how many places and
characters, and how many characters have been written. -/
structure Writer where
  delta : Nat
  bias : Nat
  count : Nat
  written : List Char

namespace Writer

/-- Goes on at a place of the label, which has the character `c`, when the characters with the
number `n` are to be written.  There are `ascii` characters of ASCII in the label. -/
def visit (n ascii : Nat) (w : Writer) (c : Char) : Writer :=
  if c.toNat < n then { w with delta := w.delta + 1 }
  else if c.toNat = n then
    { delta := 0
      bias := adapt w.delta (w.count + 1) (w.count == ascii)
      count := w.count + 1
      written := w.written ++ digits w.bias base w.delta }
  else w

/-- Writes the characters of a label that have one of the numbers, which are in increasing order;
the numbers before `first` have been counted. -/
def write (label : List Char) (ascii : Nat) (w : Writer) : (first : Nat) → List Nat → Writer
  | _, [] => w
  | first, n :: more =>
    let there := { w with delta := w.delta + (n - first) * (w.count + 1) }
    let w := label.foldl (visit n ascii) there
    write label ascii { w with delta := w.delta + 1 } (n + 1) more

end Writer

/-- Puts a number into a list of numbers in increasing order, unless it is there. -/
def insertNumber (n : Nat) : List Nat → List Nat
  | [] => [n]
  | m :: more =>
    if n < m then n :: m :: more else if n = m then m :: more else m :: insertNumber n more

/-- How a label is written. -/
def encode (label : List Char) : List Char :=
  let ascii := label.filter isAscii
  let others := label.filter (!isAscii ·)
  let numbers := (others.map Char.toNat).foldr insertNumber []
  let start : Writer := ⟨0, firstBias, ascii.length, []⟩
  ascii ++ (if ascii.isEmpty then [] else ['-']) ++
    (start.write label ascii.length firstAdded numbers).written

end Punycode
end Url
end ClusterConsole
