import ClusterConsole.Text.Percent
import ClusterConsole.Text.Pieces
import ClusterConsole.Url.Fault

/-!
# Numeric addresses

The host in a URL may be an address.

* One of 32 bits is up to four numbers with points between them.  A number is decimal, octal after a
  zero or hexadecimal after `0x`; the last one fills the places of those that are missing.
* One of 128 bits is eight groups of hexadecimal digits with colons between them.  One run of groups
  that are zero may be left out, and the last two groups may be written as four decimal numbers.
-/

set_option autoImplicit false

namespace ClusterConsole
namespace Url

open Text.Percent (hexValue?)

/-- The value of digits in a base. -/
def digitsValue (base : Nat) (s : List Char) : Nat :=
  s.foldl (fun n c ↦ base * n + (hexValue? c).getD 0) 0

/-! ## Addresses of 32 bits -/

namespace Address4

/-- Is it an octal digit? -/
def isOctal (c : Char) : Bool := '0' ≤ c && c ≤ '7'

/-- Digits in a base as a number, if all characters are digits of it.  No digits are zero. -/
def valueIn? (base : Nat) (digit : Char → Bool) (s : List Char) : Option Nat :=
  if s.all digit then some (digitsValue base s) else none

/-- The number in one part of an address. -/
def number? : List Char → Option Nat
  | [] => none
  | '0' :: 'x' :: rest => valueIn? 16 (fun c ↦ (hexValue? c).isSome) rest
  | '0' :: 'X' :: rest => valueIn? 16 (fun c ↦ (hexValue? c).isSome) rest
  | '0' :: c :: rest => valueIn? 8 isOctal (c :: rest)
  | s => valueIn? 10 Char.isDigit s

/-- The parts between the points; one point at the end does not count. -/
def parts (s : List Char) : List (List Char) :=
  match (Text.pieces '.' s).reverse with
  | [] :: last :: rest => (last :: rest).reverse
  | parts => parts.reverse

/-- Does the name of a host end in a number, so that it has to be an address? -/
def isMeant (s : List Char) : Bool :=
  match (parts s).getLast? with
  | none => false
  | some last => (!last.isEmpty && last.all Char.isDigit) || (number? last).isSome

/-- The address with the given numbers: `value` is that of the numbers before, of which there are
`before`. -/
def combine? (before value : Nat) : List Nat → Option Nat
  | [] => none
  | [n] =>
    let bound := Nat.pow 256 (4 - before)
    if n < bound then some (value * bound + n) else none
  | n :: rest => if n < 256 then combine? (before + 1) (value * 256 + n) rest else none

/-- Reads an address. -/
def parse (s : List Char) : Except Fault Nat :=
  let parts := parts s
  if 4 < parts.length then .error .invalidAddress4
  else
    match (parts.mapM number?).bind (combine? 0 0) with
    | some n => .ok n
    | none => .error .invalidAddress4

/-- An address in its usual form. -/
def text (n : Nat) : List Char :=
  Text.join '.' ([24, 16, 8, 0].map fun place ↦ Nat.toDigits 10 ((n >>> place) % 256))

end Address4

/-! ## Addresses of 128 bits -/

namespace Address6

/-- How many groups there are. -/
def groupCount : Nat := 8

/-- A decimal number below 256 without a needless zero before it. -/
def octet? (s : List Char) : Option Nat :=
  if s.isEmpty || !s.all Char.isDigit then none
  else if 1 < s.length && s.head? == some '0' then none
  else if digitsValue 10 s < 256 then some (digitsValue 10 s)
  else none

/-- The two groups that are written as four decimal numbers. -/
def dotted? (s : List Char) : Option (List Nat) :=
  match (Text.pieces '.' s).mapM octet? with
  | some [a, b, c, d] => some [a * 256 + b, c * 256 + d]
  | _ => none

/-- The groups of an address, and behind how many of them a run of zeros was left out. -/
structure Groups where
  shown : List Nat
  gap : Option Nat

/-- Adds a group. -/
def Groups.push (g : Groups) (n : Nat) : Groups := { g with shown := g.shown ++ [n] }

/-- Reads groups after those that have been read, of which at most `room` more can follow.  A gap
stands for one group of its own. -/
def readGroups : (room : Nat) → Groups → List Char → Option Groups
  | _, g, [] => some g
  | 0, _, _ :: _ => none
  | room + 1, g, ':' :: rest =>
    if g.gap.isSome then none
    else readGroups room ⟨g.shown ++ [0], some (g.shown.length + 1)⟩ rest
  | room + 1, g, s =>
    let digits := (s.take 4).takeWhile fun c ↦ (hexValue? c).isSome
    match s.drop digits.length with
    | [] => some (g.push (digitsValue 16 digits))
    | ':' :: c :: rest => readGroups room (g.push (digitsValue 16 digits)) (c :: rest)
    | '.' :: _ =>
      if digits.isEmpty || room = 0 then none
      else (dotted? s).map fun pair ↦ { g with shown := g.shown ++ pair }
    | _ => none

/-- All groups of an address. -/
def Groups.fill (g : Groups) : Option (List Nat) :=
  match g.gap with
  | none => if g.shown.length = groupCount then some g.shown else none
  | some n =>
    some (g.shown.take n ++ List.replicate (groupCount - g.shown.length) 0 ++ g.shown.drop n)

/-- The groups at the front: a gap there is written as two colons. -/
def start? : List Char → Option (Groups × List Char)
  | [] => none
  | [_] => none
  | ':' :: ':' :: rest => some (⟨[0], some 1⟩, rest)
  | ':' :: _ => none
  | s => some (⟨[], none⟩, s)

/-- Reads an address, given without its brackets. -/
def parse (s : List Char) : Except Fault (List Nat) :=
  match start? s with
  | none => .error .invalidAddress6
  | some (g, rest) =>
    match (readGroups (groupCount - g.shown.length) g rest).bind Groups.fill with
    | some groups => .ok groups
    | none => .error .invalidAddress6

/-! ### The usual form -/

/-- The length of the run of zeros at the front. -/
def zeros (groups : List Nat) : Nat := (groups.takeWhile (· == 0)).length

/-- The longest run of two or more zeros, the first of those as long: where it begins, and its
length. -/
def longestRun (groups : List Nat) : Option (Nat × Nat) :=
  (List.range groups.length).foldl (fun best i ↦
    let n := zeros (groups.drop i)
    if 2 ≤ n && (best.all fun (b : Nat × Nat) ↦ b.2 < n) then some (i, n) else best) none

/-- Groups with colons between them. -/
def groupsText (groups : List Nat) : List Char := Text.join ':' (groups.map (Nat.toDigits 16))

/-- An address in its usual form, without brackets. -/
def text (groups : List Nat) : List Char :=
  match longestRun groups with
  | none => groupsText groups
  | some (i, n) => groupsText (groups.take i) ++ ':' :: ':' :: groupsText (groups.drop (i + n))

end Address6
end Url
end ClusterConsole
