import ClusterConsole.Text.Property.Combining

/-!
# The composed form of a text

A letter with an accent can be one character, or a letter and a mark after it, and several marks can
stand in several orders.  Two such texts are the same to a reader.  `normal` gives the one of them
in which marks are in the order of their classes and characters are put together where they can be:
first every character is taken apart (`parts`), then the marks are put in order (`order`), then each
mark is put on the character before it, if nothing between them keeps it away (`compose`).

A syllable of Hangul is not in the tables.  It is made of a leading consonant, a vowel and maybe a
trailing consonant, and counted through by these.
-/

set_option autoImplicit false

namespace ClusterConsole
namespace Text

/-! ## Syllables of Hangul -/

namespace Hangul

/-- The first leading consonant, the first vowel, and what stands for no trailing consonant. -/
def leadings : Nat := 0x1100
def vowels : Nat := 0x1161
def trailings : Nat := 0x11a7

/-- The first syllable. -/
def syllables : Nat := 0xac00

/-- How many leading consonants there are, how many vowels, and how many ways to end a syllable. -/
def leadingCount : Nat := 19
def vowelCount : Nat := 21
def trailingCount : Nat := 28

/-- How many syllables there are. -/
def count : Nat := leadingCount * vowelCount * trailingCount

/-- The letters of a syllable. -/
def letters? (c : Char) : Option (List Char) :=
  let n := c.toNat - syllables
  if c.toNat < syllables || count ≤ n then none
  else
    let leading := Char.ofNat (leadings + n / (vowelCount * trailingCount))
    let vowel := Char.ofNat (vowels + n / trailingCount % vowelCount)
    let trailing := n % trailingCount
    some (leading :: vowel ::
      if trailing = 0 then [] else [Char.ofNat (trailings + trailing)])

/-- A leading consonant and a vowel are a syllable, and so is a syllable without a trailing
consonant, and one. -/
def composite? (c d : Char) : Option Char :=
  let leading := c.toNat - leadings
  let vowel := d.toNat - vowels
  let syllable := c.toNat - syllables
  let trailing := d.toNat - trailings
  if leadings ≤ c.toNat && leading < leadingCount && vowels ≤ d.toNat && vowel < vowelCount then
    some (Char.ofNat (syllables + (leading * vowelCount + vowel) * trailingCount))
  else if syllables ≤ c.toNat && syllable < count && syllable % trailingCount = 0 &&
      trailings < d.toNat && trailing < trailingCount then
    some (Char.ofNat (c.toNat + trailing))
  else none

end Hangul

/-! ## Taking apart -/

/-- The character and the mark that a character is made of. -/
def split? (c : Char) : Option (Char × Char) :=
  compositions.findSome? fun row ↦
    (baseIn? c row.2.toList).map fun base ↦ (base, Char.ofNat row.1)

/-- The parts of a character with at most `marks` marks. -/
def partsUpTo : (marks : Nat) → Char → List Char
  | 0, c => [c]
  | marks + 1, c =>
    match split? c with
    | none => [c]
    | some (base, mark) => partsUpTo marks base ++ [mark]

/-- The largest number of marks that are put on one character. -/
def maxMarks : Nat := 2

/-- The parts of a character. -/
def parts (c : Char) : List Char := (Hangul.letters? c).getD (partsUpTo maxMarks c)

/-! ## Order -/

/-- Puts a character before a text, but after the marks in front of it that come before it. -/
def insertMark (c : Char) : List Char → List Char
  | [] => [c]
  | d :: rest =>
    if combiningClass d ≠ 0 ∧ combiningClass d < combiningClass c then d :: insertMark c rest
    else c :: d :: rest

/-- Puts the marks of a text in order. -/
def order (s : List Char) : List Char := s.foldr insertMark []

/-! ## Putting together -/

/-- What a character is together with one after it, if this is one character. -/
def composite? (c d : Char) : Option Char :=
  (Hangul.composite? c d).or <| compositions.findSome? fun row ↦
    if row.1 = d.toNat then compositeIn? c row.2.toList else none

/-- Does nothing keep a character away from the one it may be put on?  Between them are the marks
`between`, the last one first. -/
def reaches (between : List Char) (c : Char) : Bool :=
  match between with
  | [] => true
  | last :: _ => combiningClass last < combiningClass c

/-- Puts on the character `base`, after which the marks `between` have been kept, what comes after
them. -/
def composeOn (base : Char) (between : List Char) : List Char → List Char
  | [] => base :: between.reverse
  | c :: rest =>
    match if reaches between c then composite? base c else none with
    | some composite => composeOn composite between rest
    | none =>
      if combiningClass c = 0 then base :: between.reverse ++ composeOn c [] rest
      else composeOn base (c :: between) rest

/-- Puts the characters of a text together. -/
def compose : List Char → List Char
  | [] => []
  | c :: rest => composeOn c [] rest

/-- The composed form of a text.  Before the first mark there are no characters but composed ones,
and none that is put on another one. -/
def normal (s : List Char) : List Char :=
  if s.all (·.toNat < 0x300) then s else compose (order (s.flatMap parts))

end Text
end ClusterConsole
