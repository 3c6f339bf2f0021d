import ClusterConsole.Text.Grapheme
import ClusterConsole.Text.Property.Emoji
import ClusterConsole.Text.Property.Ignorable
import ClusterConsole.Text.Property.Wide

/-!
# How many columns a grapheme takes

Most characters take one column of the screen, ideographs and most pictographs two, and marks that
join the character before them none.  A variation selector changes the width of the character before
it, a skin tone adds nothing to its pictograph, and pictographs joined into one take the two columns
of one.
-/

set_option autoImplicit false

namespace ClusterConsole
namespace Text

/-- Is it a vowel or a trailing letter of Hangul, which is drawn into the letter before it? -/
def isInnerLetter (c : Char) : Bool :=
  match GraphemeClass.hangul? c.toNat with
  | some .vowel | some .trailing => true
  | _ => false

/-- Is it one of the signs of number that are drawn around other characters, or another sign that is
drawn without a place of its own? -/
def isPlaceless (c : Char) : Bool :=
  [0x605, 0x70f, 0x890, 0x891, 0x8e2, 0xa8fa, 0xcc0, 0xcc7, 0xcc8, 0xcca, 0xccb, 0x1b3b, 0x1b3d,
    0x1b43].contains c.toNat

/-- The width of a character on its own. -/
def charWidth (c : Char) : Nat :=
  let n := c.toNat
  if 0x20 ≤ n && n < 0x7f then 1
  else if n == 0x115f || n == 0x17a4 then 2
  else if n == 0x17d8 then 3
  else if isIgnorable c || isExtending c || isInnerLetter c || isPlaceless c then 0
  else if isWide c then 2
  else 1

/-- Is it a skin tone? -/
def isSkinTone (c : Char) : Bool := 0x1f3fb ≤ c.toNat && c.toNat ≤ 0x1f3ff

/-- The columns that a character adds to a grapheme, given those before it: `total` columns without
the last character that has a width, `last` that character and its width, and whether a joiner
stands between. -/
structure Columns where
  total : Nat
  last : Option Char
  width : Nat
  joined : Bool

/-- No columns yet. -/
def Columns.none : Columns := ⟨0, .none, 0, false⟩

/-- Does the last character satisfy the predicate? -/
def Columns.lastIs (k : Columns) (p : Char → Bool) : Bool :=
  match k.last with
  | some c => p c
  | .none => false

/-- The columns after one more character. -/
def Columns.add (k : Columns) (c : Char) : Columns :=
  if c.toNat == 0x200d then { k with joined := true }
  else if c.toNat == 0xfe0f && k.lastIs hasEmojiForm then { k with width := 2 }
  else if c.toNat == 0xfe0e && k.lastIs (fun p ↦ isWide p && hasEmojiForm p) then
    { k with width := 1 }
  else if isSkinTone c && k.lastIs isPictographic then { k with width := 2 }
  else if k.joined && isPictographic c && k.lastIs isPictographic then
    { k with width := 2, joined := false }
  else if charWidth c == 0 then k
  else ⟨k.total + k.width, some c, charWidth c, false⟩

/-- The width of a grapheme. -/
def width (g : List Char) : Nat :=
  let k := g.foldl Columns.add .none
  k.total + k.width

end Text
end ClusterConsole
