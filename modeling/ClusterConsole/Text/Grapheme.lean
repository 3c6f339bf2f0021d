import ClusterConsole.Text.Property.Breaking
import ClusterConsole.Text.Property.Conjunct
import ClusterConsole.Text.Property.Extending
import ClusterConsole.Text.Property.Pictographic
import ClusterConsole.Text.Property.Prepending
import ClusterConsole.Text.Property.SpacingMark

/-!
# Graphemes

A reader takes a letter with its accents, a syllable of Hangul letters, a flag made of two regional
letters or a pictograph joined from others for one sign.  Such a sign is a grapheme, and a cell of
the screen shows one.

`graphemes` cuts a text according to the rules for extended grapheme clusters: a text is cut
between any two characters unless a rule joins them.  `Tail` is what the rules need to know of the
text before a place.
-/

set_option autoImplicit false

namespace ClusterConsole
namespace Text

/-- What a character is to the rules. -/
inductive GraphemeClass where
  | carriageReturn
  | lineFeed
  | control
  | extend
  | joiner
  | regional
  | prepend
  | spacing
  | leading
  | vowel
  | trailing
  | openSyllable
  | closedSyllable
  | other
  deriving DecidableEq, Repr

namespace GraphemeClass

/-- The class of a Hangul letter or syllable. -/
def hangul? (n : Nat) : Option GraphemeClass :=
  if (0x1100 ≤ n && n ≤ 0x115f) || (0xa960 ≤ n && n ≤ 0xa97c) then some .leading
  else if (0x1160 ≤ n && n ≤ 0x11a7) || (0xd7b0 ≤ n && n ≤ 0xd7c6) then some .vowel
  else if (0x11a8 ≤ n && n ≤ 0x11ff) || (0xd7cb ≤ n && n ≤ 0xd7fb) then some .trailing
  else if 0xac00 ≤ n && n ≤ 0xd7a3 then
    some (if (n - 0xac00) % 28 == 0 then .openSyllable else .closedSyllable)
  else none

/-- The class of a character.  The five skin tones extend the pictograph before them. -/
def of (c : Char) : GraphemeClass :=
  let n := c.toNat
  if n == 0x0d then .carriageReturn
  else if n == 0x0a then .lineFeed
  else if 0x20 ≤ n && n < 0x7f then .other
  else if n == 0x200d then .joiner
  else if 0x1f1e6 ≤ n && n ≤ 0x1f1ff then .regional
  else if isExtending c || (0x1f3fb ≤ n && n ≤ 0x1f3ff) then .extend
  else if isBreaking c then .control
  else if isPrepending c then .prepend
  else if isSpacingMark c then .spacing
  else (hangul? n).getD .other

/-- Does the class end every grapheme on both sides? -/
def breaks : GraphemeClass → Bool
  | .carriageReturn | .lineFeed | .control => true
  | _ => false

/-- Do two Hangul letters or syllables belong to one syllable? -/
def sameSyllable : GraphemeClass → GraphemeClass → Bool
  | .leading, .leading | .leading, .vowel | .leading, .openSyllable | .leading, .closedSyllable
  | .openSyllable, .vowel | .openSyllable, .trailing | .vowel, .vowel | .vowel, .trailing
  | .closedSyllable, .trailing | .trailing, .trailing => true
  | _, _ => false

end GraphemeClass

/-- What the rules need to know of the text before a place: the class of the last character, whether
it ends an odd number of regional letters, whether it ends a pictograph with its extensions, or such
with a joiner after it, and whether it ends a consonant with its extensions, or such with a linking
sign among them. -/
structure Tail where
  last : GraphemeClass
  regionalOdd : Bool
  pictograph : Bool
  joined : Bool
  consonant : Bool
  linked : Bool

namespace Tail

/-- What is known after a first character. -/
def start (c : Char) : Tail :=
  let k := GraphemeClass.of c
  ⟨k, k == .regional, isPictographic c, false, isConsonant c, false⟩

/-- What is known after one more character. -/
def next (t : Tail) (c : Char) : Tail :=
  let k := GraphemeClass.of c
  let stays := k == .extend || k == .joiner
  { last := k
    regionalOdd := k == .regional && !t.regionalOdd
    pictograph := isPictographic c || (t.pictograph && k == .extend)
    joined := t.pictograph && k == .joiner
    consonant := isConsonant c || (t.consonant && stays && c.toNat != 0x200c)
    linked := t.consonant && stays && c.toNat != 0x200c && (t.linked || isLinker c) }

/-- Is the character that comes next part of the same grapheme? -/
def joins (t : Tail) (c : Char) : Bool :=
  let k := GraphemeClass.of c
  if t.last == .carriageReturn && k == .lineFeed then true
  else if t.last.breaks || k.breaks then false
  else
    GraphemeClass.sameSyllable t.last k || k == .extend || k == .joiner || k == .spacing ||
      t.last == .prepend || (t.linked && isConsonant c) || (t.joined && isPictographic c) ||
      (t.regionalOdd && k == .regional)

end Tail

/-- Goes on cutting: `done` holds the graphemes so far and `current` the open one, both
backwards. -/
def graphemesFrom (done : List (List Char)) (current : List Char) (t : Tail) :
    List Char → List (List Char)
  | [] => (current.reverse :: done).reverse
  | c :: rest =>
    if t.joins c then graphemesFrom done (c :: current) (t.next c) rest
    else graphemesFrom (current.reverse :: done) [c] (t.next c) rest

/-- The graphemes of a text. -/
def graphemes : List Char → List (List Char)
  | [] => []
  | c :: rest => graphemesFrom [] [c] (.start c) rest

end Text
end ClusterConsole
