import ClusterConsole.Text.Normal
import ClusterConsole.Text.Property.Direction
import ClusterConsole.Text.Property.HostName
import ClusterConsole.Text.Property.Joining
import ClusterConsole.Url.Punycode

/-!
# Labels of a name

The name of a host is made of labels with points between them.  A label in ASCII is written as it
is, but one that begins with `xn--` stands for a label with characters beyond ASCII, and such a
label is written in this way.

Not every text with such characters is a label.  It has to be the one of several spellings in which
names are compared, so none of its characters stands for others and it is in composed form.  It does
not begin with a mark, which would belong to the point before it.  The two characters that join
letters or keep them apart show nothing of their own, so they must stand where they make a
difference (`joinersFit`).  And where a name has letters that are written towards the left, each of
its labels has to be readable in one direction (`isDirected`), or labels would seem to change
places.
-/

set_option autoImplicit false

namespace ClusterConsole
namespace Url

/-- A label: how it is written in ASCII, and the characters it stands for. -/
structure Label where
  written : List Char
  meant : List Char
  deriving DecidableEq, Repr

namespace Label

/-- What a character in a name stands for. -/
def plain (c : Char) : List Char :=
  let n := c.toNat
  if isAscii c then [c.toLower]
  else if Text.isUnspoken c then []
  else if 0xff01 ≤ n && n ≤ 0xff5e then [(Char.ofNat (n - 0xfee0)).toLower]
  else (Text.nameTarget? c).getD [c]

/-! ## Joiners -/

/-- The character that joins letters, and the one that keeps them apart. -/
def joiner : Char := '\u200d'
def nonJoiner : Char := '\u200c'

/-- The class of the sign that takes the vowel off a consonant of India. -/
def viramaClass : Nat := 9

/-- Do the characters before a place, the last one first, end in a consonant without its vowel? -/
def endsInVirama (before : List Char) : Bool :=
  before.head?.any (Text.combiningClass · == viramaClass)

/-- Would the letters around a place be joined?  The ones before it have the last one first. -/
def isJoined (before after : List Char) : Bool :=
  (before.dropWhile Text.isTransparent).head?.any Text.joinsNext &&
    (after.dropWhile Text.isTransparent).head?.any Text.joinsPrevious

/-- Does each joiner make a difference?  The characters `before` have been seen, the last one
first. -/
def joinersFit (before : List Char) : List Char → Bool
  | [] => true
  | c :: rest =>
    (c != joiner || endsInVirama before) &&
      (c != nonJoiner || endsInVirama before || isJoined before rest) &&
      joinersFit (c :: before) rest

/-! ## Direction -/

/-- Is this character written towards the left? -/
def isLeftwards (c : Char) : Bool :=
  Text.Direction.of c == .leftwards || Text.Direction.of c == .arabicNumber

/-- Can a label be read in one direction?  Its first character says which. -/
def isDirected (s : List Char) : Bool :=
  let all := s.map Text.Direction.of
  let last := (all.reverse.dropWhile (· == .mark)).head?
  match all with
  | [] => true
  | .rightwards :: _ =>
    !all.contains .leftwards && !all.contains .arabicNumber &&
      (last == some .rightwards || last == some .number)
  | .leftwards :: _ =>
    !all.contains .rightwards && !(all.contains .number && all.contains .arabicNumber) &&
      (last == some .leftwards || last == some .number || last == some .arabicNumber)
  | _ => false

/-! ## Reading -/

/-- What a label begins with that stands for another one. -/
def announced : List Char := ['x', 'n', '-', '-']

/-- Is a text with characters beyond ASCII a label?  If it began like one that stands for another
label, then it could be taken for it. -/
def isProper (s : List Char) : Bool :=
  s.all (fun c ↦ plain c == [c] && (isAscii c || !Text.isUnnameable c)) &&
    Text.normal s == s && !s.head?.any Text.isMark && joinersFit [] s && !announced.isPrefixOf s

/-- A label in ASCII that stands for itself. -/
def ofAscii (s : List Char) : Label := ⟨s, s⟩

/-- The longest label with characters beyond ASCII. -/
def maxLength : Nat := 1000

/-- Reads a label. -/
def read (s : List Char) : Option Label :=
  if !s.all isAscii then
    if maxLength < s.length || !isProper s then none
    else some ⟨announced ++ Punycode.encode s, s⟩
  else if announced.isPrefixOf s then
    match Punycode.decode? (s.drop announced.length) with
    | none => none
    | some meant => if meant.all isAscii || !isProper meant then none else some ⟨s, meant⟩
  else some (ofAscii s)

end Label
end Url
end ClusterConsole
