/-!
# Blank characters and trimming

Input fields are trimmed before they are read as numbers, and a line of a result is split into its
indent and the rest.  Both use the same notion of a blank: the characters with the Unicode
property `White_Space`, which is larger than the four blanks of ASCII texts.

* `isBlank` decides the property.
* `trimStart` and `trim` drop blanks from the front, and from both ends.  What they leave begins
  (and ends) with a character that is not blank, and an already trimmed text is left alone.
-/

set_option autoImplicit false

namespace ClusterConsole
namespace Text

/-- The characters with the Unicode property `White_Space`. -/
def isBlank (c : Char) : Bool :=
  let n := c.toNat
  (0x9 ≤ n && n ≤ 0xd) || n == 0x20 || n == 0x85 || n == 0xa0 || n == 0x1680 ||
    (0x2000 ≤ n && n ≤ 0x200a) || n == 0x2028 || n == 0x2029 || n == 0x202f || n == 0x205f ||
    n == 0x3000

/-- Drops the blanks at the front. -/
def trimStart (s : List Char) : List Char := s.dropWhile isBlank

/-- Drops the blanks at the back. -/
def trimEnd (s : List Char) : List Char := (s.reverse.dropWhile isBlank).reverse

/-- Drops the blanks at both ends. -/
def trim (s : List Char) : List Char := trimEnd (trimStart s)

/-- The blanks at the front: what `trimStart` drops. -/
def indent (s : List Char) : List Char := s.takeWhile isBlank

/-- A text is its indent followed by the rest. -/
theorem indent_append_trimStart (s : List Char) : indent s ++ trimStart s = s :=
  List.takeWhile_append_dropWhile

end Text
end ClusterConsole
