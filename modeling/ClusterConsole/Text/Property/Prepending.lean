import ClusterConsole.Text.Property.Ranges

/-!
# Characters that belong to the one after them

A few signs of number and repetition belong to the character that follows them.
-/

set_option autoImplicit false

namespace ClusterConsole
namespace Text

/-- The ranges that break no grapheme after them, in increasing order. -/
def prependingRanges : List (Nat × Nat) :=
  [(0x600, 0x605), (0x6dd, 0x6dd), (0x70f, 0x70f), (0x890, 0x891), (0x8e2, 0x8e2), (0xd4e,
   0xd4e), (0x110bd, 0x110bd), (0x110cd, 0x110cd), (0x111c2, 0x111c3), (0x1193f, 0x1193f),
   (0x11941, 0x11941), (0x11a3a, 0x11a3a), (0x11a84, 0x11a89), (0x11d46, 0x11d46), (0x11f02,
   0x11f02)]

/-- Does this character belong to the one after it? -/
def isPrepending (c : Char) : Bool := inRanges prependingRanges c.toNat

end Text
end ClusterConsole
