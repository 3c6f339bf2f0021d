import ClusterConsole.Text.Property.Ranges

/-!
# Consonants that form conjuncts

In six scripts of India a sign between two consonants links them into one conjunct, which is one
grapheme.
-/

set_option autoImplicit false

namespace ClusterConsole
namespace Text

/-- The ranges of consonants that can be linked, in increasing order. -/
def consonantRanges : List (Nat × Nat) :=
  [(0x915, 0x939), (0x958, 0x95f), (0x978, 0x97f), (0x995, 0x9a8), (0x9aa, 0x9b0), (0x9b2, 0x9b2),
   (0x9b6, 0x9b9), (0x9dc, 0x9dd), (0x9df, 0x9df), (0x9f0, 0x9f1), (0xa95, 0xaa8), (0xaaa, 0xab0),
   (0xab2, 0xab3), (0xab5, 0xab9), (0xaf9, 0xaf9), (0xb15, 0xb28), (0xb2a, 0xb30), (0xb32, 0xb33),
   (0xb35, 0xb39), (0xb5c, 0xb5d), (0xb5f, 0xb5f), (0xb71, 0xb71), (0xc15, 0xc28), (0xc2a, 0xc39),
   (0xc58, 0xc5a), (0xd15, 0xd3a)]

/-- Is this a consonant that can be linked? -/
def isConsonant (c : Char) : Bool := inRanges consonantRanges c.toNat

/-- Is this a sign that links two consonants? -/
def isLinker (c : Char) : Bool :=
  let n := c.toNat
  n == 0x94d || n == 0x9cd || n == 0xacd || n == 0xb4d || n == 0xc4d || n == 0xd4d

end Text
end ClusterConsole
