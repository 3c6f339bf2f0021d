/-!
# Colours and looks

Every cell of the screen has a `Look`.  What is drawn has a `Style`, which changes only those parts
of the look that it names.
-/

set_option autoImplicit false

namespace ClusterConsole
namespace Screen

/-- The colours of text.  The plain colour is whatever the terminal uses. -/
inductive Color where
  | plain
  | darkGray
  | gray
  | white
  | cyan
  | yellow
  | green
  | red
  | magenta
  | lightBlue
  deriving DecidableEq, Repr

/-- How a cell looks. -/
structure Look where
  color : Color
  bold : Bool
  inverted : Bool
  deriving DecidableEq, Repr

/-- How an empty cell looks. -/
def Look.plain : Look := ⟨.plain, false, false⟩

/-- What drawing changes about a look. -/
structure Style where
  color : Option Color
  bold : Bool
  inverted : Bool
  deriving DecidableEq, Repr

namespace Style

/-- Changes nothing. -/
def plain : Style := ⟨none, false, false⟩

/-- Changes the colour. -/
def of (c : Color) : Style := ⟨some c, false, false⟩

/-- Makes bold as well. -/
def strong (s : Style) : Style := { s with bold := true }

/-- Swaps the colours of text and ground as well. -/
def invert (s : Style) : Style := { s with inverted := true }

/-- The look after drawing. -/
def apply (s : Style) (l : Look) : Look :=
  ⟨s.color.getD l.color, l.bold || s.bold, l.inverted || s.inverted⟩

end Style
end Screen
end ClusterConsole
