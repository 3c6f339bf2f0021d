import ClusterConsole.Screen.Style
import ClusterConsole.Text.Blank
import ClusterConsole.Text.Width

/-!
# Lines of styled text

A line is made of spans, each a text in one style.  To be drawn it becomes a list of glyphs: the
graphemes of its spans with their widths, without those that contain a control character.
-/

set_option autoImplicit false

namespace ClusterConsole
namespace Screen

/-- A text in one style. -/
structure Span where
  text : List Char
  style : Style
  deriving DecidableEq, Repr

/-- A line of text. -/
abbrev Line := List Span

/-- A text in the style of whatever it is drawn on. -/
def Span.raw (s : String) : Span := ⟨s.toList, .plain⟩

/-- A text in a style. -/
def Span.styled (s : String) (style : Style) : Span := ⟨s.toList, style⟩

/-- A grapheme to be drawn, with its width and style. -/
structure Glyph where
  symbol : List Char
  width : Nat
  style : Style
  deriving DecidableEq, Repr

/-- Is it a control character? -/
def isControl (c : Char) : Bool := c.toNat < 0x20 || (0x7f ≤ c.toNat && c.toNat ≤ 0x9f)

/-- The glyphs of a span. -/
def Span.glyphs (s : Span) : List Glyph :=
  ((Text.graphemes s.text).filter fun g ↦ !g.any isControl).map fun g ↦ ⟨g, Text.width g, s.style⟩

/-- The glyphs of a line. -/
def Line.glyphs (l : Line) : List Glyph := l.flatMap Span.glyphs

/-- The width of glyphs side by side. -/
def glyphsWidth (gs : List Glyph) : Nat := gs.foldr (fun g n ↦ g.width + n) 0

/-- Is the glyph a blank at which a line may be broken?  The no-break space is none, and the
zero-width space is one. -/
def Glyph.isBlank (g : Glyph) : Bool :=
  g.symbol == ['\u200b'] || (g.symbol.all Text.isBlank && g.symbol != ['\u00a0'])

/-- The glyphs that fit into a width.  A glyph that is wider than the whole width is left out, and
the first other one that does not fit ends the line. -/
def fit (width : Nat) (used : Nat) : List Glyph → List Glyph
  | [] => []
  | g :: rest =>
    if width < g.width then fit width used rest
    else if width < used + g.width then []
    else g :: fit width (used + g.width) rest

end Screen
end ClusterConsole
