import ClusterConsole.Screen.Line

/-!
# Breaking lines

A line that is too long for its area is broken into rows, at blanks where that is possible.  The
blanks at a break are dropped as far as they would fit the end of the row; blanks anywhere else
stay.  A word that is longer than a row is broken where the row ends.

`Wrapping` is the state of the loop: the rows that are finished, the row being filled, and a word
that is not yet placed with the blanks before it.
-/

set_option autoImplicit false

namespace ClusterConsole
namespace Screen

/-- Rows in the making.  The finished rows are kept backwards. -/
structure Wrapping where
  rows : List (List Glyph)
  line : List Glyph
  blanks : List Glyph
  word : List Glyph
  inWord : Bool

namespace Wrapping

/-- Nothing yet. -/
def start : Wrapping := ⟨[], [], [], [], false⟩

/-- Places the blanks and the word on the row. -/
def place (w : Wrapping) : Wrapping :=
  { w with line := w.line ++ w.blanks ++ w.word, blanks := [], word := [] }

/-- Drops glyphs from the front as long as they fit into a width. -/
def dropFitting : (room : Nat) → List Glyph → List Glyph
  | _, [] => []
  | room, g :: rest => if room < g.width then g :: rest else dropFitting (room - g.width) rest

/-- Finishes the row. -/
def finishRow (width : Nat) (w : Wrapping) : Wrapping :=
  { w with
    rows := w.line :: w.rows
    line := []
    blanks := dropFitting (width - glyphsWidth w.line) w.blanks }

/-- Puts a glyph after the blanks, or after the word. -/
def push (w : Wrapping) (g : Glyph) : Wrapping :=
  if g.isBlank then { w with blanks := w.blanks ++ [g], inWord := false }
  else { w with word := w.word ++ [g], inWord := true }

/-- Has a word ended, or has the first word of the row become too long for it? -/
def isPlacing (width : Nat) (w : Wrapping) (g : Glyph) : Bool :=
  (w.inWord && g.isBlank) ||
    (w.line.isEmpty && width < glyphsWidth w.word + glyphsWidth w.blanks + g.width)

/-- Is the row full, or would it be overfull with the word? -/
def isFull (width : Nat) (w : Wrapping) (g : Glyph) : Bool :=
  width ≤ glyphsWidth w.line ||
    (0 < g.width && width ≤ glyphsWidth w.line + glyphsWidth w.blanks + glyphsWidth w.word)

/-- Takes the next glyph of the line. -/
def add (width : Nat) (w : Wrapping) (g : Glyph) : Wrapping :=
  if width < g.width then w
  else
    let w := if w.isPlacing width g then w.place else w
    if w.isFull width g then
      let w := w.finishRow width
      if g.isBlank && w.blanks.isEmpty then w else w.push g
    else w.push g

/-- The rows when the line has ended.  There is always one at least. -/
def finish (w : Wrapping) : List (List Glyph) :=
  let last := w.line ++ w.blanks ++ w.word
  let rows := if last.isEmpty then w.rows else last :: w.rows
  if rows.isEmpty then [[]] else rows.reverse

end Wrapping

/-- The rows of a line in an area of the given width. -/
def wrap (width : Nat) (gs : List Glyph) : List (List Glyph) :=
  (gs.foldl (Wrapping.add width) .start).finish

end Screen
end ClusterConsole
