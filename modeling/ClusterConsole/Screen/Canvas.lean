import ClusterConsole.Screen.Wrap

/-!
# The screen and what is drawn on it

A canvas is a grid of cells, each with a symbol and a look.  Drawing happens within areas,
rectangles of cells; what would lie outside the canvas is not drawn.

* `Area` has the ways in which an area is divided.
* `Canvas.drawFrame` draws a border with a title in it.
* `Canvas.drawLines` and `Canvas.drawWrapped` draw lines of text, cut off or broken at the right
  edge of their area.
-/

set_option autoImplicit false

namespace ClusterConsole
namespace Screen

/-! ## Areas -/

/-- A rectangle of cells. -/
structure Area where
  x : Nat
  y : Nat
  width : Nat
  height : Nat
  deriving DecidableEq, Repr

namespace Area

/-- Has the area no cells? -/
def isEmpty (a : Area) : Bool := a.width == 0 || a.height == 0

/-- What lies within a border. -/
def inner (a : Area) : Area :=
  ⟨min (a.x + 1) (a.x + a.width), min (a.y + 1) (a.y + a.height), a.width - 2, a.height - 2⟩

/-- The rows of an area from `offset` on. -/
def rows (a : Area) (offset count : Nat) : Area := ⟨a.x, a.y + offset, a.width, count⟩

/-- The columns of an area from `offset` on. -/
def columns (a : Area) (offset count : Nat) : Area := ⟨a.x + offset, a.y, count, a.height⟩

end Area

/-- A part of a length, in hundredths, rounded half up. -/
def percent (p n : Nat) : Nat := (p * n + 50) / 100

/-! ## Cells -/

/-- A cell: its symbol, how many columns that takes, and its look. -/
structure Cell where
  symbol : List Char
  width : Nat
  look : Look
  deriving DecidableEq, Repr

/-- An empty cell. -/
def Cell.blank : Cell := ⟨[' '], 1, .plain⟩

/-- A grid of cells, row by row. -/
structure Canvas where
  width : Nat
  height : Nat
  cells : Array Cell

namespace Canvas

/-- A grid of empty cells. -/
def blank (width height : Nat) : Canvas := ⟨width, height, Array.replicate (width * height) .blank⟩

/-- The whole canvas as an area. -/
def area (c : Canvas) : Area := ⟨0, 0, c.width, c.height⟩

/-- Changes a cell. -/
def modify (c : Canvas) (x y : Nat) (change : Cell → Cell) : Canvas :=
  if x < c.width && y < c.height then
    { c with cells := c.cells.modify (y * c.width + x) change }
  else c

/-- Draws a symbol. -/
def put (c : Canvas) (x y : Nat) (g : Glyph) : Canvas :=
  c.modify x y fun cell ↦ ⟨g.symbol, g.width, g.style.apply cell.look⟩

/-- Draws glyphs side by side from a column on.  A glyph without a width is not drawn. -/
def putAll (c : Canvas) (x y : Nat) : List Glyph → Canvas
  | [] => c
  | g :: rest =>
    if g.width = 0 then putAll c x y rest else putAll (c.put x y g) (x + g.width) y rest

/-- Changes the cells of an area. -/
def modifyArea (c : Canvas) (a : Area) (change : Cell → Cell) : Canvas :=
  (List.range a.height).foldl (fun c j ↦
    (List.range a.width).foldl (fun c i ↦ c.modify (a.x + i) (a.y + j) change) c) c

/-- Empties an area. -/
def clear (c : Canvas) (a : Area) : Canvas := c.modifyArea a fun _ ↦ .blank

/-- Gives an area a style. -/
def restyle (c : Canvas) (a : Area) (s : Style) : Canvas :=
  c.modifyArea a fun cell ↦ { cell with look := s.apply cell.look }

/-! ## Text -/

/-- Where a centred row begins: both halves are taken of whole columns. -/
def centre (room wanted : Nat) : Nat := room / 2 - wanted / 2

/-- Draws rows of glyphs one below the other, as far as the area has rows, each of them in the
middle if `centered` is set. -/
def putRows (c : Canvas) (a : Area) (centered : Bool) (rows : List (List Glyph)) : Canvas :=
  ((rows.take a.height).foldl (fun (c, y) row ↦
    let indent := if centered then centre a.width (glyphsWidth row) else 0
    (c.putAll (a.x + indent) y row, y + 1)) (c, a.y)).1

/-- Draws lines of text, cut off at the right edge. -/
def drawLines (c : Canvas) (a : Area) (centered : Bool) (lines : List Line) : Canvas :=
  if a.isEmpty then c
  else c.putRows a centered ((lines.take a.height).map fun l ↦ fit a.width 0 l.glyphs)

/-- The rows of lines that are broken at the right edge of an area. -/
def wrappedRows (width : Nat) (lines : List Line) : List (List Glyph) :=
  lines.flatMap fun l ↦ wrap width l.glyphs

/-- Draws lines of text, broken at the right edge, without the first `scroll` rows. -/
def drawWrapped (c : Canvas) (a : Area) (scroll : Nat) (lines : List Line) : Canvas :=
  if a.isEmpty then c else c.putRows a false ((wrappedRows a.width lines).drop scroll)

/-! ## Frames -/

/-- A symbol of one column. -/
def Glyph.narrow (symbol : Char) (s : Style) : Glyph := ⟨[symbol], 1, s⟩

/-- Draws the same symbol in every cell of an area. -/
def fill (c : Canvas) (a : Area) (symbol : Char) (s : Style) : Canvas :=
  c.modifyArea a fun cell ↦ ⟨[symbol], 1, s.apply cell.look⟩

/-- Draws a border along the edges of an area that is not empty. -/
def drawBorder (c : Canvas) (a : Area) (s : Style) : Canvas :=
  let right := a.x + a.width - 1
  let bottom := a.y + a.height - 1
  let c := c.fill ⟨a.x, a.y, 1, a.height⟩ '│' s
  let c := c.fill ⟨a.x, a.y, a.width, 1⟩ '─' s
  let c := c.fill ⟨right, a.y, 1, a.height⟩ '│' s
  let c := c.fill ⟨a.x, bottom, a.width, 1⟩ '─' s
  let c := c.put right bottom (Glyph.narrow '┘' s)
  let c := c.put right a.y (Glyph.narrow '┐' s)
  let c := c.put a.x bottom (Glyph.narrow '└' s)
  c.put a.x a.y (Glyph.narrow '┌' s)

/-- Drops glyphs from the front up to a width. -/
def dropWidth : (width : Nat) → List Glyph → List Glyph
  | _, [] => []
  | width, g :: rest => if width = 0 then g :: rest else dropWidth (width - g.width) rest

/-- Draws a title in the middle of the upper edge of a frame.  A title that is too long by a single
column loses its end.  Of a longer one both ends are lost: the columns on the right of the room,
half as many as are too much, keep the border, and those before them show the end of the title. -/
def drawTitle (c : Canvas) (a : Area) (title : Span) : Canvas :=
  let room := a.width - 2
  let glyphs := title.glyphs
  let wanted := glyphsWidth glyphs
  let x := a.x + 1
  let lost := (wanted - room) / 2
  if wanted ≤ room then c.putAll (x + (room - wanted) / 2) a.y glyphs
  else if lost = 0 then c.putAll x a.y (fit room 0 glyphs)
  else c.putAll x a.y (dropWidth (wanted - (room - lost)) glyphs)

/-- Draws a border with a title in it. -/
def drawFrame (c : Canvas) (a : Area) (border : Style) (title : Span) : Canvas :=
  if a.isEmpty then c else (c.drawBorder a border).drawTitle a title

end Canvas
end Screen
end ClusterConsole
