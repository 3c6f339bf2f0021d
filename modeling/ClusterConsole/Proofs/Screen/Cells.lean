import ClusterConsole.Screen.Canvas
import Mathlib

/-!
# What stands where after drawing

Drawing is a sequence of changes to single cells.  Here it is said what every cell of the canvas is
after it: after one glyph (`cell?_put`), after glyphs side by side (`cell?_putAll`) and after rows
of them one below the other (`cell?_putRows`).  Of rows, each screen row depends on one row only.

`glyphAt?` is the glyph of a row that begins at a column.  Glyphs without a width begin nowhere, and
behind a wide glyph there is a column at which none begins.
-/

set_option autoImplicit false

namespace ClusterConsole
namespace Screen

theorem Area.isEmpty_eq_false {a : Area} : a.isEmpty = false ↔ 0 < a.width ∧ 0 < a.height := by
  simp [isEmpty, Nat.pos_iff_ne_zero]

/-- The glyph of a row that begins at a column. -/
def glyphAt? : List Glyph → (column : Nat) → Option Glyph
  | [], _ => none
  | g :: rest, k =>
    if g.width = 0 then glyphAt? rest k
    else if k = 0 then some g
    else if k < g.width then none
    else glyphAt? rest (k - g.width)

/-- A cell after a glyph is drawn in it. -/
def Glyph.onto (g : Glyph) (cell : Cell) : Cell := ⟨g.symbol, g.width, g.style.apply cell.look⟩

namespace Canvas

/-- The cell at a place of the canvas. -/
def cell? (c : Canvas) (x y : Nat) : Option Cell :=
  if x < c.width ∧ y < c.height then c.cells[y * c.width + x]? else none

/-- There is a cell for every place. -/
def IsFull (c : Canvas) : Prop := c.cells.size = c.width * c.height

variable {c : Canvas} {x y : Nat}

theorem isFull_blank (w h : Nat) : (blank w h).IsFull := Array.size_replicate

/-- Places are counted row by row, so no two have the same number. -/
theorem eq_of_index_eq {w x' y' : Nat} (hx : x < w) (hx' : x' < w)
    (h : y * w + x = y' * w + x') : x = x' ∧ y = y' := by
  have hw : 0 < w := Nat.zero_lt_of_lt hx
  have hcolumn : ∀ {x y : Nat}, x < w → (y * w + x) % w = x := fun hx ↦ by
    rw [Nat.mul_comm, Nat.mul_add_mod, Nat.mod_eq_of_lt hx]
  have hrow : ∀ {x y : Nat}, x < w → (y * w + x) / w = y := fun hx ↦ by
    rw [Nat.mul_comm, Nat.mul_add_div hw, Nat.div_eq_of_lt hx, Nat.add_zero]
  exact ⟨(hcolumn hx).symm.trans (h ▸ hcolumn hx'), (hrow hx).symm.trans (h ▸ hrow hx')⟩

theorem IsFull.exists_cell (hc : c.IsFull) (hx : x < c.width) (hy : y < c.height) :
    ∃ cell, c.cell? x y = some cell := by
  have hindex : y * c.width + x < c.cells.size := by
    have hrows : (y + 1) * c.width ≤ c.height * c.width := Nat.mul_le_mul_right c.width hy
    rw [hc, Nat.mul_comm c.width]
    rw [Nat.add_mul, Nat.one_mul] at hrows
    omega
  exact ⟨_, (if_pos ⟨hx, hy⟩).trans (Array.getElem?_eq_getElem hindex)⟩

theorem cell?_blank {w h : Nat} (hx : x < w) (hy : y < h) :
    (blank w h).cell? x y = some .blank := by
  obtain ⟨cell, hcell⟩ := (isFull_blank w h).exists_cell (x := x) (y := y) hx hy
  have hindex : (Array.replicate (w * h) Cell.blank)[y * w + x]? = some cell := by
    rwa [cell?, if_pos ⟨hx, hy⟩] at hcell
  rw [Array.getElem?_replicate] at hindex
  split at hindex
  · rw [hcell, hindex]
  · cases hindex

/-- The canvas has become no larger and no smaller. -/
structure SameSize (c c' : Canvas) : Prop where
  width_eq : c'.width = c.width
  height_eq : c'.height = c.height
  size_eq : c'.cells.size = c.cells.size

namespace SameSize

variable {c c' c'' : Canvas}

theorem refl (c : Canvas) : SameSize c c := ⟨rfl, rfl, rfl⟩

theorem trans (h : SameSize c c') (h' : SameSize c' c'') : SameSize c c'' :=
  ⟨h'.width_eq.trans h.width_eq, h'.height_eq.trans h.height_eq, h'.size_eq.trans h.size_eq⟩

theorem isFull (h : SameSize c c') (hc : c.IsFull) : c'.IsFull := by
  rw [IsFull, h.size_eq, hc, h.width_eq, h.height_eq]

theorem foldl {α : Type} {f : Canvas → α → Canvas} (h : ∀ c a, SameSize c (f c a)) (l : List α)
    (c : Canvas) : SameSize c (l.foldl f c) := by
  induction l generalizing c with
  | nil => exact .refl c
  | cons a l ih => exact (h c a).trans (ih (f c a))

end SameSize

/-! ## Single cells -/

section Modify

variable (c) (x y : Nat) (change : Cell → Cell)

theorem sameSize_modify : SameSize c (c.modify x y change) := by
  rw [modify]
  split
  · exact ⟨rfl, rfl, Array.size_modify⟩
  · exact .refl c

/-- One cell is changed, and no other. -/
theorem cell?_modify (x' y' : Nat) : (c.modify x y change).cell? x' y' =
    if x' = x ∧ y' = y then (c.cell? x y).map change else c.cell? x' y' := by
  by_cases hplace : x < c.width ∧ y < c.height
  · have hmodify : c.modify x y change =
        ⟨c.width, c.height, c.cells.modify (y * c.width + x) change⟩ := by
      rw [modify, if_pos (by simpa using hplace)]
    rw [hmodify, cell?, cell?, cell?, if_pos hplace]
    split
    · next hplace' =>
      rw [Array.getElem?_modify]
      split
      · next hindex =>
        obtain ⟨rfl, rfl⟩ := eq_of_index_eq hplace.1 hplace'.1 hindex
        rw [if_pos ⟨rfl, rfl⟩]
      · next hindex => rw [if_neg fun ⟨hx, hy⟩ ↦ hindex (by rw [hx, hy])]
    · next hplace' => rw [if_neg fun ⟨hx, hy⟩ ↦ hplace' (by rwa [hx, hy])]
  · have hmodify : c.modify x y change = c := by rw [modify, if_neg (by simpa using hplace)]
    rw [hmodify]
    split
    · next h => rw [h.1, h.2, cell?, if_neg hplace, Option.map_none]
    · rfl

end Modify

/-! ## Glyphs side by side -/

section Put

variable (c) (x y : Nat) (gs : List Glyph)

theorem cell?_put (g : Glyph) (x' y' : Nat) : (c.put x y g).cell? x' y' =
    if x' = x ∧ y' = y then (c.cell? x y).map g.onto else c.cell? x' y' :=
  cell?_modify c x y g.onto x' y'

theorem sameSize_putAll : SameSize c (c.putAll x y gs) := by
  induction gs generalizing c x with
  | nil => exact .refl c
  | cons g rest ih =>
    rw [putAll]
    split
    · exact ih c x
    · exact (sameSize_modify c x y g.onto).trans (ih _ _)

/-- Glyphs side by side change the row they are drawn on, each of them the cell at which it
begins. -/
theorem cell?_putAll (x' y' : Nat) : (c.putAll x y gs).cell? x' y' =
    if y' = y ∧ x ≤ x' then
      match glyphAt? gs (x' - x) with
      | some g => (c.cell? x' y').map g.onto
      | none => c.cell? x' y'
    else c.cell? x' y' := by
  induction gs generalizing c x with
  | nil => simp [putAll, glyphAt?]
  | cons g rest ih =>
    rw [putAll, glyphAt?]
    split
    · exact ih c x
    · next hwidth =>
      rw [ih, cell?_put]
      -- the glyph is before what is drawn after it, so its cell is changed once
      by_cases hrow : y' = y
      · subst hrow
        rcases Nat.lt_trichotomy x' x with hlt | rfl | hgt
        · rw [if_neg (by omega), if_neg (by omega), if_neg (by omega)]
        · rw [if_neg (by omega), if_pos ⟨rfl, rfl⟩, if_pos ⟨rfl, Nat.le_refl _⟩, Nat.sub_self]
          rfl
        · rw [if_neg (by omega : ¬(x' = x ∧ y' = y')), if_pos (⟨rfl, hgt.le⟩ : y' = y' ∧ x ≤ x'),
            if_neg (by omega : ¬x' - x = 0)]
          by_cases hbehind : x' - x < g.width
          · rw [if_neg (by omega), if_pos hbehind]
          · rw [if_pos ⟨rfl, by omega⟩, if_neg hbehind, Nat.sub_sub]
      · rw [if_neg (by tauto), if_neg (by tauto), if_neg (by tauto)]

/-- What a cell becomes depends on nothing but what it was. -/
theorem cell?_putAll_congr {c c' : Canvas} {x' y' : Nat} (h : c.cell? x' y' = c'.cell? x' y') :
    (c.putAll x y gs).cell? x' y' = (c'.putAll x y gs).cell? x' y' := by
  rw [cell?_putAll, cell?_putAll, h]

theorem cell?_putAll_of_ne {x' y' : Nat} (h : y' ≠ y) :
    (c.putAll x y gs).cell? x' y' = c.cell? x' y' := by
  rw [cell?_putAll, if_neg fun hrow ↦ h hrow.1]

end Put

/-! ## Rows one below the other -/

/-- The column at which a row of an area begins. -/
def rowStart (a : Area) (centered : Bool) (row : List Glyph) : Nat :=
  a.x + if centered then centre a.width (glyphsWidth row) else 0

theorem cell?_foldl_putAll (start : List Glyph → Nat) (rows : List (List Glyph)) (x' y' : Nat) :
    (rows.foldl (fun (c, y) row ↦ (c.putAll (start row) y row, y + 1)) (c, y)).1.cell? x' y' =
      if y ≤ y' then
        match rows[y' - y]? with
        | some row => (c.putAll (start row) y' row).cell? x' y'
        | none => c.cell? x' y'
      else c.cell? x' y' := by
  induction rows generalizing c y with
  | nil => simp
  | cons row rest ih =>
    rw [List.foldl_cons, ih]
    rcases Nat.lt_trichotomy y' y with hlt | rfl | hgt
    · rw [if_neg (by omega), if_neg (by omega), cell?_putAll_of_ne _ _ _ _ (by omega)]
    · rw [if_neg (by omega), if_pos (Nat.le_refl _), Nat.sub_self]
      rfl
    · -- the rows below leave the first one alone
      have hsame : (c.putAll (start row) y row).cell? x' y' = c.cell? x' y' :=
        cell?_putAll_of_ne _ _ _ _ (by omega)
      have hindex : y' - y = (y' - (y + 1)) + 1 := by omega
      rw [if_pos (by omega), if_pos (by omega), hindex, List.getElem?_cons_succ, hsame]
      split
      · exact cell?_putAll_congr _ _ _ hsame
      · rfl

/-- **Each screen row of an area is what one of the rows makes of it.** -/
theorem cell?_putRows (c : Canvas) (a : Area) (centered : Bool) (rows : List (List Glyph))
    (x' y' : Nat) : (c.putRows a centered rows).cell? x' y' =
      if a.y ≤ y' then
        match (rows.take a.height)[y' - a.y]? with
        | some row => (c.putAll (rowStart a centered row) y' row).cell? x' y'
        | none => c.cell? x' y'
      else c.cell? x' y' :=
  cell?_foldl_putAll (rowStart a centered) (rows.take a.height) x' y'

/-! ## Frames -/

theorem sameSize_modifyArea (c : Canvas) (a : Area) (change : Cell → Cell) :
    SameSize c (c.modifyArea a change) :=
  .foldl (fun c _ ↦ .foldl (fun c _ ↦ sameSize_modify c _ _ change) _ c) _ c

theorem sameSize_drawBorder (c : Canvas) (a : Area) (s : Style) : SameSize c (c.drawBorder a s) :=
  (sameSize_modifyArea c _ _).trans <| (sameSize_modifyArea _ _ _).trans <|
    (sameSize_modifyArea _ _ _).trans <| (sameSize_modifyArea _ _ _).trans <|
    (sameSize_modify _ _ _ _).trans <| (sameSize_modify _ _ _ _).trans <|
    (sameSize_modify _ _ _ _).trans (sameSize_modify _ _ _ _)

theorem sameSize_drawTitle (c : Canvas) (a : Area) (title : Span) :
    SameSize c (c.drawTitle a title) := by
  rw [drawTitle]
  split
  · exact sameSize_putAll ..
  split
  · exact sameSize_putAll ..
  · exact sameSize_putAll ..

theorem sameSize_drawFrame (c : Canvas) (a : Area) (border : Style) (title : Span) :
    SameSize c (c.drawFrame a border title) := by
  rw [drawFrame]
  split
  · exact .refl c
  · exact (sameSize_drawBorder c a border).trans (sameSize_drawTitle _ a title)

/-! ## Rows that can be read -/

/-- The glyphs of a row stand from a place on, as far as they begin within so many columns. -/
def ShowsRow (c : Canvas) (x y room : Nat) (row : List Glyph) : Prop :=
  ∀ k < room, ∀ g, glyphAt? row k = some g →
    ∃ cell, c.cell? (x + k) y = some cell ∧ cell.symbol = g.symbol ∧ cell.width = g.width

/-- Glyphs that are drawn side by side can be read. -/
theorem IsFull.showsRow_putAll (hc : c.IsFull) {room : Nat} (hx : x + room ≤ c.width)
    (hy : y < c.height) (row : List Glyph) : (c.putAll x y row).ShowsRow x y room row := by
  intro k hk g hg
  obtain ⟨cell, hcell⟩ := hc.exists_cell (x := x + k) (by omega) hy
  refine ⟨g.onto cell, ?_, rfl, rfl⟩
  rw [cell?_putAll, if_pos ⟨rfl, Nat.le_add_right x k⟩, Nat.add_sub_cancel_left, hg, hcell]
  rfl

end Canvas
end Screen
end ClusterConsole
