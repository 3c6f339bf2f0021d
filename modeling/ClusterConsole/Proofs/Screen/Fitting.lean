import ClusterConsole.Proofs.Screen.Cells
import ClusterConsole.Proofs.Text.Grapheme

/-!
# Lines that are cut off

A line that is not broken shows those of its glyphs that fit beside each other (`fit`).  A glyph
that is wider than the whole row is left out and does not count; with the others, a part at the
beginning is drawn whole if there are enough columns for it (`fit_append`), whatever follows.

Of every row it is then known what stands in its cells (`cell?_drawLines`).  For that, `rowOnto` is
what becomes of the cell in one column of a row, and `lineRow` is the row of a line, which has no
glyphs if there is no such line.
-/

set_option autoImplicit false

namespace ClusterConsole
namespace Screen

/-! ## Widths -/

/-- The columns that glyphs take beside each other, without those that are wider than the row. -/
def columnsIn (width : Nat) (gs : List Glyph) : Nat :=
  glyphsWidth (gs.filter fun g ↦ g.width ≤ width)

section

variable {width : Nat} (gs rest : List Glyph)

theorem glyphsWidth_nil : glyphsWidth [] = 0 := rfl

theorem glyphsWidth_cons (g : Glyph) : glyphsWidth (g :: gs) = g.width + glyphsWidth gs := rfl

theorem glyphsWidth_append : glyphsWidth (gs ++ rest) = glyphsWidth gs + glyphsWidth rest := by
  induction gs with
  | nil => rw [List.nil_append, glyphsWidth_nil, Nat.zero_add]
  | cons g gs ih => rw [List.cons_append, glyphsWidth_cons, ih, glyphsWidth_cons, Nat.add_assoc]

theorem columnsIn_append : columnsIn width (gs ++ rest) =
    columnsIn width gs + columnsIn width rest := by
  rw [columnsIn, List.filter_append, glyphsWidth_append, columnsIn, columnsIn]

/-- Every glyph counts if none is wider than the row. -/
theorem columnsIn_eq_glyphsWidth {gs : List Glyph} (h : ∀ g ∈ gs, g.width ≤ width) :
    columnsIn width gs = glyphsWidth gs := by
  rw [columnsIn, List.filter_eq_self.2 fun g hg ↦ decide_eq_true (h g hg)]

/-! ## What fits -/

/-- What has enough columns is drawn whole, and the rest after it. -/
theorem fit_append {used : Nat} {gs : List Glyph} (h : used + columnsIn width gs ≤ width) :
    fit width used (gs ++ rest) =
      gs.filter (fun g ↦ g.width ≤ width) ++ fit width (used + columnsIn width gs) rest := by
  induction gs generalizing used with
  | nil => rfl
  | cons g gs ih =>
    rw [List.cons_append, fit]
    rw [columnsIn] at h ⊢
    by_cases hwide : width < g.width
    · rw [List.filter_cons_of_neg (by simpa using hwide)] at h ⊢
      rw [if_pos hwide]
      exact ih h
    · rw [List.filter_cons_of_pos (by simpa using hwide)] at h ⊢
      rw [glyphsWidth_cons, ← Nat.add_assoc] at h ⊢
      rw [if_neg hwide, if_neg (by omega), ih h]
      rfl

theorem glyphAt?_append (k : Nat) : glyphAt? (gs ++ rest) k =
    if k < glyphsWidth gs then glyphAt? gs k else glyphAt? rest (k - glyphsWidth gs) := by
  induction gs generalizing k with
  | nil => rfl
  | cons g gs ih =>
    rw [List.cons_append, glyphAt?, glyphAt?, ih, ih, glyphsWidth_cons]
    by_cases hzero : g.width = 0
    · simp only [hzero, if_true, Nat.zero_add]
    by_cases hfirst : k = 0
    · simp only [if_neg hzero, if_pos hfirst]
      rw [if_pos (by omega)]
    by_cases hinside : k < g.width
    · simp only [if_neg hzero, if_neg hfirst, if_pos hinside]
      rw [if_pos (by omega)]
    · simp only [if_neg hzero, if_neg hfirst, if_neg hinside, Nat.sub_sub,
        Nat.sub_lt_iff_lt_add' (Nat.le_of_not_lt hinside)]

/-- A beginning that has enough columns can be read as if nothing followed. -/
theorem glyphAt?_fit_append {gs : List Glyph} (h : ∀ g ∈ gs, g.width ≤ width)
    (hroom : glyphsWidth gs ≤ width) {k : Nat} (hk : k < glyphsWidth gs) :
    glyphAt? (fit width 0 (gs ++ rest)) k = glyphAt? gs k := by
  have hcolumns := columnsIn_eq_glyphsWidth h
  rw [fit_append rest (by omega), List.filter_eq_self.2 fun g hg ↦ decide_eq_true (h g hg),
    glyphAt?_append, if_pos hk]

/-- The last glyph of a line stands behind the others if there is room for it, and otherwise
nothing does. -/
theorem glyphAt?_fit_concat {gs : List Glyph} {g : Glyph} (hg : 0 < g.width)
    (h : columnsIn width gs < width) : glyphAt? (fit width 0 (gs ++ [g])) (columnsIn width gs) =
      if columnsIn width gs + g.width ≤ width then some g else none := by
  have hlast : fit width (0 + columnsIn width gs) [g] =
      if columnsIn width gs + g.width ≤ width then [g] else [] := by
    rw [fit, fit]
    split
    · rw [if_neg (by omega)]
    · rw [Nat.zero_add]
      split
      · rw [if_neg (by omega)]
      · rw [if_pos (by omega)]
        rfl
  rw [fit_append _ (by omega), hlast, glyphAt?_append, ← columnsIn, if_neg (Nat.lt_irrefl _),
    Nat.sub_self]
  split
  · rw [glyphAt?, if_neg (by omega), if_pos rfl]
  · rfl

end

/-! ## Printable text -/

theorem isControl_of_printable {c : Char} (hc : Text.Printable c) : isControl c = false := by
  obtain ⟨hlow, hhigh⟩ := Text.printable_iff.1 hc
  simp only [isControl, Bool.or_eq_false_iff, Bool.and_eq_false_iff, decide_eq_false_iff_not]
  omega

/-- Printable characters are glyphs of one column. -/
theorem Span.glyphs_of_printable {s : List Char} (hs : ∀ c ∈ s, Text.Printable c) (style : Style) :
    (Span.mk s style).glyphs = s.map fun c ↦ ⟨[c], 1, style⟩ := by
  have hkept : ∀ g ∈ s.map fun c ↦ [c], (!g.any isControl) = true := by
    intro g hg
    obtain ⟨c, hc, rfl⟩ := List.mem_map.1 hg
    rw [List.any_cons, List.any_nil, Bool.or_false, isControl_of_printable (hs c hc)]
    rfl
  rw [Span.glyphs, Text.graphemes_of_printable hs, List.filter_eq_self.2 hkept, List.map_map]
  refine List.map_congr_left fun c hc ↦ ?_
  rw [Function.comp_apply, Text.width_singleton (hs c hc)]

theorem glyphsWidth_map_narrow (s : List Char) (style : Style) :
    glyphsWidth (s.map fun c ↦ ⟨[c], 1, style⟩) = s.length := by
  induction s with
  | nil => rfl
  | cons c rest ih => rw [List.map_cons, glyphsWidth_cons, ih, List.length_cons, Nat.add_comm]

/-- Glyphs of one column each begin in the column that has their number. -/
theorem glyphAt?_of_narrow {gs : List Glyph} (h : ∀ g ∈ gs, g.width = 1) (k : Nat) :
    glyphAt? gs k = gs[k]? := by
  induction gs generalizing k with
  | nil => rfl
  | cons g rest ih =>
    rw [List.forall_mem_cons] at h
    rw [glyphAt?, h.1, if_neg Nat.one_ne_zero]
    cases k with
    | zero => rfl
    | succ k =>
      have hbehind : ¬k + 1 < 1 := Nat.not_lt.2 (Nat.le_add_left 1 k)
      rw [if_neg (Nat.succ_ne_zero k), if_neg hbehind, Nat.add_sub_cancel, ih h.2,
        List.getElem?_cons_succ]

theorem glyphAt?_map_narrow (s : List Char) (style : Style) (k : Nat) :
    glyphAt? (s.map fun c ↦ ⟨[c], 1, style⟩) k = s[k]?.map fun c ↦ ⟨[c], 1, style⟩ := by
  rw [glyphAt?_of_narrow (List.forall_mem_map.2 fun _ _ ↦ rfl), List.getElem?_map]

/-- Of glyphs of one column each, those fit for which there are columns. -/
theorem fit_of_narrow {width used : Nat} {gs : List Glyph} (h : ∀ g ∈ gs, g.width = 1)
    (hwidth : 0 < width) : fit width used gs = gs.take (width - used) := by
  induction gs generalizing used with
  | nil => rw [fit, List.take_nil]
  | cons g rest ih =>
    rw [List.forall_mem_cons] at h
    rw [fit, h.1, if_neg (by omega)]
    split
    · next hfull => rw [Nat.sub_eq_zero_of_le (by omega), List.take_zero]
    · next hroom =>
      have hleft : width - used = width - (used + 1) + 1 := by omega
      rw [ih h.2, hleft, List.take_succ_cons]

/-- Every control character ends a grapheme on both sides. -/
theorem breaks_of_isControl {c : Char} (h : isControl c = true) :
    (Text.GraphemeClass.of c).breaks = true := by
  have hrange : c.toNat < 0x20 ∨ (0x7f ≤ c.toNat ∧ c.toNat ≤ 0x9f) := by
    simpa [isControl] using h
  by_cases hreturn : c.toNat = 0x0d
  · simp [Text.GraphemeClass.of, hreturn, Text.GraphemeClass.breaks]
  by_cases hfeed : c.toNat = 0x0a
  · simp [Text.GraphemeClass.of, hfeed, Text.GraphemeClass.breaks]
  -- the tests before the one for such characters all fail
  have hprintable : ¬(0x20 ≤ c.toNat ∧ c.toNat < 0x7f) := by omega
  have hjoiner : ¬c.toNat = 0x200d := by omega
  have hregional : ¬(0x1f1e6 ≤ c.toNat ∧ c.toNat ≤ 0x1f1ff) := by omega
  have hextending : Text.isExtending c = false := Text.inRanges_of_lt (by omega)
  have htone : ¬(0x1f3fb ≤ c.toNat ∧ c.toNat ≤ 0x1f3ff) := by omega
  have hbreaking : Text.isBreaking c = true := by
    simp only [Text.isBreaking, Text.breakingRanges, Text.inRanges, Bool.and_eq_true,
      Bool.or_eq_true, decide_eq_true_eq]
    omega
  simp only [Text.GraphemeClass.of, beq_iff_eq, hreturn, hfeed, hprintable, hjoiner, hregional,
    hextending, htone, hbreaking, Bool.and_eq_true, Bool.or_eq_true, decide_eq_true_eq, if_false,
    Bool.false_eq_true, or_self, if_true]
  rfl

/-- What one more printable character makes of the glyphs of a text: it is a glyph of its own, or it
completes the last one and makes it wider. -/
theorem Span.glyphs_concat {c : Char} (hc : Text.Printable c) (s : List Char) (style : Style) :
    (Span.mk (s ++ [c]) style).glyphs = (Span.mk s style).glyphs ++ [⟨[c], 1, style⟩] ∨
    ∃ gs g, (Span.mk s style).glyphs = gs ++ [g] ∧
      (Span.mk (s ++ [c]) style).glyphs = gs ++ [⟨g.symbol ++ [c], g.width + 1, style⟩] := by
  have hcontrol := isControl_of_printable hc
  simp only [Span.glyphs]
  generalize hbefore : Text.graphemes s = before
  generalize hafter : Text.graphemes (s ++ [c]) = after
  have hgrown := Text.graphemes_concat hc s
  rw [hbefore, hafter] at hgrown
  cases hgrown with
  | own =>
    refine .inl ?_
    rw [List.filter_append, List.map_append, List.filter_singleton, List.any_cons, hcontrol]
    exact congrArg (fun w ↦ _ ++ [Glyph.mk [c] w style]) (Text.width_singleton hc)
  | joined gs hprepend hbreaks =>
    next g =>
    -- no character of the last grapheme is a control character, so it is drawn
    have hkept : g.any isControl = false := by
      rw [List.any_eq_false]
      intro d hd hcontrol
      have hstands := breaks_of_isControl hcontrol
      rw [hbreaks d hd] at hstands
      cases hstands
    refine .inr ⟨(gs.filter fun g ↦ !g.any isControl).map fun g ↦ ⟨g, Text.width g, style⟩,
      ⟨g, Text.width g, style⟩, ?_, ?_⟩
    · rw [List.filter_append, List.map_append, List.filter_singleton, hkept]
      rfl
    · rw [List.filter_append, List.map_append, List.filter_singleton, List.any_append, hkept,
        List.any_cons, hcontrol, ← Text.width_concat hc]
      rfl

/-! ## Rows of lines -/

/-- A cell after a row is drawn over it, so many columns behind its beginning. -/
def rowOnto (row : List Glyph) (k : Nat) (cell : Cell) : Cell :=
  match glyphAt? row k with
  | some g => g.onto cell
  | none => cell

/-- The row of a line, if there is one. -/
def lineRow (width : Nat) (lines : List Line) (j : Nat) : List Glyph :=
  (lines[j]?.map fun l ↦ fit width 0 l.glyphs).getD []

namespace Canvas

theorem cell?_putAll_add (c : Canvas) (x y : Nat) (row : List Glyph) (k : Nat) :
    (c.putAll x y row).cell? (x + k) y = (c.cell? (x + k) y).map (rowOnto row k) := by
  rw [cell?_putAll, if_pos ⟨rfl, Nat.le_add_right x k⟩, Nat.add_sub_cancel_left]
  cases hglyph : glyphAt? row k with
  | some g =>
    have honto : rowOnto row k = g.onto := funext fun _ ↦ by rw [rowOnto, hglyph]
    rw [honto]
  | none =>
    have honto : rowOnto row k = id := funext fun _ ↦ by rw [rowOnto, hglyph]; rfl
    rw [honto, Option.map_id_fun, id]

/-- **Every row of an area shows the line that has its number, as far as it fits.** -/
theorem cell?_drawLines (c : Canvas) (a : Area) (lines : List Line) {j k : Nat}
    (hj : j < a.height) (hk : k < a.width) :
    (c.drawLines a false lines).cell? (a.x + k) (a.y + j) =
      (c.cell? (a.x + k) (a.y + j)).map (rowOnto (lineRow a.width lines j) k) := by
  have hroom : a.isEmpty = false :=
    Area.isEmpty_eq_false.2 ⟨Nat.zero_lt_of_lt hk, Nat.zero_lt_of_lt hj⟩
  rw [drawLines, hroom, if_neg Bool.false_ne_true, cell?_putRows, if_pos (Nat.le_add_right ..),
    Nat.add_sub_cancel_left, List.getElem?_take_of_lt hj, List.getElem?_map,
    List.getElem?_take_of_lt hj, lineRow]
  cases lines[j]? with
  | some l => exact cell?_putAll_add c a.x (a.y + j) _ k
  | none =>
    have honto : rowOnto [] k = id := rfl
    rw [Option.map_none, Option.getD_none, honto, Option.map_id_fun, id]

end Canvas
end Screen
end ClusterConsole
