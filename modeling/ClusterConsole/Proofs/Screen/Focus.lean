import ClusterConsole.Proofs.Screen.Bounds
import ClusterConsole.Proofs.Screen.Fitting
import ClusterConsole.Proofs.Session.WellFormed

/-!
# Where the focused input can be seen

A form is drawn from its first input on, one row for each, and every row from its first column on.
Nothing is scrolled.  So the row of the input that has the focus is drawn if and only if the form
has that many rows on the screen, and the caret at the end of it if and only if the label, the value
and the caret fit beside each other: a late input of a low screen is typed into blindly, and so is
the end of a value that is long.  `focus_shown` is the main result.

* `cell?_draw_form` says what stands in every cell of the form: nothing that is drawn before is seen
  there, and nothing that is drawn later reaches it.
* An input is told by its label, which takes the first 20 columns and is no other input's
  (`rowShown_iff`).
* The caret is the last glyph of the row.  After a character that belongs to the one behind it, the
  caret is not a glyph of its own, so it is told by the symbol that it ends (`EndsInCaret`).
-/

set_option autoImplicit false

namespace ClusterConsole
namespace Screen

open Canvas

/-! ## The form on the screen -/

/-- The rows between the tabs and the bottom line. -/
def middleArea (w h : Nat) : Area :=
  (Canvas.blank w h).area.rows ((heights h).1 + (heights h).2.1) (heights h).2.2.1

/-- The block of the form. -/
def formArea (w h : Nat) : Area := (middleArea w h).columns 0 (formColumns w)

/-- The block of the status area beside it. -/
def resultArea (w h : Nat) : Area :=
  (middleArea w h).columns (formColumns w) (w - formColumns w)

/-- What is drawn before the form. -/
def drawUpper (w h : Nat) (v : View) : Canvas :=
  let c := Canvas.blank w h
  let c := drawHeader c (c.area.rows 0 (heights h).1) v.base v.requests
  drawTabs c ((Canvas.blank w h).area.rows (heights h).1 (heights h).2.1) v.inFlight v.active

section

variable {w h : Nat} {v : View}

theorem draw_eq (timeOfDay : Instant → String) (hmode : v.mode = .normal) :
    v.draw timeOfDay w h =
      drawFooter
        (drawResult timeOfDay (drawForm (drawUpper w h v) (formArea w h) v.form) (resultArea w h)
          v.status)
        ((Canvas.blank w h).area.rows ((heights h).1 + (heights h).2.1 + (heights h).2.2.1)
          (heights h).2.2.2)
        v.form.hasFields := by
  simp only [View.draw, hmode]
  rfl

theorem heights_le (h : Nat) : (heights h).1 + (heights h).2.1 + (heights h).2.2.1 ≤ h := by
  simp only [heights]
  omega

theorem formColumns_le (w : Nat) : formColumns w ≤ w := by
  simp only [formColumns, percent]
  omega

/-- A place within the block of the form is below the tabs, beside the status area and above the
bottom line. -/
theorem formArea_inner_bounds {j k : Nat} (hj : j < (formArea w h).inner.height)
    (hk : k < (formArea w h).inner.width) :
    (formArea w h).inner.x + k < formColumns w ∧
      (heights h).1 + (heights h).2.1 ≤ (formArea w h).inner.y + j ∧
      (formArea w h).inner.y + j < (heights h).1 + (heights h).2.1 + (heights h).2.2.1 := by
  simp only [formArea, middleArea, Canvas.area, Area.rows, Area.columns, Area.inner] at hj hk ⊢
  omega

theorem cell?_drawUpper {x y : Nat} (hx : x < w) (hy : (heights h).1 + (heights h).2.1 ≤ y)
    (hbottom : y < h) : (drawUpper w h v).cell? x y = some .blank := by
  have habove : ∀ top rows, top + rows ≤ y →
      ¬Area.Strip ((Canvas.blank w h).area.rows top rows) x y := by
    intro top rows hrows hstrip
    simp only [Area.Strip, Area.rows, Canvas.area] at hstrip
    omega
  rw [drawUpper, (changesOnly_drawTabs _ _ _ _).cell?_eq (habove _ _ hy),
    (changesOnly_drawHeader _ _ _ _).cell?_eq (habove _ _ (by omega)), cell?_blank hx hbottom]

theorem cell?_drawForm {c : Canvas} {a : Area} {f : Form} (hfields : f.hasFields = true) {j k : Nat}
    (hj : j < a.inner.height) (hk : k < a.inner.width) :
    (drawForm c a f).cell? (a.inner.x + k) (a.inner.y + j) =
      (c.cell? (a.inner.x + k) (a.inner.y + j)).map
        (rowOnto (lineRow a.inner.width (inputLines f) j) k) := by
  have hinner : a.inner.Has (a.inner.x + k) (a.inner.y + j) :=
    ⟨Nat.le_add_right .., Nat.add_lt_add_left hk _, Nat.le_add_right .., Nat.add_lt_add_left hj _⟩
  rw [drawForm, if_pos hfields, cell?_drawLines _ _ _ hj hk,
    (changesOnly_drawFrame c a _ _).cell?_eq fun h ↦ h.2 hinner]

/-- **Every row of the form shows the input that has its number, as far as it fits, and nothing
else.** -/
theorem cell?_draw_form (timeOfDay : Instant → String) (hmode : v.mode = .normal)
    (hfields : v.form.hasFields = true) {j k : Nat} (hj : j < (formArea w h).inner.height)
    (hk : k < (formArea w h).inner.width) :
    (v.draw timeOfDay w h).cell? ((formArea w h).inner.x + k) ((formArea w h).inner.y + j) =
      some (rowOnto (lineRow (formArea w h).inner.width (inputLines v.form) j) k .blank) := by
  obtain ⟨hcolumn, htop, hbottom⟩ := formArea_inner_bounds hj hk
  have hrows := heights_le h
  have hcolumns := formColumns_le w
  have hform := cell?_drawForm (c := drawUpper w h v) hfields hj hk
  rw [cell?_drawUpper (by omega) htop (by omega), Option.map_some] at hform
  have hbeside : ¬(resultArea w h).Strip ((formArea w h).inner.x + k)
      ((formArea w h).inner.y + j) := by
    intro hstrip
    simp only [Area.Strip, resultArea, middleArea, Area.columns, Area.rows, Canvas.area] at hstrip
    omega
  have hbelow : ¬((Canvas.blank w h).area.rows ((heights h).1 + (heights h).2.1 +
      (heights h).2.2.1) (heights h).2.2.2).Strip ((formArea w h).inner.x + k)
      ((formArea w h).inner.y + j) := by
    intro hstrip
    simp only [Area.Strip, Area.rows, Canvas.area] at hstrip
    omega
  rw [draw_eq timeOfDay hmode, (changesOnly_drawFooter _ _ _).cell?_eq hbelow,
    (changesOnly_drawResult _ _ _ _).cell?_eq hbeside, hform]

end

/-! ## Labels -/

/-- What an input is told by: a text of so many columns that can be seen. -/
structure HasLabel (i : Input) : Prop where
  printable : ∀ c ∈ (labelText i).toList, Text.Printable c
  length_eq : (labelText i).toList.length = 20
  exists_ne : ∃ c ∈ (labelText i).toList, c ≠ ' '

theorem hasLabel_of_mem {o : Operation} {i : Input} (hi : i ∈ o.inputs) : HasLabel i := by
  have hall : ∀ o : Operation, o.inputs.all (fun i ↦
      (labelText i).toList.all (fun c ↦ Text.Printable c) && (labelText i).toList.length == 20 &&
        (labelText i).toList.any fun c ↦ c != ' ') = true := by
    intro o
    cases o <;> decide +kernel
  have hlabel := List.all_eq_true.1 (hall o) i hi
  simp only [Bool.and_eq_true, beq_iff_eq, List.all_eq_true, List.any_eq_true, bne_iff_ne,
    decide_eq_true_eq] at hlabel
  exact ⟨hlabel.1.1, hlabel.1.2, hlabel.2⟩

/-- No two inputs of an operation have the same label. -/
theorem nodup_labelTexts (o : Operation) : (o.inputs.map labelText).Nodup := by
  cases o <;> decide +kernel

theorem glyphs_inputLine (x : Field) (focused : Bool) : (inputLine x focused).glyphs =
    (Span.styled (labelText x.input) (labelStyle focused)).glyphs ++
      (valueOf x focused).glyphs := by
  rw [inputLine, Line.glyphs, List.flatMap_cons, List.flatMap_cons, List.flatMap_nil,
    List.append_nil]

section

variable {x : Field} (hx : HasLabel x.input) (focused : Bool)

include hx

theorem HasLabel.glyphs_eq : (Span.styled (labelText x.input) (labelStyle focused)).glyphs =
    (labelText x.input).toList.map fun c ↦ ⟨[c], 1, labelStyle focused⟩ :=
  Span.glyphs_of_printable hx.printable _

theorem HasLabel.glyphsWidth_eq :
    glyphsWidth (Span.styled (labelText x.input) (labelStyle focused)).glyphs = 20 := by
  rw [hx.glyphs_eq, glyphsWidth_map_narrow, hx.length_eq]

theorem HasLabel.width_eq {g : Glyph}
    (hg : g ∈ (Span.styled (labelText x.input) (labelStyle focused)).glyphs) : g.width = 1 := by
  rw [hx.glyphs_eq] at hg
  obtain ⟨c, -, rfl⟩ := List.mem_map.1 hg
  rfl

/-- In the first twenty columns the label can be read, whatever follows. -/
theorem HasLabel.glyphAt?_row {width : Nat} (hwidth : 20 ≤ width) {k : Nat} (hk : k < 20) :
    glyphAt? (fit width 0 (inputLine x focused).glyphs) k =
      (labelText x.input).toList[k]?.map fun c ↦ ⟨[c], 1, labelStyle focused⟩ := by
  have hcolumns := hx.glyphsWidth_eq focused
  rw [glyphs_inputLine, glyphAt?_fit_append _ (fun g hg ↦ by rw [hx.width_eq focused hg]; omega)
    (by omega) (by omega), hx.glyphs_eq, glyphAt?_map_narrow]

end

/-! ## The row of the focused input -/

/-- Every cell of an area shows what the form has there. -/
def ShowsForm (c : Canvas) (a : Area) (f : Form) : Prop :=
  ∀ j < a.height, ∀ k < a.width, c.cell? (a.x + k) (a.y + j) =
    some (rowOnto (lineRow a.width (inputLines f) j) k .blank)

/-- An input that has the focus can be read in a row of an area, as far as it fits. -/
def ShowsInput (c : Canvas) (a : Area) (x : Field) (j : Nat) : Prop :=
  c.ShowsRow a.x (a.y + j) a.width (fit a.width 0 (inputLine x true).glyphs)

/-- An input that has the focus can be read in some row of an area. -/
def RowShown (c : Canvas) (a : Area) (x : Field) : Prop := ∃ j < a.height, ShowsInput c a x j

theorem lineRow_inputLines (width : Nat) (f : Form) (j : Nat) : lineRow width (inputLines f) j =
    ((f.fields[j]?).map fun y ↦ fit width 0 (inputLine y (j == f.focus)).glyphs).getD [] := by
  rw [lineRow, inputLines, List.getElem?_mapIdx, Option.map_map]
  rfl

section

variable {c : Canvas} {a : Area} {f : Form} {o : Operation} {x : Field}
  (hc : ShowsForm c a f) (hf : f.WellFormed o) (hx : f.fields[f.focus]? = some x)

include hf in
theorem hasLabel_of_getElem? {i : Nat} {y : Field} (hy : f.fields[i]? = some y) :
    HasLabel y.input := by
  refine hasLabel_of_mem (o := o) ?_
  rw [← hf.inputs_eq]
  exact List.mem_map_of_mem (List.mem_of_getElem? hy)

include hf in
/-- An input is told by its label. -/
theorem index_eq_of_labelText {i j : Nat} {y z : Field} (hy : f.fields[i]? = some y)
    (hz : f.fields[j]? = some z) (h : labelText y.input = labelText z.input) : i = j := by
  have hlabels : (f.fields.map fun y ↦ labelText y.input).Nodup := by
    have hnodup := nodup_labelTexts o
    rwa [← hf.inputs_eq, Form.inputs, List.map_map] at hnodup
  have hi : (f.fields.map fun y ↦ labelText y.input)[i]? = some (labelText y.input) := by
    rw [List.getElem?_map, hy, Option.map_some]
  have hj : (f.fields.map fun y ↦ labelText y.input)[j]? = some (labelText y.input) := by
    rw [List.getElem?_map, hz, Option.map_some, h]
  exact (List.getElem?_inj (List.getElem?_eq_some_iff.1 hi).1 hlabels).1 (hi.trans hj.symm)

include hc hx in
/-- The row of the focused input is drawn where it belongs. -/
theorem showsInput_focus (hrow : f.focus < a.height) : ShowsInput c a x f.focus := by
  intro k hk g hg
  refine ⟨_, hc _ hrow k hk, ?_⟩
  rw [lineRow_inputLines, hx, Option.map_some, Option.getD_some, beq_self_eq_true, rowOnto, hg]
  exact ⟨rfl, rfl⟩

include hc hf hx in
/-- The row of the focused input is drawn nowhere else, as any other row has another label. -/
theorem eq_focus_of_showsInput (hwidth : 20 ≤ a.width) {j : Nat} (hj : j < a.height)
    (h : ShowsInput c a x j) : j = f.focus := by
  have hlabel := hasLabel_of_getElem? hf hx
  -- the first columns of the row show the label of the focused input
  have hshown : ∀ k < 20, ∀ d, (labelText x.input).toList[k]? = some d →
      (rowOnto (lineRow a.width (inputLines f) j) k .blank).symbol = [d] := by
    intro k hk d hd
    have hglyph := hlabel.glyphAt?_row true hwidth hk
    rw [hd, Option.map_some] at hglyph
    obtain ⟨cell, hcell, hsymbol, -⟩ := h k (by omega) _ hglyph
    rw [hc j hj k (by omega), Option.some_inj] at hcell
    rw [hcell, hsymbol]
  have hlength := hlabel.length_eq
  cases hy : f.fields[j]? with
  | none =>
    -- there is no such input, so the row is blank
    obtain ⟨d, hd, hne⟩ := hlabel.exists_ne
    obtain ⟨k, hk, rfl⟩ := List.mem_iff_getElem.1 hd
    have hblank := hshown k (by omega) _ (List.getElem?_eq_getElem hk)
    rw [lineRow_inputLines, hy] at hblank
    exact absurd (List.singleton_inj.1 hblank).symm hne
  | some y =>
    have hlabel' := hasLabel_of_getElem? hf hy
    refine index_eq_of_labelText hf hy hx (String.toList_injective (List.ext_getElem ?_ ?_))
    · rw [hlength, hlabel'.length_eq]
    · intro k hk hk'
      have hsymbol := hshown k (by omega) _ (List.getElem?_eq_getElem hk')
      rw [lineRow_inputLines, hy, Option.map_some, Option.getD_some, rowOnto,
        hlabel'.glyphAt?_row _ hwidth (by omega), List.getElem?_eq_getElem hk] at hsymbol
      exact List.singleton_inj.1 hsymbol

include hc hf hx in
theorem rowShown_iff (hwidth : 20 ≤ a.width) : RowShown c a x ↔ f.focus < a.height := by
  constructor
  · rintro ⟨j, hj, h⟩
    exact eq_focus_of_showsInput hc hf hx hwidth hj h ▸ hj
  · exact fun hrow ↦ ⟨f.focus, hrow, showsInput_focus hc hx hrow⟩

end

/-! ## The caret -/

/-- The row of an input that has the focus ends with its caret.  The caret is the last character of
the last glyph, and mostly the only one. -/
structure EndsInCaret (x : Field) (before : List Glyph) (caret : Glyph) : Prop where
  glyphs_eq : (inputLine x true).glyphs = before ++ [caret]
  symbol_eq : caret.symbol.getLast? = some '_'
  width_pos : 0 < caret.width

/-- The value of an input as it is drawn, without the caret. -/
def valueGlyphs (x : Field) : List Glyph := (Span.mk x.value.toList (.of .white)).glyphs

/-- The caret of an input that has the focus can be seen: it stands in the row of the input, behind
everything that the row has before it. -/
def CaretShown (c : Canvas) (a : Area) (x : Field) : Prop :=
  ∃ j < a.height, ShowsInput c a x j ∧ ∃ before caret, EndsInCaret x before caret ∧
    columnsIn a.width before < a.width ∧
    ∃ cell, c.cell? (a.x + columnsIn a.width before) (a.y + j) = some cell ∧
      cell.symbol = caret.symbol ∧ cell.width = caret.width

theorem EndsInCaret.unique {x : Field} {before before' : List Glyph} {caret caret' : Glyph}
    (h : EndsInCaret x before caret) (h' : EndsInCaret x before' caret') :
    before' = before ∧ caret' = caret := by
  obtain ⟨hbefore, hcaret⟩ := List.append_inj' (h'.glyphs_eq.symm.trans h.glyphs_eq) rfl
  exact ⟨hbefore, List.singleton_inj.1 hcaret⟩

/-- Every focused row ends with a caret.  What it takes up is the label, the value and one column
more, if no glyph of the value is as wide as the row. -/
theorem HasLabel.exists_caret {x : Field} (hx : HasLabel x.input) :
    ∃ before caret, EndsInCaret x before caret ∧
      ∀ width, 0 < width → (∀ g ∈ valueGlyphs x, g.width < width) →
        columnsIn width before + caret.width = 21 + glyphsWidth (valueGlyphs x) := by
  have hcaret : Text.Printable '_' := by decide
  have hvalue : (valueOf x true).glyphs =
      (Span.mk (x.value.toList ++ ['_']) (.of .white)).glyphs := by
    rw [valueOf, if_pos rfl, Span.styled, String.toList_append]
    rfl
  have hline := glyphs_inputLine x true
  have hlabel : ∀ {width}, 0 < width →
      ∀ g ∈ (Span.styled (labelText x.input) (labelStyle true)).glyphs, g.width ≤ width :=
    fun hpos g hg ↦ by rwa [hx.width_eq true hg]
  have hcolumns := hx.glyphsWidth_eq true
  rw [hvalue] at hline
  rcases Span.glyphs_concat hcaret x.value.toList (.of .white) with hown | ⟨gs, g, hgs, hjoined⟩
  · rw [hown, ← List.append_assoc] at hline
    refine ⟨_, _, ⟨hline, rfl, Nat.one_pos⟩, fun width hpos hnarrow ↦ ?_⟩
    rw [columnsIn_append, columnsIn_eq_glyphsWidth (hlabel hpos), hcolumns,
      ← valueGlyphs, columnsIn_eq_glyphsWidth fun g hg ↦ (hnarrow g hg).le]
    show 20 + glyphsWidth (valueGlyphs x) + 1 = _
    omega
  · rw [hjoined, ← List.append_assoc] at hline
    refine ⟨_, _, ⟨hline, List.getLast?_concat, Nat.succ_pos _⟩, fun width hpos hnarrow ↦ ?_⟩
    rw [show valueGlyphs x = gs ++ [g] from hgs] at hnarrow ⊢
    rw [columnsIn_append, columnsIn_eq_glyphsWidth (hlabel hpos), hcolumns,
      columnsIn_eq_glyphsWidth fun g hg ↦ (hnarrow g (List.mem_append_left _ hg)).le,
      glyphsWidth_append, glyphsWidth_cons, glyphsWidth_nil]
    show 20 + glyphsWidth gs + (g.width + 1) = _
    omega

section

variable {c : Canvas} {a : Area} {f : Form} {o : Operation} {x : Field} {before : List Glyph}
  {caret : Glyph} (hc : ShowsForm c a f) (hf : f.WellFormed o)
  (hx : f.fields[f.focus]? = some x) (hcaret : EndsInCaret x before caret)

include hc hx hcaret in
/-- Behind the rest of the row stands the caret if there is room for it, and otherwise nothing. -/
theorem cell?_caret (hrow : f.focus < a.height) (hroom : columnsIn a.width before < a.width) :
    c.cell? (a.x + columnsIn a.width before) (a.y + f.focus) =
      some (if columnsIn a.width before + caret.width ≤ a.width then caret.onto .blank
        else .blank) := by
  rw [hc _ hrow _ hroom, lineRow_inputLines, hx, Option.map_some, Option.getD_some,
    beq_self_eq_true, hcaret.glyphs_eq, rowOnto, glyphAt?_fit_concat hcaret.width_pos hroom]
  by_cases hfits : columnsIn a.width before + caret.width ≤ a.width
  · simp only [if_pos hfits]
  · simp only [if_neg hfits]

include hc hf hx hcaret in
theorem caretShown_iff (hwidth : 20 ≤ a.width) : CaretShown c a x ↔
    f.focus < a.height ∧ columnsIn a.width before + caret.width ≤ a.width := by
  have hpos := hcaret.width_pos
  constructor
  · rintro ⟨j, hj, hrow, before', caret', hcaret', hroom, cell, hcell, hsymbol, -⟩
    obtain ⟨rfl, rfl⟩ := hcaret.unique hcaret'
    obtain rfl := eq_focus_of_showsInput hc hf hx hwidth hj hrow
    refine ⟨hj, ?_⟩
    by_contra hfits
    -- an empty cell does not end in a caret
    rw [cell?_caret hc hx hcaret hj hroom, if_neg hfits, Option.some_inj] at hcell
    have hlast := hcaret.symbol_eq
    rw [← hsymbol, ← hcell] at hlast
    cases hlast
  · rintro ⟨hrow, hfits⟩
    have hroom : columnsIn a.width before < a.width := by omega
    refine ⟨f.focus, hrow, showsInput_focus hc hx hrow, before, caret, hcaret, hroom,
      caret.onto .blank, ?_, rfl, rfl⟩
    rw [cell?_caret hc hx hcaret hrow hroom, if_pos hfits]

end

/-! ## The result -/

/-- What can be seen of the focused input `x` of a form, in the area within its frame. -/
structure FocusShown (c : Canvas) (a : Area) (f : Form) (x : Field) : Prop where
  /-- Every row shows the input that has its number, from its first column on. -/
  cells : ShowsForm c a f
  /-- The focused input is drawn if that many rows are there. -/
  row_iff : RowShown c a x ↔ f.focus < a.height
  /-- No other row can be taken for its row. -/
  row_eq : ∀ j < a.height, ShowsInput c a x j ↔ j = f.focus
  /-- The row ends with a caret, which can be seen if everything before it leaves room for it. -/
  caret : ∃ before caret, EndsInCaret x before caret ∧
    (CaretShown c a x ↔
      f.focus < a.height ∧ columnsIn a.width before + caret.width ≤ a.width)
  /-- What has to fit is the label, the value and one column for the caret, if no glyph of the value
  is as wide as the row. -/
  caret_iff : (∀ g ∈ valueGlyphs x, g.width < a.width) →
    (CaretShown c a x ↔ f.focus < a.height ∧ 21 + glyphsWidth (valueGlyphs x) ≤ a.width)

section

variable {api : Api} {delay : Duration} {s : Session}

theorem showsForm_draw (timeOfDay : Instant → String) (w h : Nat) (hmode : s.mode = .normal)
    (hfields : s.activePane.form.hasFields = true) :
    ShowsForm (draw timeOfDay w h s) (formArea w h).inner s.activePane.form := fun _ hj _ hk ↦
  cell?_draw_form (v := View.of s) timeOfDay hmode hfields hj hk

/-- **In every state, the focused input is on the screen if and only if the form has enough rows,
and its caret if and only if the row has enough columns.** -/
theorem focus_shown (hs : Session.Reachable api delay s) (hmode : s.mode = .normal)
    (hfields : s.activePane.form.hasFields = true) (timeOfDay : Instant → String) (w h : Nat)
    (hwidth : 20 < (formArea w h).inner.width) :
    ∃ x, s.activePane.form.fields[s.activePane.form.focus]? = some x ∧
      FocusShown (draw timeOfDay w h s) (formArea w h).inner s.activePane.form x := by
  have hform := hs.form_wellFormed s.active
  have hcells := showsForm_draw timeOfDay w h hmode hfields
  obtain ⟨x, hx⟩ := hform.exists_focused hfields
  obtain ⟨before, caret, hcaret, hcolumns⟩ := (hasLabel_of_getElem? hform hx).exists_caret
  have hiff := caretShown_iff hcells hform hx hcaret hwidth.le
  refine ⟨x, hx, hcells, rowShown_iff hcells hform hx hwidth.le, fun j hj ↦ ⟨?_, ?_⟩,
    ⟨before, caret, hcaret, hiff⟩, fun hnarrow ↦ ?_⟩
  · exact eq_focus_of_showsInput hcells hform hx hwidth.le hj
  · rintro rfl
    exact showsInput_focus hcells hx hj
  · rwa [hcolumns _ (by omega) hnarrow] at hiff

end

/-- A value of printable characters takes as many columns as it has characters. -/
theorem valueGlyphs_of_printable {x : Field}
    (hx : (x.value.toList.all fun c ↦ Text.Printable c) = true) :
    valueGlyphs x = x.value.toList.map fun c ↦ ⟨[c], 1, .of .white⟩ :=
  Span.glyphs_of_printable (fun c hc ↦ of_decide_eq_true (List.all_eq_true.1 hx c hc)) _

/-- The last of the fifteen inputs, with one letter in it. -/
theorem focus_shown_lastInput : ∃ s : Session,
    Session.Reachable ⟨"http://api.test"⟩ (Duration.ofSeconds 5) s ∧ s.mode = .normal ∧
      s.activePane.form.hasFields = true ∧ 20 < (formArea 80 24).inner.width ∧
      s.activePane.form.focus = 14 ∧ s.activePane.form.value .gitlabUrl = "g" ∧
      ∃ x, s.activePane.form.fields[14]? = some x ∧
        RowShown (draw (fun _ ↦ "12:34:56") 80 24 s) (formArea 80 24).inner x ∧
        CaretShown (draw (fun _ ↦ "12:34:56") 80 24 s) (formArea 80 24).inner x := by
  have hstart : Session.Reachable ⟨"http://api.test"⟩ (Duration.ofSeconds 5) _ := .start
  have hlast := hstart.step (e := .edit .create .focusPrevious) nofun rfl
  have htyped := hlast.step (e := .edit .create (.insert 'g')) nofun rfl
  have hwidth : 20 < (formArea 80 24).inner.width := by decide
  obtain ⟨x, hx, hshown⟩ := focus_shown htyped rfl rfl (fun _ ↦ "12:34:56") 80 24 hwidth
  obtain rfl : Field.mk (.optional .gitlabUrl "Gitlab URL" "optional") "g" = x :=
    Option.some_inj.1 (Eq.trans rfl hx)
  have hvalue := valueGlyphs_of_printable (x := ⟨.optional .gitlabUrl "Gitlab URL" "optional", "g"⟩)
    (by decide)
  refine ⟨_, htyped, rfl, rfl, hwidth, rfl, rfl, _, hx, hshown.row_iff.2 (by decide),
    (hshown.caret_iff ?_).2 ⟨by decide, ?_⟩⟩
  · rw [hvalue]
    decide
  · rw [hvalue]
    decide

/-- On a screen of nine rows and sixty columns, the form has one row of 25 columns.  The second
input has no place there, and neither has the caret behind a value of five characters. -/
theorem focus_out_of_sight : (formArea 60 9).inner = ⟨1, 6, 25, 1⟩ ∧
    (∃ s : Session, Session.Reachable ⟨"http://api.test"⟩ (Duration.ofSeconds 5) s ∧
      s.mode = .normal ∧ s.activePane.form.hasFields = true ∧
      ∃ x, s.activePane.form.fields[s.activePane.form.focus]? = some x ∧
        ¬RowShown (draw (fun _ ↦ "12:34:56") 60 9 s) (formArea 60 9).inner x) ∧
    ∃ s : Session, Session.Reachable ⟨"http://api.test"⟩ (Duration.ofSeconds 5) s ∧
      s.mode = .normal ∧ s.activePane.form.hasFields = true ∧
      ∃ x, s.activePane.form.fields[s.activePane.form.focus]? = some x ∧ x.value = "abcde" ∧
        RowShown (draw (fun _ ↦ "12:34:56") 60 9 s) (formArea 60 9).inner x ∧
        ¬CaretShown (draw (fun _ ↦ "12:34:56") 60 9 s) (formArea 60 9).inner x := by
  have hstart : Session.Reachable ⟨"http://api.test"⟩ (Duration.ofSeconds 5) _ := .start
  refine ⟨rfl, ?_, ?_⟩
  · have hscale := hstart.step (e := .choose .scale) nofun rfl
    obtain ⟨s, hs, hmode, hform⟩ : ∃ s : Session, Session.Reachable _ _ s ∧
        s.mode = .normal ∧ s.activePane.form = (Form.blank .scale).focusNext :=
      ⟨_, hscale.step (e := .edit .scale .focusNext) nofun rfl, rfl, rfl⟩
    have hfields : s.activePane.form.hasFields = true := by rw [hform]; rfl
    have hx : s.activePane.form.fields[s.activePane.form.focus]? =
        some ⟨.needed .replicas "Replicas", ""⟩ := by rw [hform]; rfl
    refine ⟨s, hs, hmode, hfields, _, hx, fun hshown ↦ ?_⟩
    have hrow := (rowShown_iff (showsForm_draw _ 60 9 hmode hfields) (hs.form_wellFormed s.active)
      hx (by decide)).1 hshown
    rw [hform] at hrow
    exact absurd hrow (by decide)
  · have hdelete := hstart.step (e := .choose .delete) nofun rfl
    obtain ⟨s, hs, hmode, hform⟩ : ∃ s : Session, Session.Reachable _ _ s ∧
        s.mode = .normal ∧ s.activePane.form = (Form.blank .delete).set .ns "abcde" :=
      ⟨_, hdelete.step (e := .edit .delete (.set .ns "abcde")) nofun rfl, rfl, rfl⟩
    have hfields : s.activePane.form.hasFields = true := by rw [hform]; rfl
    have hx : s.activePane.form.fields[s.activePane.form.focus]? =
        some ⟨.needed .ns "Namespace", "abcde"⟩ := by rw [hform]; rfl
    have hcells := showsForm_draw (fun _ ↦ "12:34:56") 60 9 hmode hfields
    have hwell := hs.form_wellFormed s.active
    refine ⟨s, hs, hmode, hfields, _, hx, rfl,
      (rowShown_iff hcells hwell hx (by decide)).2 (by rw [hform]; decide), fun hshown ↦ ?_⟩
    have hvalue := valueGlyphs_of_printable (x := ⟨.needed .ns "Namespace", "abcde"⟩) (by decide)
    obtain ⟨before, caret, hcaret, hcolumns⟩ := (hasLabel_of_getElem? hwell hx).exists_caret
    have hroom := ((caretShown_iff hcells hwell hx hcaret (by decide)).1 hshown).2
    rw [hcolumns _ (by decide) (by rw [hvalue]; decide), hvalue] at hroom
    exact absurd hroom (by decide)

end Screen
end ClusterConsole
