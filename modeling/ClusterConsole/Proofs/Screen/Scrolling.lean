import ClusterConsole.Proofs.Screen.Cells
import ClusterConsole.Screen.Result

/-!
# How far a result can be scrolled

A result is drawn as rows: those of the message, an empty one, and those of the details, all of them
broken at the right edge of the area.  Scrolling leaves out rows at the top.  How far it goes is
counted in lines of the details, though, before any of them is broken, and neither the message nor
the height of the area counts.  With `n` lines of details and `h` rows in the area, the rows that
can be brought onto the screen are the first `n - 1 + h` (`result_scrolls`), so whatever is broken
into many rows, or has an area of one or two rows, has an end that no one gets to see.

The screen rows are taken one at a time (`cell?_drawResult`): each of them depends on one row of the
result only, which one being decided by the scroll amount alone.  What is left is to count the
amounts that can be reached (`StatusArea.scrolled_iff`).
-/

set_option autoImplicit false

namespace ClusterConsole

/-! ## Scroll amounts -/

/-- What becomes of an area that is scrolled from the top on, down and up. -/
inductive StatusArea.Scrolled (s : StatusArea) : StatusArea → Prop
  | top : Scrolled s { s with scroll := 0 }
  | down {t : StatusArea} (h : Scrolled s t) {n : Nat} (hn : n ≤ maxScroll) :
    Scrolled s (t.scrollDown n)
  | up {t : StatusArea} (h : Scrolled s t) {n : Nat} (hn : n ≤ maxScroll) :
    Scrolled s (t.scrollUp n)

/-- **Scrolling reaches every amount below the number of lines of the details, and no other.** -/
theorem StatusArea.scrolled_iff {s t : StatusArea} :
    s.Scrolled t ↔ ∃ k ≤ s.detailLines - 1, t = { s with scroll := k } := by
  constructor
  · intro h
    induction h with
    | top => exact ⟨0, Nat.zero_le _, rfl⟩
    | down _ _ ih =>
      obtain ⟨k, -, rfl⟩ := ih
      exact ⟨_, Nat.min_le_right .., rfl⟩
    | up _ _ ih =>
      obtain ⟨k, hk, rfl⟩ := ih
      exact ⟨_, Nat.le_trans (Nat.sub_le ..) hk, rfl⟩
  · rintro ⟨k, hk, rfl⟩
    have hlines : s.detailLines ≤ maxScroll := by
      rw [detailLines]
      split
      · exact Nat.min_le_right ..
      · exact Nat.zero_le _
    -- one step down goes as far as that
    have hscroll : min (min (0 + k) maxScroll) (s.detailLines - 1) = k := by omega
    have hdown : StatusArea.scrollDown { s with scroll := 0 } k = { s with scroll := k } :=
      congrArg (fun k ↦ { s with scroll := k }) hscroll
    exact hdown ▸ Scrolled.top.down (by omega)

namespace Screen

/-! ## The rows that are drawn -/

/-- The area lies on the canvas. -/
structure Area.FitsIn (a : Area) (c : Canvas) : Prop where
  right_le : a.x + a.width ≤ c.width
  bottom_le : a.y + a.height ≤ c.height

/-- The rows of a result in an area with a frame. -/
def resultRows (a : Area) (s : StatusArea) : List (List Glyph) :=
  Canvas.wrappedRows a.inner.width (resultLines s)

/-- A row of a result is drawn: it is one of those that follow the rows left out at the top, and can
be read in the row of the area that is its own. -/
def RowDrawn (timeOfDay : Instant → String) (c : Canvas) (a : Area) (s : StatusArea) (i : Nat) :
    Prop :=
  ∃ j < a.inner.height, i = s.scroll + j ∧ ∃ row, (resultRows a s)[i]? = some row ∧
    (drawResult timeOfDay c a s).ShowsRow a.inner.x (a.inner.y + j) a.inner.width row

section Draw

variable {timeOfDay : Instant → String} {c : Canvas} {a : Area} {s : StatusArea}

theorem Area.inner_fitsIn (h : a.FitsIn c) : a.inner.FitsIn c := by
  obtain ⟨hright, hbottom⟩ := h
  refine ⟨?_, ?_⟩ <;> simp only [inner] <;> omega

/-- The frame of a result on the canvas. -/
def drawResultFrame (timeOfDay : Instant → String) (c : Canvas) (a : Area) (s : StatusArea) :
    Canvas :=
  c.drawFrame a (resultFrameStyle s) (.styled (resultTitle timeOfDay s) (.of .cyan))

/-- Each screen row of the area shows the row of the result that is its own after those left out at
the top, and nothing else is drawn there after the frame. -/
theorem cell?_drawResult (hvisible : s.visible = true) (hroom : a.inner.isEmpty = false) {j : Nat}
    (hj : j < a.inner.height) (x : Nat) :
    (drawResult timeOfDay c a s).cell? x (a.inner.y + j) =
      match (resultRows a s)[s.scroll + j]? with
      | some row =>
        ((drawResultFrame timeOfDay c a s).putAll a.inner.x (a.inner.y + j) row).cell? x
          (a.inner.y + j)
      | none => (drawResultFrame timeOfDay c a s).cell? x (a.inner.y + j) := by
  have hindex : (((resultRows a s).drop s.scroll).take a.inner.height)[j]? =
      (resultRows a s)[s.scroll + j]? := by
    rw [List.getElem?_take_of_lt hj, List.getElem?_drop]
  rw [drawResult, if_pos hvisible, Canvas.drawWrapped, if_neg (by simp [hroom]),
    Canvas.cell?_putRows, if_pos (Nat.le_add_right ..), Nat.add_sub_cancel_left, ← hindex]
  rfl

theorem showsRow_drawResult (hc : c.IsFull) (ha : a.FitsIn c) (hvisible : s.visible = true)
    (hroom : a.inner.isEmpty = false) {j : Nat} (hj : j < a.inner.height) {row : List Glyph}
    (hrow : (resultRows a s)[s.scroll + j]? = some row) :
    (drawResult timeOfDay c a s).ShowsRow a.inner.x (a.inner.y + j) a.inner.width row := by
  have hsize : Canvas.SameSize c (drawResultFrame timeOfDay c a s) :=
    Canvas.sameSize_drawFrame ..
  have hfits := Area.inner_fitsIn ha
  have hright : a.inner.x + a.inner.width ≤ (drawResultFrame timeOfDay c a s).width :=
    hsize.width_eq ▸ hfits.right_le
  have hbottom : a.inner.y + j < (drawResultFrame timeOfDay c a s).height :=
    hsize.height_eq ▸ Nat.lt_of_lt_of_le (Nat.add_lt_add_left hj _) hfits.bottom_le
  intro k hk g hg
  rw [cell?_drawResult hvisible hroom hj, hrow]
  exact (hsize.isFull hc).showsRow_putAll hright hbottom row k hk g hg

/-- Of the rows that are not left out, those for which the area has room are drawn. -/
theorem rowDrawn_add (hc : c.IsFull) (ha : a.FitsIn c) (hvisible : s.visible = true)
    (hroom : a.inner.isEmpty = false) {j : Nat} (hj : j < a.inner.height)
    (hlt : s.scroll + j < (resultRows a s).length) :
    RowDrawn timeOfDay c a s (s.scroll + j) := by
  have hrow := List.getElem?_eq_getElem hlt
  exact ⟨j, hj, rfl, _, hrow, showsRow_drawResult hc ha hvisible hroom hj hrow⟩

/-! ## The reach of scrolling -/

/-- How much of a result can be brought onto the screen. -/
structure ScrollReach (timeOfDay : Instant → String) (c : Canvas) (a : Area) (s : StatusArea) :
    Prop where
  /-- Wherever it is scrolled to, the area shows the rows after those left out, one in each of its
  own rows, and no other. -/
  cells : ∀ t, s.Scrolled t → ∀ j < a.inner.height, ∀ x,
    (drawResult timeOfDay c a t).cell? x (a.inner.y + j) =
      match (resultRows a s)[t.scroll + j]? with
      | some row =>
        ((drawResultFrame timeOfDay c a s).putAll a.inner.x (a.inner.y + j) row).cell? x
          (a.inner.y + j)
      | none => (drawResultFrame timeOfDay c a s).cell? x (a.inner.y + j)
  /-- A row can be scrolled to just if it is one of the first ones: as many as the area has rows,
  and one less than there are lines of details. -/
  row_iff : ∀ i < (resultRows a s).length, (∃ t, s.Scrolled t ∧ RowDrawn timeOfDay c a t i) ↔
    i < s.detailLines - 1 + a.inner.height
  /-- So all of them can, if there are no more. -/
  all_iff : (∀ i < (resultRows a s).length, ∃ t, s.Scrolled t ∧ RowDrawn timeOfDay c a t i) ↔
    (resultRows a s).length ≤ s.detailLines - 1 + a.inner.height

theorem exists_rowDrawn_iff (hc : c.IsFull) (ha : a.FitsIn c) (hvisible : s.visible = true)
    (hroom : a.inner.isEmpty = false) {i : Nat} (hi : i < (resultRows a s).length) :
    (∃ t, s.Scrolled t ∧ RowDrawn timeOfDay c a t i) ↔
      i < s.detailLines - 1 + a.inner.height := by
  constructor
  · rintro ⟨t, hscrolled, j, hj, rfl, -⟩
    obtain ⟨k, hk, rfl⟩ := StatusArea.scrolled_iff.1 hscrolled
    exact Nat.add_lt_add_of_le_of_lt hk hj
  · intro hlt
    have hheight := (Area.isEmpty_eq_false.1 hroom).2
    -- as far down as the row, or as far as possible
    obtain ⟨k, j, hk, hj, rfl⟩ : ∃ k j, k ≤ s.detailLines - 1 ∧ j < a.inner.height ∧ i = k + j := by
      rcases Nat.lt_or_ge (s.detailLines - 1) i with hfar | hnear
      · exact ⟨s.detailLines - 1, i - (s.detailLines - 1), Nat.le_refl _, by omega, by omega⟩
      · exact ⟨i, 0, hnear, hheight, rfl⟩
    refine ⟨{ s with scroll := k }, StatusArea.scrolled_iff.2 ⟨k, hk, rfl⟩, ?_⟩
    exact rowDrawn_add (s := { s with scroll := k }) hc ha hvisible hroom hj hi

/-- **A result can be scrolled by the lines of its details, however many rows it has.** -/
theorem result_scrolls (timeOfDay : Instant → String) (hc : c.IsFull) (ha : a.FitsIn c)
    (hvisible : s.visible = true) (hroom : a.inner.isEmpty = false) :
    ScrollReach timeOfDay c a s where
  cells t hscrolled j hj x := by
    obtain ⟨k, -, rfl⟩ := StatusArea.scrolled_iff.1 hscrolled
    exact cell?_drawResult (s := { s with scroll := k }) hvisible hroom hj x
  row_iff _ hi := exists_rowDrawn_iff hc ha hvisible hroom hi
  all_iff := by
    constructor
    · intro hall
      by_contra hlong
      have hi : s.detailLines - 1 + a.inner.height < (resultRows a s).length := by omega
      have hlt := (exists_rowDrawn_iff hc ha hvisible hroom hi).1 (hall _ hi)
      exact Nat.lt_irrefl _ hlt
    · intro hshort i hi
      exact (exists_rowDrawn_iff hc ha hvisible hroom hi).2 (Nat.lt_of_lt_of_le hi hshort)

end Draw

/-- A query that was answered with an empty object. -/
def emptyObject : StatusArea :=
  ⟨.success, "query succeeded", some "\x7b\x7d", true, some 0, 0, none, .ofSeconds 5⟩

theorem result_scrolls_threeRows :
    (Canvas.blank 40 11).IsFull ∧ Area.FitsIn ⟨18, 5, 22, 5⟩ (.blank 40 11) ∧
      emptyObject.visible = true ∧ (Area.inner ⟨18, 5, 22, 5⟩).isEmpty = false ∧
      ∀ i < (resultRows ⟨18, 5, 22, 5⟩ emptyObject).length, ∃ t, emptyObject.Scrolled t ∧
        RowDrawn (fun _ ↦ "12:34:56") (.blank 40 11) ⟨18, 5, 22, 5⟩ t i := by
  have hfull := Canvas.isFull_blank 40 11
  have hfits : Area.FitsIn ⟨18, 5, 22, 5⟩ (.blank 40 11) := ⟨by decide, by decide⟩
  refine ⟨hfull, hfits, rfl, rfl, ?_⟩
  exact (result_scrolls _ hfull hfits rfl rfl).all_iff.2 (by decide +kernel)

/-- In an area of one row there is no way to the details, although they are a row of the result. -/
theorem details_out_of_reach :
    (Area.inner ⟨18, 5, 22, 3⟩).height = 1 ∧
      ((resultRows ⟨18, 5, 22, 3⟩ emptyObject)[2]?.map fun row ↦ row.flatMap Glyph.symbol) =
        some [' ', '{', '}'] ∧
      ¬∃ t, emptyObject.Scrolled t ∧
        RowDrawn (fun _ ↦ "12:34:56") (.blank 40 9) ⟨18, 5, 22, 3⟩ t 2 := by
  refine ⟨rfl, by decide +kernel, ?_⟩
  rintro ⟨t, hscrolled, j, hj, hrow, -⟩
  have hlines : emptyObject.detailLines = 1 := by decide +kernel
  have hheight : (Area.inner ⟨18, 5, 22, 3⟩).height = 1 := rfl
  obtain ⟨k, hk, rfl⟩ := StatusArea.scrolled_iff.1 hscrolled
  have hrow : 2 = k + j := hrow
  omega

end Screen
end ClusterConsole
