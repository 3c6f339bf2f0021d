import ClusterConsole.Screen.Wrap

/-!
# What breaking a line keeps

A line is broken into rows so that nothing of it has to be cut off.  What is lost all the same are
blanks at the breaks, and glyphs that are wider than a row.  Everything else is on the rows, in its
order (`inked_flatten_wrap`): `Wrapping.Holds` says so of the rows in the making, where a glyph may
be on a finished row, on the one being filled, among the blanks, or in the word that is not placed.

Each line has a row of its own at least (`wrap_ne_nil`), also one that is empty.
-/

set_option autoImplicit false

namespace ClusterConsole
namespace Screen

/-- The glyphs that are no blanks. -/
def inked (gs : List Glyph) : List Glyph := gs.filter fun g ↦ !g.isBlank

@[simp] theorem inked_append (gs hs : List Glyph) : inked (gs ++ hs) = inked gs ++ inked hs :=
  List.filter_append ..

theorem inked_eq_nil {gs : List Glyph} (h : ∀ g ∈ gs, g.isBlank = true) : inked gs = [] := by
  rw [inked, List.filter_eq_nil_iff]
  intro g hg
  simp [h g hg]

theorem inked_singleton {g : Glyph} (h : g.isBlank = true) : inked [g] = [] :=
  inked_eq_nil (by simpa using h)

namespace Wrapping

/-- What was taken of the line so far and is not lost. -/
def taken (w : Wrapping) : List Glyph := w.rows.reverse.flatten ++ w.line ++ w.blanks ++ w.word

/-- The rows in the making hold the glyphs of a line, but for blanks. -/
structure Holds (w : Wrapping) (gs : List Glyph) : Prop where
  isBlank : ∀ g ∈ w.blanks, g.isBlank = true
  inked_eq : inked w.taken = inked gs

theorem dropFitting_suffix (room : Nat) (gs : List Glyph) : dropFitting room gs <:+ gs := by
  induction gs generalizing room with
  | nil => exact List.suffix_rfl
  | cons g rest ih =>
    rw [dropFitting]
    split
    · exact List.suffix_rfl
    · exact (ih _).trans (List.suffix_cons g rest)

namespace Holds

variable {w : Wrapping} {gs : List Glyph} {g : Glyph}

theorem start : Holds .start [] := ⟨fun _ hg ↦ absurd hg List.not_mem_nil, rfl⟩

theorem place (h : w.Holds gs) : w.place.Holds gs where
  isBlank _ hg := absurd hg List.not_mem_nil
  inked_eq := by
    rw [← h.inked_eq]
    simp [Wrapping.place, taken]

/-- Only blanks are dropped at the end of a row. -/
theorem finishRow (h : w.Holds gs) (width : Nat) : (w.finishRow width).Holds gs := by
  have hdropped : ∀ g ∈ dropFitting (width - glyphsWidth w.line) w.blanks, g.isBlank = true :=
    fun g hg ↦ h.isBlank g ((dropFitting_suffix ..).mem hg)
  refine ⟨hdropped, ?_⟩
  rw [← h.inked_eq]
  simp [Wrapping.finishRow, taken, inked_eq_nil h.isBlank, inked_eq_nil hdropped]

theorem push (h : w.Holds gs) (g : Glyph) : (w.push g).Holds (gs ++ [g]) := by
  rw [Wrapping.push]
  split
  · next hblank =>
    have hblanks : ∀ x ∈ w.blanks ++ [g], x.isBlank = true := by
      simpa [or_imp, forall_and] using ⟨h.isBlank, hblank⟩
    refine ⟨hblanks, ?_⟩
    rw [inked_append, inked_singleton hblank, List.append_nil, ← h.inked_eq]
    simp only [taken, inked_append, inked_singleton hblank, List.append_nil]
  · refine ⟨h.isBlank, ?_⟩
    rw [inked_append, ← h.inked_eq]
    simp only [taken, inked_append, List.append_assoc]

/-- A blank may be left out. -/
theorem skip (h : w.Holds gs) (hg : g.isBlank = true) : w.Holds (gs ++ [g]) := by
  refine ⟨h.isBlank, ?_⟩
  rw [inked_append, inked_singleton hg, List.append_nil, h.inked_eq]

/-- A glyph that is not too wide is held after it is taken. -/
theorem add (h : w.Holds gs) {width : Nat} (hwidth : g.width ≤ width) :
    (w.add width g).Holds (gs ++ [g]) := by
  have hplaced : (if w.isPlacing width g then w.place else w).Holds gs := by
    split
    · exact h.place
    · exact h
  rw [Wrapping.add, if_neg (Nat.not_lt.2 hwidth)]
  generalize (if w.isPlacing width g then w.place else w) = placed at hplaced
  dsimp only
  split
  · split
    · next hskip =>
      rw [Bool.and_eq_true] at hskip
      exact (hplaced.finishRow width).skip hskip.1
    · exact (hplaced.finishRow width).push g
  · exact hplaced.push g

theorem foldl_add (width : Nat) (h : w.Holds gs) (more : List Glyph) :
    (more.foldl (Wrapping.add width) w).Holds (gs ++ more.filter fun g ↦ g.width ≤ width) := by
  induction more generalizing w gs with
  | nil => simpa using h
  | cons g more ih =>
    rw [List.foldl_cons, List.filter_cons]
    split
    · next hwidth =>
      rw [List.append_cons]
      exact ih (h.add (by simpa using hwidth))
    · next hwide =>
      have hsame : w.add width g = w := by
        rw [Wrapping.add, if_pos (by simpa using hwide)]
      rw [hsame]
      exact ih h

end Holds

/-- There is always a row, and an empty one adds nothing. -/
theorem flatten_rows (rows : List (List Glyph)) :
    (if rows.isEmpty then [[]] else rows.reverse).flatten = rows.reverse.flatten := by
  cases rows <;> simp

theorem flatten_finish (w : Wrapping) : w.finish.flatten = w.taken := by
  rw [finish, flatten_rows]
  split
  · next hlast =>
    rw [List.isEmpty_iff] at hlast
    rw [taken, List.append_assoc, List.append_assoc, ← List.append_assoc w.line, hlast,
      List.append_nil]
  · simp [taken]

theorem finish_ne_nil (w : Wrapping) : w.finish ≠ [] := by
  have hrows : ∀ rows : List (List Glyph),
      (if rows.isEmpty then [[]] else rows.reverse) ≠ [] := by
    intro rows
    cases rows <;> simp
  exact hrows _

end Wrapping

theorem wrap_ne_nil (width : Nat) (gs : List Glyph) : wrap width gs ≠ [] :=
  Wrapping.finish_ne_nil _

/-- **Nothing is lost when a line is broken but blanks and what is wider than a row.** -/
theorem inked_flatten_wrap (width : Nat) (gs : List Glyph) :
    inked (wrap width gs).flatten = inked (gs.filter fun g ↦ g.width ≤ width) := by
  rw [wrap, Wrapping.flatten_finish]
  exact (Wrapping.Holds.start.foldl_add width gs).inked_eq

end Screen
end ClusterConsole
