import ClusterConsole.Proofs.Text.Pieces
import ClusterConsole.Text.Lines

/-!
# Lines put together and cut again

Lines that are put together with newlines between them are cut into the same lines again
(`lines_join`), if there is something on each of them, and no character that could be taken for part
of a line break.  Any other text is cut into lines as well, and only the empty one has none
(`lines_ne_nil`).
-/

set_option autoImplicit false

namespace ClusterConsole
namespace Text

/-- There is something on the line, and no part of a line break. -/
structure IsLine (s : List Char) : Prop where
  ne_nil : s ≠ []
  no_newline : '\n' ∉ s
  no_return : '\r' ∉ s

/-- Two groups of pieces are put together with the mark between them. -/
theorem join_append (mark : Char) {l m : List (List Char)} (hl : l ≠ []) (hm : m ≠ []) :
    join mark (l ++ m) = join mark l ++ mark :: join mark m := by
  induction l with
  | nil => exact absurd rfl hl
  | cons first rest ih =>
    cases rest with
    | nil => exact join_cons mark first hm
    | cons next more =>
      rw [List.cons_append, join_cons mark first (by simp), ih (List.cons_ne_nil next more),
        join_cons mark first (List.cons_ne_nil next more), List.append_assoc]
      rfl

theorem linesFrom_append {s : List Char} (h : '\n' ∉ s) (done : List (List Char))
    (current rest : List Char) :
    linesFrom done current (s ++ rest) = linesFrom done (s.reverse ++ current) rest := by
  induction s generalizing current with
  | nil => rfl
  | cons c s ih =>
    rw [List.mem_cons, not_or] at h
    rw [List.cons_append, linesFrom, ih h.2, List.reverse_cons, List.append_assoc]
    · rfl
    · exact Ne.symm h.1

/-- A newline after a line without a carriage return cuts off that line. -/
theorem closeLine_reverse {s : List Char} (h : '\r' ∉ s) : closeLine s.reverse = s := by
  rw [closeLine.eq_2, List.reverse_reverse]
  intro rest hs
  have hmem : '\r' ∈ s.reverse := hs ▸ List.mem_cons_self ..
  exact h (List.mem_reverse.1 hmem)

theorem linesFrom_join {l : List (List Char)} (h : ∀ s ∈ l, IsLine s) :
    ∀ done, linesFrom done [] (join '\n' l) = done.reverse ++ l := by
  induction l with
  | nil =>
    intro done
    simp [join, linesFrom]
  | cons s rest ih =>
    intro done
    rw [List.forall_mem_cons] at h
    cases rest with
    | nil =>
      have hs := linesFrom_append h.1.no_newline done [] []
      rw [List.append_nil, List.append_nil] at hs
      rw [join, hs, linesFrom, if_neg (by simpa using h.1.ne_nil), List.reverse_reverse,
        List.reverse_cons]
    | cons t more =>
      rw [join_cons '\n' s (List.cons_ne_nil t more), linesFrom_append h.1.no_newline,
        List.append_nil, linesFrom, closeLine_reverse h.1.no_return, ih h.2, List.reverse_cons,
        List.append_assoc]
      rfl

/-- **Lines put together are cut into the same lines again.** -/
theorem lines_join {l : List (List Char)} (h : ∀ s ∈ l, IsLine s) : lines (join '\n' l) = l :=
  linesFrom_join h []

/-- There are lines as soon as one is closed or open, or anything follows. -/
theorem linesFrom_ne_nil {done : List (List Char)} {current s : List Char}
    (h : done ≠ [] ∨ current ≠ [] ∨ s ≠ []) : linesFrom done current s ≠ [] := by
  fun_induction linesFrom done current s with
  | case1 done current => cases current <;> simp_all
  | case2 done current rest ih => exact ih (.inl (List.cons_ne_nil _ _))
  | case3 done current c rest hc ih => exact ih (.inr (.inl (List.cons_ne_nil _ _)))

/-- A text with anything in it has a line. -/
theorem lines_ne_nil {s : List Char} (h : s ≠ []) : lines s ≠ [] :=
  linesFrom_ne_nil (.inr (.inr h))

end Text
end ClusterConsole
