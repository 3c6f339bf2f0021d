import ClusterConsole.Text.Pieces

/-!
# Where a text is cut

A mark between two texts cuts them apart (`pieces_append_mark`), and no piece holds the mark.  So
what is appended to a text after a mark leaves the pieces before it as they are.
-/

set_option autoImplicit false

namespace ClusterConsole
namespace Text

variable {mark : Char} {s : List Char}

theorem pieces_append_mark (s t : List Char) :
    pieces mark (s ++ mark :: t) = pieces mark s ++ pieces mark t := by
  induction s with
  | nil => simp [pieces]
  | cons c rest ih =>
    rw [List.cons_append, pieces, pieces, ih]
    split
    · rfl
    · cases hrest : pieces mark rest with
      | nil => exact absurd hrest (pieces_ne_nil mark rest)
      | cons first others => rfl

theorem not_mem_of_mem_pieces {piece : List Char} (h : piece ∈ pieces mark s) : mark ∉ piece := by
  induction s generalizing piece with
  | nil =>
    cases List.mem_singleton.1 h
    exact List.not_mem_nil
  | cons c rest ih =>
    rw [pieces] at h
    split at h
    · rcases List.mem_cons.1 h with rfl | h
      · exact List.not_mem_nil
      · exact ih h
    · next hc =>
      split at h
      · next hnil => exact absurd hnil (pieces_ne_nil mark rest)
      · next first others hrest =>
        rcases List.mem_cons.1 h with rfl | h
        · refine List.not_mem_cons_of_ne_of_not_mem (Ne.symm hc) (ih ?_)
          exact hrest ▸ List.mem_cons_self ..
        · exact ih (hrest ▸ List.mem_cons_of_mem first h)

theorem mem_join {l : List (List Char)} {piece : List Char} {c : Char} (h : piece ∈ l)
    (hc : c ∈ piece) : c ∈ join mark l := by
  induction l with
  | nil => cases h
  | cons first rest ih =>
    cases rest with
    | nil => exact List.mem_singleton.1 h ▸ hc
    | cons next more =>
      rw [join_cons mark first (List.cons_ne_nil next more), List.mem_append]
      rcases List.mem_cons.1 h with rfl | h
      · exact .inl hc
      · exact .inr (List.mem_cons_of_mem mark (ih h))

/-- What is put together has no characters but those of the pieces and the mark. -/
theorem eq_or_mem_of_mem_join {l : List (List Char)} {c : Char} (h : c ∈ join mark l) :
    c = mark ∨ ∃ piece ∈ l, c ∈ piece := by
  induction l with
  | nil => simp [join] at h
  | cons first rest ih =>
    cases rest with
    | nil => exact .inr ⟨first, List.mem_singleton_self _, h⟩
    | cons next more =>
      rw [join_cons mark first (List.cons_ne_nil next more), List.mem_append, List.mem_cons] at h
      rcases h with h | h | h
      · exact .inr ⟨first, List.mem_cons_self .., h⟩
      · exact .inl h
      · refine (ih h).imp_right ?_
        rintro ⟨piece, hmem, hc⟩
        exact ⟨piece, List.mem_cons_of_mem first hmem, hc⟩

/-- The last piece is at the end. -/
theorem exists_join_concat (mark : Char) (l : List (List Char)) (last : List Char) :
    ∃ before, join mark (l ++ [last]) = before ++ last := by
  induction l with
  | nil => exact ⟨[], rfl⟩
  | cons first rest ih =>
    obtain ⟨before, hbefore⟩ := ih
    refine ⟨first ++ mark :: before, ?_⟩
    rw [List.cons_append, join_cons mark first (by simp), hbefore, List.append_assoc]
    rfl

/-- The pieces of a text have no characters but those of the text. -/
theorem mem_of_mem_pieces {piece : List Char} {c : Char} (h : piece ∈ pieces mark s)
    (hc : c ∈ piece) : c ∈ s := join_pieces mark s ▸ mem_join h hc

theorem pieces_of_not_mem (h : mark ∉ s) : pieces mark s = [s] := by
  induction s with
  | nil => rfl
  | cons c rest ih =>
    rw [List.mem_cons, not_or] at h
    rw [pieces, if_neg (Ne.symm h.1), ih h.2]

/-- The last piece is empty if a mark is the last character, or if there is nothing at all. -/
theorem getLast?_pieces_eq_nil_iff :
    (pieces mark s).getLast? = some [] ↔ (mark :: s).getLast? = some mark := by
  constructor
  · intro h
    obtain ⟨first, hfirst⟩ := List.getLast?_eq_some_iff.1 h
    have hjoin : join mark (first ++ [[]]) = s := hfirst ▸ join_pieces mark s
    rw [← hjoin]
    clear h hfirst hjoin
    induction first with
    | nil => rfl
    | cons piece rest ih =>
      rw [List.cons_append, join_cons mark piece (by simp), List.getLast?_cons,
        List.getLast?_append, ih]
      rfl
  · intro h
    obtain ⟨first, hfirst⟩ := List.getLast?_eq_some_iff.1 h
    cases first with
    | nil =>
      cases hfirst
      rfl
    | cons c rest =>
      have hs : s = rest ++ mark :: [] := (List.cons.inj hfirst).2
      rw [hs, pieces_append_mark]
      exact List.getLast?_concat

end Text
end ClusterConsole
