import ClusterConsole.Proofs.Text.Printable
import ClusterConsole.Text.Width
import Mathlib.Data.List.Induction

/-!
# Printable characters at the end of a text

What one more character does to the graphemes of a text depends on what is before it.  For printable
characters little can happen: such a character is a grapheme of its own, or it completes the last
one, which takes a character that belongs to whatever follows it (`graphemes_concat`).  Either way
the text becomes one column wider (`width_concat`).

The loop over the text keeps only a summary of the open grapheme.  `Tail.Knows` says what the
summary tells of the characters in it; every turn of the loop keeps it.
-/

set_option autoImplicit false

namespace ClusterConsole
namespace Text

/-! ## What is known of a printable character -/

theorem inRanges_of_lt {low high n : Nat} {rest : List (Nat × Nat)} (h : n < low) :
    inRanges ((low, high) :: rest) n = false := by
  rw [inRanges, decide_eq_false (Nat.not_le.2 h), Bool.false_and]

namespace Printable

variable {c : Char} (h : Printable c)

include h

theorem class_eq : GraphemeClass.of c = .other := by
  obtain ⟨hlow, hhigh⟩ := printable_iff.1 h
  have hreturn : ¬c.toNat = 0x0d := by omega
  have hfeed : ¬c.toNat = 0x0a := by omega
  simp [GraphemeClass.of, hreturn, hfeed, hlow, hhigh]

theorem charWidth_eq : charWidth c = 1 := by
  obtain ⟨hlow, hhigh⟩ := printable_iff.1 h
  simp [charWidth, hlow, hhigh]

theorem isConsonant_eq : isConsonant c = false := by
  obtain ⟨-, hhigh⟩ := printable_iff.1 h
  exact inRanges_of_lt (by omega)

theorem isPictographic_eq : isPictographic c = false := by
  obtain ⟨-, hhigh⟩ := printable_iff.1 h
  exact inRanges_of_lt (by omega)

/-- Nothing but a character that belongs to the next one takes a printable character with it. -/
theorem joins_eq (t : Tail) : t.joins c = (t.last == .prepend) := by
  simp only [Tail.joins, h.class_eq, h.isConsonant_eq, h.isPictographic_eq, Bool.and_false,
    Bool.or_false]
  cases t.last <;> cases t.regionalOdd <;> rfl

end Printable

/-! ## The loop over the text -/

/-- What the summary tells of the open grapheme: it has a character of the last class, and if any of
its characters stands alone, then so does the last one. -/
structure Tail.Knows (t : Tail) (current : List Char) : Prop where
  last_mem : ∃ c ∈ current, GraphemeClass.of c = t.last
  breaks : ∀ c ∈ current, (GraphemeClass.of c).breaks = true → t.last.breaks = true

theorem Tail.knows_start (c : Char) : (Tail.start c).Knows [c] :=
  ⟨⟨c, List.mem_singleton_self c, rfl⟩, fun d hd h ↦ by rwa [List.mem_singleton.1 hd] at h⟩

theorem Tail.knows_next (t : Tail) (c : Char) : (t.next c).Knows [c] :=
  ⟨⟨c, List.mem_singleton_self c, rfl⟩, fun d hd h ↦ by rwa [List.mem_singleton.1 hd] at h⟩

/-- Only a line feed joins a character that stands alone, and it stands alone itself. -/
theorem Tail.breaks_of_joins {t : Tail} {c : Char} (hlast : t.last.breaks = true)
    (h : t.joins c = true) : (GraphemeClass.of c).breaks = true := by
  rw [joins] at h
  split at h
  · next hpair =>
    rw [Bool.and_eq_true, beq_iff_eq, beq_iff_eq] at hpair
    rw [hpair.2]
    rfl
  · rw [hlast, Bool.true_or, if_pos rfl] at h
    cases h

theorem Tail.Knows.next {t : Tail} {current : List Char} (ht : t.Knows current) {c : Char}
    (h : t.joins c = true) : (t.next c).Knows (c :: current) := by
  refine ⟨⟨c, List.mem_cons_self .., rfl⟩, fun d hd hbreaks ↦ ?_⟩
  rcases List.mem_cons.1 hd with rfl | hd
  · exact hbreaks
  · exact Tail.breaks_of_joins (ht.breaks d hd hbreaks) h

/-- What one more printable character makes of the graphemes of a text. -/
inductive Grown (c : Char) : (before after : List (List Char)) → Prop
  /-- It is a grapheme of its own. -/
  | own (gs : List (List Char)) : Grown c gs (gs ++ [[c]])
  /-- It completes a grapheme that has no character that stands alone. -/
  | joined (gs : List (List Char)) {g : List Char}
      (hprepend : ∃ d ∈ g, GraphemeClass.of d = .prepend)
      (hbreaks : ∀ d ∈ g, (GraphemeClass.of d).breaks = false) :
      Grown c (gs ++ [g]) (gs ++ [g ++ [c]])

theorem grown_graphemesFrom {c : Char} (hc : Printable c) (s : List Char) (done : List (List Char))
    {current : List Char} {t : Tail} (ht : t.Knows current) :
    Grown c (graphemesFrom done current t s) (graphemesFrom done current t (s ++ [c])) := by
  induction s generalizing done current t with
  | nil =>
    rw [List.nil_append, graphemesFrom, graphemesFrom, hc.joins_eq]
    split
    · next hlast =>
      rw [beq_iff_eq] at hlast
      obtain ⟨d, hd, hclass⟩ := ht.last_mem
      rw [graphemesFrom, List.reverse_cons, List.reverse_cons, List.reverse_cons]
      refine .joined _ ⟨d, List.mem_reverse.2 hd, hclass.trans hlast⟩ fun e he ↦ ?_
      rw [Bool.eq_false_iff]
      intro hbreaks
      have hstands := ht.breaks e (List.mem_reverse.1 he) hbreaks
      rw [hlast] at hstands
      cases hstands
    · rw [graphemesFrom, @List.reverse_cons _ _ (current.reverse :: done)]
      exact .own _
  | cons d rest ih =>
    rw [List.cons_append, graphemesFrom, graphemesFrom]
    split
    · next hjoins => exact ih done (ht.next hjoins)
    · exact ih _ (t.knows_next d)

/-- **A printable character at the end of a text is a grapheme of its own, or completes the last
one.** -/
theorem graphemes_concat {c : Char} (hc : Printable c) (s : List Char) :
    Grown c (graphemes s) (graphemes (s ++ [c])) := by
  cases s with
  | nil => exact .own []
  | cons d rest => exact grown_graphemesFrom hc rest [] (Tail.knows_start d)

/-- Printable characters are graphemes, each of them for itself. -/
theorem graphemes_of_printable {s : List Char} (hs : ∀ c ∈ s, Printable c) :
    graphemes s = s.map fun c ↦ [c] := by
  induction s using List.reverseRecOn with
  | nil => rfl
  | append_singleton s c ih =>
    rw [List.forall_mem_append, List.forall_mem_singleton] at hs
    have hgrown := graphemes_concat hs.2 s
    rw [ih hs.1] at hgrown
    rw [List.map_append, List.map_singleton]
    generalize hafter : graphemes (s ++ [c]) = after at hgrown
    generalize hbefore : s.map (fun c ↦ [c]) = before at hgrown
    cases hgrown with
    | own => rfl
    | joined gs hprepend =>
      -- the last grapheme is a printable character, which does not belong to the next one
      obtain ⟨d, hd, hclass⟩ := hprepend
      obtain ⟨e, he, heq⟩ := List.mem_map.1 (hbefore ▸ List.mem_concat_self)
      rw [← heq, List.mem_singleton] at hd
      rw [hd, (hs.1 e he).class_eq] at hclass
      cases hclass

/-! ## Widths -/

/-- One more printable character makes a grapheme one column wider. -/
theorem width_concat {c : Char} (hc : Printable c) (g : List Char) :
    width (g ++ [c]) = width g + 1 := by
  have hhigh := (printable_iff.1 hc).2
  have hskin : isSkinTone c = false := by
    rw [isSkinTone, decide_eq_false (by omega), Bool.false_and]
  have hadd : ∀ k : Columns, k.add c = ⟨k.total + k.width, some c, 1, false⟩ := by
    intro k
    have hjoiner : ¬c.toNat = 0x200d := by omega
    have hemoji : ¬c.toNat = 0xfe0f := by omega
    have htext : ¬c.toNat = 0xfe0e := by omega
    simp [Columns.add, hjoiner, hemoji, htext, hskin, hc.isPictographic_eq, hc.charWidth_eq]
  rw [width, width, List.foldl_append, List.foldl_cons, List.foldl_nil, hadd]

theorem width_singleton {c : Char} (hc : Printable c) : width [c] = 1 := width_concat hc []

end Text
end ClusterConsole
