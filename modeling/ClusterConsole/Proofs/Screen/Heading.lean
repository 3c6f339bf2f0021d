import ClusterConsole.Proofs.Screen.Bounds
import ClusterConsole.Proofs.Screen.Fitting

/-!
# What the header tells

The header has the first rows of the screen.  It is drawn first, but nothing that is drawn after it
reaches these rows, so they show the lines of the header as long as the help does not cover them
(`cell?_draw_header`).

The second line tells how many requests are under way.  It is made of printable characters, each of
which takes one column, so it can be read off the screen character by character as far as there are
columns (`symbol_draw_requests`).
-/

set_option autoImplicit false

namespace ClusterConsole
namespace Screen

open Canvas

/-! ## Printable lines -/

/-- The text of a line. -/
def Line.text (l : Line) : List Char := l.flatMap Span.text

namespace Line

variable {l : Line} (hl : ∀ s ∈ l, ∀ c ∈ s.text, Text.Printable c)

include hl

theorem width_eq_of_printable {g : Glyph} (hg : g ∈ l.glyphs) : g.width = 1 := by
  obtain ⟨s, hs, hg⟩ := List.mem_flatMap.1 hg
  rw [Span.glyphs_of_printable (hl s hs)] at hg
  obtain ⟨c, -, rfl⟩ := List.mem_map.1 hg
  rfl

theorem map_symbol_of_printable : l.glyphs.map Glyph.symbol = l.text.map fun c ↦ [c] := by
  rw [glyphs, text, List.map_flatMap, List.map_flatMap]
  refine List.flatMap_congr fun s hs ↦ ?_
  rw [Span.glyphs_of_printable (hl s hs), List.map_map]
  rfl

/-- A printable line is read character by character, and behind it the row is blank. -/
theorem symbol_rowOnto {width k : Nat} (hk : k < width) :
    (rowOnto (fit width 0 l.glyphs) k .blank).symbol = [l.text.getD k ' '] := by
  have hnarrow : ∀ g ∈ l.glyphs, g.width = 1 := fun g ↦ width_eq_of_printable hl
  have hsymbol : (l.glyphs[k]?).map Glyph.symbol = (l.text[k]?).map fun c ↦ [c] := by
    rw [← List.getElem?_map, map_symbol_of_printable hl, List.getElem?_map]
  rw [rowOnto, fit_of_narrow hnarrow (by omega),
    glyphAt?_of_narrow fun g hg ↦ hnarrow g (List.mem_of_mem_take hg),
    List.getElem?_take_of_lt (by omega), List.getD_eq_getElem?_getD]
  cases hglyph : l.glyphs[k]? with
  | none =>
    rw [hglyph, Option.map_none, eq_comm, Option.map_eq_none_iff] at hsymbol
    rw [hsymbol]
    rfl
  | some g =>
    rw [hglyph, Option.map_some, eq_comm, Option.map_eq_some_iff] at hsymbol
    obtain ⟨c, hc, hg⟩ := hsymbol
    rw [hc]
    exact hg.symm

end Line

/-! ## The header on the screen -/

/-- The block of the header. -/
def headerArea (w h : Nat) : Area := (Canvas.blank w h).area.rows 0 (heights h).1

section

variable {w h : Nat} {v : View}

/-- What is drawn after the header stays below it. -/
theorem changesOnly_draw (timeOfDay : Instant → String) (hmode : v.mode = .normal) :
    ChangesOnly (fun _ y ↦ (heights h).1 ≤ y)
      (drawHeader (Canvas.blank w h) (headerArea w h) v.base v.requests)
      (v.draw timeOfDay w h) := by
  have hbelow : ∀ (a : Area), (heights h).1 ≤ a.y → ∀ x y, a.Strip x y → (heights h).1 ≤ y :=
    fun a ha x y hstrip ↦ ha.trans hstrip.2.1
  simp only [View.draw, hmode, drawMiddle]
  refine ((changesOnly_drawTabs _ _ _ _).mono (hbelow _ ?_)).trans <|
    ((changesOnly_drawForm _ _ _).mono (hbelow _ ?_)).trans <|
    ((changesOnly_drawResult _ _ _ _).mono (hbelow _ ?_)).trans
    ((changesOnly_drawFooter _ _ _).mono (hbelow _ ?_))
  all_goals simp only [Area.rows, Area.columns, Canvas.area]
  all_goals omega

/-- **Every row of the header shows the line that has its number, as far as it fits.** -/
theorem cell?_draw_header (timeOfDay : Instant → String) (hmode : v.mode = .normal) {j k : Nat}
    (hj : j < (headerArea w h).inner.height) (hk : k < (headerArea w h).inner.width) :
    (v.draw timeOfDay w h).cell? ((headerArea w h).inner.x + k) ((headerArea w h).inner.y + j) =
      some (rowOnto (lineRow (headerArea w h).inner.width (headerLines v.base v.requests) j) k
        .blank) := by
  have hinner : (headerArea w h).inner.Has ((headerArea w h).inner.x + k)
      ((headerArea w h).inner.y + j) :=
    ⟨Nat.le_add_right .., Nat.add_lt_add_left hk _, Nat.le_add_right .., Nat.add_lt_add_left hj _⟩
  have hplace : (headerArea w h).inner.x + k < w ∧ (headerArea w h).inner.y + j < (heights h).1 ∧
      (heights h).1 ≤ h := by
    simp only [headerArea, heights, Canvas.area, Canvas.blank, Area.rows, Area.inner] at hj hk ⊢
    omega
  rw [(changesOnly_draw timeOfDay hmode).cell?_eq (by omega), drawHeader,
    cell?_drawLines _ _ _ hj hk, (changesOnly_drawFrame _ _ _ _).cell?_eq fun h ↦ h.2 hinner,
    cell?_blank (by omega) (by omega), Option.map_some]

/-! ## The number of requests -/

/-- What the header tells about a number of requests. -/
def requestsText (inFlight : Nat) : String :=
  " Requests: " ++ if 0 < inFlight then toString inFlight ++ " in flight" else "idle"

/-- The line of the header that tells the number of requests under way. -/
def requestsLine (inFlight : Nat) : Line :=
  [.styled " Requests: " (.of .darkGray), requestsSpan inFlight]

theorem text_requestsLine (n : Nat) : (requestsLine n).text = (requestsText n).toList := by
  simp only [requestsLine, Line.text, requestsSpan, requestsText, String.toList_append]
  split <;> simp [Span.styled]

theorem printable_requestsLine {n : Nat} {s : Span} (hs : s ∈ requestsLine n) {c : Char}
    (hc : c ∈ s.text) : Text.Printable c := by
  simp only [requestsLine, requestsSpan, List.mem_cons, List.not_mem_nil, or_false] at hs
  rcases hs with rfl | rfl
  · exact Text.printable_of_all (s := " Requests: ") (by decide) c hc
  split at hc
  · rw [Span.styled, String.toList_append, List.mem_append] at hc
    rcases hc with hc | hc
    · exact Text.printable_of_mem_toString hc
    · exact Text.printable_of_all (by decide) c hc
  · exact Text.printable_of_all (s := "idle") (by decide) c hc

/-- **The third row of the screen tells the number of requests under way.** -/
theorem symbol_draw_requests (timeOfDay : Instant → String) (hmode : v.mode = .normal)
    (hrows : 5 ≤ h) {k : Nat} (hk : k + 2 < w) :
    ((v.draw timeOfDay w h).cell? (k + 1) 2).map Cell.symbol =
      some [(requestsText v.requests).toList.getD k ' '] := by
  have hinner : (headerArea w h).inner = ⟨1, 1, w - 2, 2⟩ := by
    have hheight : (heights h).1 = 4 := by
      simp only [heights]
      omega
    simp only [headerArea, Area.rows, Area.inner, Canvas.area, hheight, Canvas.blank,
      Area.mk.injEq, and_true]
    omega
  have hcell := cell?_draw_header (w := w) (h := h) timeOfDay hmode (j := 1) (k := k)
    (by rw [hinner]; exact Nat.one_lt_two) (by rw [hinner]; exact Nat.lt_sub_of_add_lt hk)
  rw [hinner, Nat.add_comm 1 k] at hcell
  have hrow : lineRow (w - 2) (headerLines v.base v.requests) 1 =
      fit (w - 2) 0 (requestsLine v.requests).glyphs := rfl
  rw [hcell, Option.map_some, hrow,
    Line.symbol_rowOnto (fun s hs c ↦ printable_requestsLine hs) (by omega), text_requestsLine]

end

end Screen
end ClusterConsole
