import ClusterConsole.Proofs.Screen.Scrolling
import ClusterConsole.Proofs.Screen.Wrap
import ClusterConsole.Proofs.StatusArea.Scroll
import ClusterConsole.Proofs.Text.Lines

/-!
# What scrolling leaves of a result

A scroll amount is less than the number of lines of the details, but what it leaves out are rows,
and the message and the empty line above the details have rows as well.  No line has fewer than one,
so the amount is too small to leave out all of them.  It does not even reach the last line of the
result: of that line all rows stay (`Remains.last_stays`), and with them whatever is written on it.
Nothing need be written there, since details may end in blank lines; those are rows like any other.

So there is always a row of text left, whatever was shown, hidden and scrolled in an area before
(`scrolls_of_run`).
-/

set_option autoImplicit false

namespace ClusterConsole
namespace Screen

/-! ## Rows of lines -/

theorem wrappedRows_cons (width : Nat) (line : Line) (rest : List Line) :
    Canvas.wrappedRows width (line :: rest) =
      wrap width line.glyphs ++ Canvas.wrappedRows width rest :=
  List.flatMap_cons

theorem wrappedRows_concat (width : Nat) (init : List Line) (last : Line) :
    Canvas.wrappedRows width (init ++ [last]) =
      Canvas.wrappedRows width init ++ wrap width last.glyphs := by
  simp [Canvas.wrappedRows]

/-- There are at least as many rows as lines. -/
theorem length_le_wrappedRows (width : Nat) (lines : List Line) :
    lines.length ≤ (Canvas.wrappedRows width lines).length := by
  induction lines with
  | nil => exact Nat.zero_le _
  | cons line rest ih =>
    have hrows : 0 < (wrap width line.glyphs).length :=
      List.length_pos_iff.2 (wrap_ne_nil width line.glyphs)
    rw [wrappedRows_cons, List.length_append, List.length_cons]
    omega

/-- Whatever is written on a line, and not wider than a row, is on one of its rows. -/
theorem exists_mem_wrap {width : Nat} {line : Line} {g : Glyph} (hg : g ∈ line.glyphs)
    (hblank : g.isBlank = false) (hwidth : g.width ≤ width) :
    ∃ row ∈ wrap width line.glyphs, g ∈ row := by
  have hkept : g ∈ inked (line.glyphs.filter fun g ↦ g.width ≤ width) := by
    simp [inked, hg, hblank, hwidth]
  rw [← inked_flatten_wrap] at hkept
  exact List.mem_flatten.1 (List.mem_of_mem_filter hkept)

/-! ## The lines of a result -/

theorem length_messageLines (k : Kind) (message : String) :
    (messageLines k message).length = (Text.lines message.toList).length := by
  rw [messageLines]
  split
  · next hlines =>
    rw [hlines]
    rfl
  · next hlines => rw [hlines, List.length_cons, List.length_cons, List.length_map]

/-- There are the lines of the message, and those of the details with an empty one before them. -/
theorem length_resultLines (s : StatusArea) : (resultLines s).length =
    (Text.lines s.message.toList).length + if s.detail.isSome then s.lineCount + 1 else 0 := by
  rw [resultLines, List.length_append, length_messageLines, StatusArea.lineCount]
  cases s.detail with
  | none => rfl
  | some detail =>
    have hlines : (detailLines (some detail)).length = (Text.lines detail.toList).length + 1 := by
      rw [detailLines.eq_def, List.length_cons, List.length_map]
    rw [hlines]
    rfl

/-- There are more lines than can be left out. -/
theorem scroll_lt_length {s : StatusArea} (hscroll : s.scroll ≤ StatusArea.scrollLimit s.lineCount)
    (htext : s.message ≠ "" ∨ s.detail ≠ none) : s.scroll < (resultLines s).length := by
  rw [StatusArea.scrollLimit] at hscroll
  rw [length_resultLines]
  cases hdetail : s.detail with
  | none =>
    have hmessage : 0 < (Text.lines s.message.toList).length :=
      List.length_pos_iff.2 (Text.lines_ne_nil (by simpa [hdetail] using htext))
    have hcount : s.lineCount = 0 := by rw [StatusArea.lineCount, hdetail, Option.elim_none]
    rw [hcount] at hscroll
    exact Nat.lt_of_le_of_lt hscroll (Nat.lt_of_lt_of_le hmessage (Nat.le_add_right ..))
  | some detail =>
    -- the empty line makes them one more than the details have
    rw [Option.isSome_some, if_pos rfl]
    omega

/-! ## What stays -/

/-- The rows of a result that are not left out at the top. -/
def rowsLeft (width : Nat) (s : StatusArea) : List (List Glyph) :=
  (Canvas.wrappedRows width (resultLines s)).drop s.scroll

/-- Part of a result stays, wherever it is scrolled to. -/
structure Remains (s : StatusArea) : Prop where
  /-- There are more lines of text than rows left out. -/
  scroll_lt : s.scroll < (resultLines s).length
  /-- In an area of any width, no row of the last line is left out, so whatever is written on it
  stays: all but blanks, and glyphs that do not fit into the width. -/
  last_stays : ∀ width, ∃ last, (resultLines s).getLast? = some last ∧
    wrap width last.glyphs <:+ rowsLeft width s ∧
    ∀ g ∈ last.glyphs, g.isBlank = false → g.width ≤ width → ∃ row ∈ rowsLeft width s, g ∈ row
  /-- The first row of an area that has room shows the first of the rows that are left. -/
  top_drawn : ∀ (timeOfDay : Instant → String) (c : Canvas) (a : Area), c.IsFull → a.FitsIn c →
    a.inner.isEmpty = false → RowDrawn timeOfDay c a s s.scroll

/-- The rows of the last line are the last rows, and as many rows as there are other lines can be
left out without any of these. -/
theorem suffix_rowsLeft {s : StatusArea} {init : List Line} {last : Line}
    (hlines : resultLines s = init ++ [last]) (hscroll : s.scroll ≤ init.length) (width : Nat) :
    wrap width last.glyphs <:+ rowsLeft width s := by
  have hinit := Nat.le_trans hscroll (length_le_wrappedRows width init)
  rw [rowsLeft, hlines, wrappedRows_concat, List.drop_append_of_le_length hinit]
  exact List.suffix_append ..

theorem remains_of_scroll_lt {s : StatusArea} (hvisible : s.visible = true)
    (hscroll : s.scroll < (resultLines s).length) : Remains s where
  scroll_lt := hscroll
  last_stays width := by
    obtain ⟨init, last, hlines⟩ := (List.eq_nil_or_concat' (resultLines s)).resolve_left
      (List.ne_nil_of_length_pos (Nat.zero_lt_of_lt hscroll))
    have hinit : s.scroll ≤ init.length := by
      rw [hlines, List.length_append, List.length_singleton] at hscroll
      exact Nat.le_of_lt_succ hscroll
    have hsuffix := suffix_rowsLeft hlines hinit width
    refine ⟨last, by rw [hlines, List.getLast?_concat], hsuffix, fun g hg hblank hwidth ↦ ?_⟩
    obtain ⟨row, hrow, hmem⟩ := exists_mem_wrap hg hblank hwidth
    exact ⟨row, hsuffix.mem hrow, hmem⟩
  top_drawn _ _ a hc ha hroom := by
    have hheight := (Area.isEmpty_eq_false.1 hroom).2
    have hrows := Nat.lt_of_lt_of_le hscroll (length_le_wrappedRows a.inner.width _)
    exact rowDrawn_add hc ha hvisible hroom hheight hrows

/-- **Scrolling is exact and leaves text on the screen**, after whatever was done with the area. -/
theorem scrolls_of_run {delay : Duration} {ops : List StatusArea.Op} {s : StatusArea}
    (h : (StatusArea.hidden delay).run ops = .ok s) :
    s.ScrollsExactly ∧
      (s.visible = true → (s.message ≠ "" ∨ s.detail ≠ none) → Remains s) := by
  have hscroll := StatusArea.scroll_le_of_run h
  refine ⟨StatusArea.scrollsExactly_of_le hscroll, fun hvisible htext ↦ ?_⟩
  exact remains_of_scroll_lt hvisible (scroll_lt_length hscroll htext)

/-- A list of so many empty objects was found; each of them is on a line of its own. -/
def emptyObjects (n : Nat) : StatusArea :=
  (StatusArea.hidden 5).showing
    ⟨.success, "found", some (String.ofList (Text.join '\n' (List.replicate n ['{', '}'])))⟩ 0
    (some 5)

theorem lineCount_emptyObjects (n : Nat) : (emptyObjects n).lineCount = n := by
  have hline : ∀ line ∈ List.replicate n ['{', '}'], Text.IsLine line := by
    intro line hmem
    rw [List.eq_of_mem_replicate hmem]
    exact ⟨by decide, by decide, by decide⟩
  rw [StatusArea.lineCount, emptyObjects, StatusArea.showing, Option.elim_some,
    String.toList_ofList, Text.lines_join hline, List.length_replicate]

/-- Of more lines than there are words, the last one that has a word for its number is where
scrolling ends, also by an amount that leaves no word for the sum. -/
theorem scrolls_of_run_manyLines :
    ∃ s, (StatusArea.hidden 5).run [.apply (emptyObjects 65540).update 0, .scrollDown 10,
        .scrollDown 65535] = .ok s ∧
      s.visible = true ∧ s.lineCount = 65540 ∧ s.scroll = 65534 ∧ s.ScrollsExactly ∧ Remains s := by
  have hrun : (StatusArea.hidden 5).run [.apply (emptyObjects 65540).update 0, .scrollDown 10,
      .scrollDown 65535] = .ok (((emptyObjects 65540).scrollDown 10).scrollDown 65535) := rfl
  have hcount := lineCount_emptyObjects 65540
  have htop : (emptyObjects 65540).scroll = 0 := rfl
  obtain ⟨hexact, hremains⟩ := scrolls_of_run hrun
  refine ⟨_, hrun, rfl, ?_, ?_, hexact, hremains rfl (.inr nofun)⟩
  · rw [StatusArea.lineCount_scrollDown, StatusArea.lineCount_scrollDown, hcount]
  · rw [StatusArea.scroll_scrollDown, StatusArea.scroll_scrollDown,
      StatusArea.lineCount_scrollDown, hcount, htop, StatusArea.scrollLimit, maxScroll]
    omega

end Screen
end ClusterConsole
