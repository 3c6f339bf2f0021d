import ClusterConsole.Proofs.Json.Rows
import ClusterConsole.Proofs.Text.Cut
import ClusterConsole.Screen.Highlight

/-!
# Colouring leaves the text alone, and tells values by their kind

Two things are shown about a line of JSON in colours.

* Whatever the line is, nothing of it is lost and nothing comes in but the blank at the front
  (`Faithful`).  Lines are cut at places that are counted in bytes, so it also has to be said that
  a character ends wherever a line is cut (`CutAt`).
* The lines of a value that is spread over lines are coloured by what stands on them
  (`Coloured`): a name is found on exactly those lines that begin with the name of a member,
  and the colour is the one of the kind of the value.

For the second it matters where a quoted text ends.  What is written for a character of a string
never closes the string (`closeQuote_encodeChar`), so the mark that is found is the one at its end
(`closeQuote_encode`), however many backslashes, marks and colons there are in the string.
-/

set_option autoImplicit false

namespace ClusterConsole
namespace Screen

open Text (CutAt byteCount byteCount_append cutAt_append indent trimStart)

/-! ## The name at the front of a line -/

/-- The byte at which the quotation mark stands that closes a text, where `i` bytes come before
what is left. -/
def closingFrom? (i : Nat) (escaped : Bool) : List Char → Option Nat
  | [] => none
  | c :: rest =>
    if c = '\\' ∧ ¬escaped then closingFrom? (i + c.utf8Size) true rest
    else if c = '"' ∧ ¬escaped then some i
    else closingFrom? (i + c.utf8Size) false rest

/-- The byte at which the quotation mark stands that closes the quoted text at the front. -/
def closingAt? : List Char → Option Nat
  | '"' :: rest => closingFrom? 1 false rest
  | _ => none

/-- What comes after a colon and a blank. -/
def afterColon? : List Char → Option (List Char)
  | ':' :: ' ' :: value => some value
  | _ => none

/-- A text is taken up to the quotation mark at the byte that closes it, if there is one. -/
theorem closeQuote_cases (i : Nat) (escaped : Bool) (taken s : List Char) :
    (closingFrom? i escaped s = none ∧ closeQuote taken escaped s = none) ∨
      ∃ quoted rest, s = quoted ++ '"' :: rest ∧
        closingFrom? i escaped s = some (i + byteCount quoted) ∧
        closeQuote taken escaped s = some (taken.reverse ++ (quoted ++ ['"']), rest) := by
  induction s generalizing i escaped taken with
  | nil => exact .inl ⟨rfl, rfl⟩
  | cons c s ih =>
    -- a character that does not close the text is one more that is taken
    have htake : ∀ escaped', (closingFrom? (i + c.utf8Size) escaped' s = none ∧
        closeQuote (c :: taken) escaped' s = none) ∨
        ∃ quoted rest, c :: s = quoted ++ '"' :: rest ∧
          closingFrom? (i + c.utf8Size) escaped' s = some (i + byteCount quoted) ∧
          closeQuote (c :: taken) escaped' s = some (taken.reverse ++ (quoted ++ ['"']), rest) := by
      intro escaped'
      refine (ih (i + c.utf8Size) escaped' (c :: taken)).imp id ?_
      rintro ⟨quoted, rest, rfl, hat, htaken⟩
      refine ⟨c :: quoted, rest, rfl, ?_, ?_⟩
      · rw [hat, Nat.add_assoc]
        rfl
      · rw [htaken, List.reverse_cons, List.append_assoc]
        rfl
    simp only [closingFrom?, closeQuote]
    split
    · exact htake true
    split
    · next hquote =>
      refine .inr ⟨[], s, by rw [hquote.1]; rfl, rfl, ?_⟩
      rw [List.reverse_cons, hquote.1]
      rfl
    · exact htake false

theorem splitName?_of_closeQuote {s quoted rest : List Char}
    (h : closeQuote ['"'] false s = some (quoted, rest)) :
    splitName? ('"' :: s) = (afterColon? rest).map fun value ↦ (quoted, value) := by
  rw [splitName?, h]
  by_cases hcolon : ∃ value, rest = ':' :: ' ' :: value
  · obtain ⟨value, rfl⟩ := hcolon
    rfl
  · rw [afterColon?.eq_2 rest fun value hvalue ↦ hcolon ⟨value, hvalue⟩]
    split
    · next hpair =>
      cases hpair
      exact absurd ⟨_, rfl⟩ hcolon
    · rfl

/-- A name is split off behind the mark that closes the quoted text at the front, if there is
one. -/
theorem splitName?_cases (s : List Char) :
    (closingAt? s = none ∧ splitName? s = none) ∨
      ∃ i quoted rest, s = quoted ++ rest ∧ closingAt? s = some i ∧ byteCount quoted = i + 1 ∧
        splitName? s = (afterColon? rest).map fun value ↦ (quoted, value) := by
  by_cases hs : ∃ t, s = '"' :: t
  · obtain ⟨t, rfl⟩ := hs
    rcases closeQuote_cases 1 false ['"'] t with ⟨hat, htaken⟩ | ⟨quoted, rest, rfl, hat, htaken⟩
    · exact .inl ⟨hat, by rw [splitName?, htaken]⟩
    · refine .inr ⟨_, '"' :: (quoted ++ ['"']), rest, by simp, hat, ?_,
        splitName?_of_closeQuote htaken⟩
      have hlast := byteCount_append ('"' :: quoted) ['"']
      exact hlast.trans (congrArg (· + 1) (byteCount_append ['"'] quoted))
  · exact .inl ⟨closingAt?.eq_2 s fun t ht ↦ hs ⟨t, ht⟩, splitName?.eq_2 s fun t ht ↦ hs ⟨t, ht⟩⟩

/-- How the name of a member is cut off. -/
structure NameCut (s : List Char) : Prop where
  /-- The quoted text at the front is cut off behind the byte of the mark that closes it.  It is a
  name if a colon and a blank come after it, and what follows them is the value. -/
  closed : ∀ i, closingAt? s = some i → ∃ quoted rest, CutAt (i + 1) s quoted rest ∧
    splitName? s = (afterColon? rest).map fun value ↦ (quoted, value)
  /-- Without such a mark there is no name. -/
  unclosed : closingAt? s = none → splitName? s = none

theorem nameCut (s : List Char) : NameCut s := by
  rcases splitName?_cases s with ⟨hnone, hname⟩ | ⟨i, quoted, rest, rfl, hat, hcount, hname⟩
  · exact ⟨fun i hi ↦ absurd (hnone.symm.trans hi) nofun, fun _ ↦ hname⟩
  · refine ⟨fun k hk ↦ ?_, fun hnone ↦ absurd (hat.symm.trans hnone) nofun⟩
    cases hat.symm.trans hk
    exact ⟨quoted, rest, hcount ▸ cutAt_append quoted rest, hname⟩

/-- A name that is found, with the colon, the blank and the value, makes up the text. -/
theorem eq_of_splitName? {s name value : List Char} (h : splitName? s = some (name, value)) :
    s = name ++ (':' :: ' ' :: value) := by
  rcases splitName?_cases s with ⟨-, hname⟩ | ⟨i, quoted, rest, rfl, -, -, hname⟩
  · exact absurd (hname.symm.trans h) nofun
  · rw [hname, Option.map_eq_some_iff] at h
    obtain ⟨value', hvalue, hpair⟩ := h
    cases hpair
    rw [afterColon?.eq_def] at hvalue
    split at hvalue
    · cases hvalue
      rfl
    · exact nomatch hvalue

/-! ## Any line -/

/-- A line in colours is the line, and it is cut only where a character ends. -/
structure Faithful (line : List Char) : Prop where
  /-- The texts of the spans are a blank and the line. -/
  text_eq : (highlight line).flatMap Span.text = ' ' :: line
  /-- The indent is cut off where the rest begins. -/
  indent_cut :
    CutAt (byteCount line - byteCount (trimStart line)) line (indent line) (trimStart line)
  /-- The rest is cut where a name ends. -/
  name_cut : NameCut (trimStart line)

theorem flatMap_text_highlight (line : List Char) :
    (highlight line).flatMap Span.text = ' ' :: line := by
  have hline := Text.indent_append_trimStart line
  rw [highlight]
  split
  · next name value hsplit =>
    have hcolon : (Span.raw ": ").text = [':', ' '] := rfl
    rw [eq_of_splitName? hsplit] at hline
    simpa [valueSpan, hcolon] using hline
  · simpa [valueSpan] using hline

/-- **Whatever a line is, its text is kept, and no character of it is cut apart.** -/
theorem faithful (line : List Char) : Faithful line where
  text_eq := flatMap_text_highlight line
  indent_cut := by
    have hcut := cutAt_append (indent line) (trimStart line)
    have hcount := byteCount_append (indent line) (trimStart line)
    rw [Text.indent_append_trimStart] at hcut hcount
    have hindent : byteCount line - byteCount (trimStart line) = byteCount (indent line) := by omega
    exact hindent ▸ hcut
  name_cut := nameCut (trimStart line)

/-! ## Quoted strings -/

open Json (Quoted.encode Quoted.encodeChar Quoted.hexDigit)

/-- What is written for a character does not close the text. -/
theorem closeQuote_encodeChar (taken : List Char) (c : Char) (rest : List Char) :
    closeQuote taken false (Quoted.encodeChar c ++ rest) =
      closeQuote ((Quoted.encodeChar c).reverse ++ taken) false rest := by
  fun_cases Quoted.encodeChar c with
  | case8 _ _ _ _ _ _ _ _ hcontrol =>
    have hdigit : ∀ n < 16, Quoted.hexDigit n ≠ '\\' ∧ Quoted.hexDigit n ≠ '"' := by decide
    have hfirst := hdigit (c.toNat / 16) (by omega)
    have hsecond := hdigit (c.toNat % 16) (by omega)
    simp [closeQuote, hfirst, hsecond]
  | case9 _ hquote hbackslash =>
    rw [List.cons_append, closeQuote, if_neg (fun h ↦ hbackslash h.1), if_neg (fun h ↦ hquote h.1)]
    rfl
  | _ => rfl

/-- A quoted string is taken up to its end. -/
theorem closeQuote_encode (s rest : List Char) :
    closeQuote ['"'] false (s.flatMap Quoted.encodeChar ++ '"' :: rest) =
      some (Quoted.encode s, rest) := by
  have htake : ∀ taken, closeQuote taken false (s.flatMap Quoted.encodeChar ++ '"' :: rest) =
      some (taken.reverse ++ (s.flatMap Quoted.encodeChar ++ ['"']), rest) := by
    induction s with
    | nil =>
      intro taken
      simp [closeQuote]
    | cons c s ih =>
      intro taken
      rw [List.flatMap_cons, List.append_assoc, closeQuote_encodeChar, ih]
      simp
  exact htake ['"']

theorem splitName?_encode (s rest : List Char) :
    splitName? (Quoted.encode s ++ rest) =
      (afterColon? rest).map fun value ↦ (Quoted.encode s, value) := by
  rw [Json.Quoted.encode_append]
  exact splitName?_of_closeQuote (closeQuote_encode s rest)

/-! ## The lines of a value -/

open Json (Content Row)

/-- The style in which what stands on a row is drawn. -/
def contentStyle : Content → Style
  | .string _ => .of .green
  | .bool _ => .of .magenta
  | .null => .of .darkGray
  | .number _ => .of .lightBlue
  | .opening _ | .closing _ | .hollow _ => .plain

/-- The commas that are dropped are not part of what stands on a row. -/
theorem dropCommas_valueText (r : Row) : dropCommas r.valueText = r.content.text := by
  have hcomma : ∀ c ∈ (Row.commaText r.comma).reverse, (c == ',') = true := by
    rw [Row.commaText]
    split
    · exact List.forall_mem_singleton.2 rfl
    · exact List.forall_mem_nil _
  have hend : ∀ c ∈ r.content.text.reverse.head?, (c == ',') = false := by
    rw [List.head?_reverse]
    exact fun c hc ↦ beq_eq_false_iff_ne.2 (r.content.ne_comma_of_mem_getLast? c hc)
  rw [dropCommas, Row.valueText, List.reverse_append, Text.dropWhile_append_eq hcomma hend,
    List.reverse_reverse]

theorem valueStyle_valueText (r : Row) : valueStyle r.valueText = contentStyle r.content := by
  rw [valueStyle, dropCommas_valueText]
  cases r.content with
  | number n =>
    obtain ⟨c, rest, htext, hc⟩ := Json.exists_text_eq_cons n
    have hne : ∀ d s, d ≠ '-' → d.isDigit = false → n.text ≠ d :: s := by
      intro d s hminus hdigit hd
      rw [htext, List.cons.injEq] at hd
      rcases hd.1 ▸ hc with rfl | hc
      · exact hminus rfl
      · exact absurd hc (by simp [hdigit])
    have hquote : n.text.head? ≠ some '"' := fun h ↦ by
      obtain ⟨s, hs⟩ := List.head?_eq_some_iff.1 h
      exact hne '"' s (by decide) rfl hs
    have hword : ¬(n.text = ['t', 'r', 'u', 'e'] ∨ n.text = ['f', 'a', 'l', 's', 'e']) :=
      not_or.2 ⟨hne 't' _ (by decide) rfl, hne 'f' _ (by decide) rfl⟩
    have hnull : n.text ≠ ['n', 'u', 'l', 'l'] := hne 'n' _ (by decide) rfl
    simp only [Content.text, if_neg hquote, if_neg hword, if_neg hnull, Json.isNumber_text,
      if_true, contentStyle]
  | null => rfl
  | string s => rfl
  | bool b => cases b <;> rfl
  | opening b => cases b <;> decide
  | closing b => cases b <;> decide
  | hollow b => cases b <;> decide

/-- A name is found on a row if the row has one, and what is found is that name and what stands on
the row. -/
theorem splitName?_text (r : Row) : splitName? (trimStart r.text) =
    r.name.map fun name ↦ (Quoted.encode name.toList, r.valueText) := by
  rw [r.trimStart_text]
  cases r.name with
  | some name =>
    rw [Row.nameText, List.append_assoc, splitName?_encode]
    rfl
  | none =>
    -- without a name, only a string begins with a quotation mark, and no colon comes after it
    rw [Row.nameText, List.nil_append]
    cases hcontent : r.content with
    | string s =>
      rw [Row.valueText, hcontent, Content.text, splitName?_encode, Row.commaText]
      split <;> rfl
    | number n =>
      obtain ⟨c, rest, htext, hc⟩ := Json.exists_text_eq_cons n
      rw [Row.valueText, hcontent, Content.text, htext]
      refine splitName?.eq_2 _ fun t ht ↦ ?_
      cases ht
      exact absurd hc (by decide)
    | null => rw [Row.valueText, hcontent]; rfl
    | bool b => cases b <;> rw [Row.valueText, hcontent] <;> rfl
    | opening b => cases b <;> rw [Row.valueText, hcontent] <;> rfl
    | closing b => cases b <;> rw [Row.valueText, hcontent] <;> rfl
    | hollow b => cases b <;> rw [Row.valueText, hcontent] <;> rfl

/-- The last span of a row is what stands on it. -/
theorem getLast?_highlight (r : Row) :
    (highlight r.text).getLast? = some ⟨r.valueText, contentStyle r.content⟩ := by
  rw [highlight, splitName?_text, ← valueStyle_valueText]
  cases hname : r.name with
  | some name => rfl
  | none =>
    rw [Option.map_none, r.trimStart_text, hname]
    rfl

/-- How a row of a value is coloured. -/
structure Coloured (r : Row) : Prop where
  /-- A name is found just on the rows that have one: all of the name as it is written, and
  everything that comes after the colon and the blank. -/
  splitName?_eq : splitName? (trimStart r.text) =
    r.name.map fun name ↦ (Quoted.encode name.toList, r.valueText)
  /-- The value is in one style, with the comma after it. -/
  value : ∃ style, (highlight r.text).getLast? = some ⟨r.valueText, style⟩ ∧
    (style = .of .green ↔ ∃ s, r.content = .string s) ∧
    (style = .of .magenta ↔ ∃ b, r.content = .bool b) ∧
    (style = .of .darkGray ↔ r.content = .null) ∧
    (style = .of .lightBlue ↔ ∃ n, r.content = .number n) ∧
    (style = .plain ↔ ∃ b, r.content = .opening b ∨ r.content = .closing b ∨ r.content = .hollow b)

/-- **A row is coloured by its name and by the kind of what stands on it.** -/
theorem coloured (r : Row) : Coloured r where
  splitName?_eq := splitName?_text r
  value := by
    refine ⟨_, getLast?_highlight r, ?_⟩
    cases r.content <;> simp [contentStyle, Style.of, Style.plain]

/-- **Highlighting keeps every line, cuts it only where a character ends, and colours the lines of a
value by what stands on them.** -/
theorem highlighting (line : List Char) (v : Json.Value) :
    Faithful line ∧ Text.lines v.prettyString.toList = v.ownRows.map Row.text ∧
      ∀ r ∈ v.ownRows, Coloured r := by
  refine ⟨faithful line, ?_, fun r _ ↦ coloured r⟩
  rw [Json.Value.prettyString, String.toList_ofList, Json.lines_pretty]

end Screen
end ClusterConsole
