import ClusterConsole.Proofs.Json.NumberText
import ClusterConsole.Proofs.Json.Pretty
import ClusterConsole.Proofs.Text.Integer
import ClusterConsole.Proofs.Text.Lines

/-!
# The rows of a value

A value that is spread over lines makes a row for each item and member, and rows for the brackets
around them.  `Value.rows` says which rows those are, without writing any: how far each of them is
indented, whether it begins with the name of a member, what of the value stands on it, and whether a
comma follows.  `lines_pretty` says that these are the lines that are printed.

The rows of a value are made wherever it stands, so the proof goes through the value with any level,
name and comma (`join_rows`).
-/

set_option autoImplicit false

namespace ClusterConsole
namespace Json

open Text (join)

/-! ## Rows -/

/-- A pair of brackets. -/
inductive Bracket where
  | square
  | curly
  deriving DecidableEq, Repr

/-- The bracket at the beginning. -/
def Bracket.first : Bracket → Char
  | .square => '['
  | .curly => '{'

/-- The bracket at the end. -/
def Bracket.last : Bracket → Char
  | .square => ']'
  | .curly => '}'

/-- What of a value stands on one row: all of it, or a bracket of it. -/
inductive Content where
  | null
  | bool (b : Bool)
  | number (n : Number)
  | string (s : String)
  | opening (b : Bracket)
  | closing (b : Bracket)
  | hollow (b : Bracket)
  deriving DecidableEq, Repr

/-- How it is written. -/
def Content.text : Content → List Char
  | .null => ['n', 'u', 'l', 'l']
  | .bool true => ['t', 'r', 'u', 'e']
  | .bool false => ['f', 'a', 'l', 's', 'e']
  | .number n => n.text
  | .string s => Quoted.encode s.toList
  | .opening b => [b.first]
  | .closing b => [b.last]
  | .hollow b => [b.first, b.last]

/-- A row: its level, the name with which a member begins, what stands on it, and whether a comma
follows. -/
structure Row where
  level : Nat
  name : Option String
  content : Content
  comma : Bool
  deriving DecidableEq, Repr

namespace Row

/-- The blanks in front of a row. -/
def indent (r : Row) : List Char := List.replicate (2 * r.level) ' '

/-- The comma after a row, if there is one. -/
def commaText (comma : Bool) : List Char := if comma then [','] else []

/-- The name of a member with the colon and the blank after it. -/
def nameText (name : Option String) : List Char :=
  match name with
  | some name => Quoted.encode name.toList ++ [':', ' ']
  | none => []

/-- What stands on the row, with the comma. -/
def valueText (r : Row) : List Char := r.content.text ++ commaText r.comma

/-- How a row is written. -/
def text (r : Row) : List Char := r.indent ++ (nameText r.name ++ r.valueText)

end Row

mutual

/-- The rows of a value at a level, with the name and the comma that belong to it. -/
def Value.rows (level : Nat) (name : Option String) (comma : Bool) : Value → List Row
  | .null => [⟨level, name, .null, comma⟩]
  | .bool b => [⟨level, name, .bool b, comma⟩]
  | .number n => [⟨level, name, .number n, comma⟩]
  | .string s => [⟨level, name, .string s, comma⟩]
  | .array [] => [⟨level, name, .hollow .square, comma⟩]
  | .array items =>
    ⟨level, name, .opening .square, false⟩ ::
      (itemRows (level + 1) items ++ [⟨level, none, .closing .square, comma⟩])
  | .object [] => [⟨level, name, .hollow .curly, comma⟩]
  | .object members =>
    ⟨level, name, .opening .curly, false⟩ ::
      (memberRows (level + 1) members ++ [⟨level, none, .closing .curly, comma⟩])

/-- The rows of items; a comma follows each but the last. -/
def itemRows (level : Nat) : List Value → List Row
  | [] => []
  | [v] => v.rows level none false
  | v :: rest => v.rows level none true ++ itemRows level rest

/-- The rows of members; a comma follows each but the last. -/
def memberRows (level : Nat) : List (String × Value) → List Row
  | [] => []
  | [(name, v)] => v.rows level (some name) false
  | (name, v) :: rest => v.rows level (some name) true ++ memberRows level rest

end

/-- The rows of a value that stands on its own. -/
def Value.ownRows (v : Value) : List Row := v.rows 0 none false

/-! ## The lines that are printed -/

theorem rows_ne_nil (level : Nat) (name : Option String) (comma : Bool) (v : Value) :
    v.rows level name comma ≠ [] := by
  cases v with
  | array items => cases items <;> simp [Value.rows]
  | object members => cases members <;> simp [Value.rows]
  | _ => simp [Value.rows]

theorem itemRows_ne_nil (level : Nat) (v : Value) (rest : List Value) :
    itemRows level (v :: rest) ≠ [] := by
  cases rest <;> simp [itemRows, rows_ne_nil]

theorem memberRows_ne_nil (level : Nat) (m : String × Value) (rest : List (String × Value)) :
    memberRows level (m :: rest) ≠ [] := by
  cases rest <;> simp [memberRows, rows_ne_nil]

/-- Rows with a row before and one after them, all on lines of their own. -/
theorem join_around (first last : List Char) {l : List (List Char)} (h : l ≠ []) :
    join '\n' (first :: (l ++ [last])) = first ++ '\n' :: (join '\n' l ++ '\n' :: last) := by
  rw [Text.join_cons '\n' first (by simp), Text.join_append '\n' h (List.cons_ne_nil last [])]
  rfl

mutual

theorem join_rows (level : Nat) (name : Option String) (comma : Bool) : (v : Value) →
    join '\n' ((v.rows level name comma).map Row.text) =
      List.replicate (2 * level) ' ' ++
        (Row.nameText name ++ (v.prettyAt level ++ Row.commaText comma))
  | .null => rfl
  | .bool true => rfl
  | .bool false => rfl
  | .number n => rfl
  | .string s => rfl
  | .array [] => rfl
  | .object [] => rfl
  | .array (v :: rest) => by
    have hitems := join_itemRows (level + 1) (v :: rest) (List.cons_ne_nil v rest)
    rw [Value.rows, Value.prettyAt, ← hitems]
    · simp [join_around _ _ (List.map_eq_nil_iff.not.2 (itemRows_ne_nil (level + 1) v rest)),
        Row.text, Row.indent, Row.nameText, Row.valueText, Row.commaText, Content.text,
        Bracket.first, Bracket.last, breakTo]
    · simp
    · simp
  | .object (m :: rest) => by
    have hmembers := join_memberRows (level + 1) (m :: rest) (List.cons_ne_nil m rest)
    rw [Value.rows, Value.prettyAt, ← hmembers]
    · simp [join_around _ _ (List.map_eq_nil_iff.not.2 (memberRows_ne_nil (level + 1) m rest)),
        Row.text, Row.indent, Row.nameText, Row.valueText, Row.commaText, Content.text,
        Bracket.first, Bracket.last, breakTo]
    · simp
    · simp

theorem join_itemRows (level : Nat) : (items : List Value) → items ≠ [] →
    '\n' :: join '\n' ((itemRows level items).map Row.text) = prettyItems level items
  | [], h => absurd rfl h
  | [v], _ => by
    rw [itemRows, join_rows level none false v, prettyItems]
    simp [Row.nameText, Row.commaText, breakTo]
  | v :: w :: rest, _ => by
    have hrest := join_itemRows level (w :: rest) (List.cons_ne_nil w rest)
    rw [itemRows, prettyItems, ← hrest, List.map_append,
      Text.join_append '\n' (by simp [rows_ne_nil]) (by simp [itemRows_ne_nil]),
      join_rows level none true v]
    · simp [Row.nameText, Row.commaText, breakTo]
    · exact List.cons_ne_nil w rest
    · exact List.cons_ne_nil w rest

theorem join_memberRows (level : Nat) : (members : List (String × Value)) → members ≠ [] →
    '\n' :: join '\n' ((memberRows level members).map Row.text) = prettyMembers level members
  | [], h => absurd rfl h
  | [(name, v)], _ => by
    rw [memberRows, join_rows level (some name) false v, prettyMembers]
    simp [Row.nameText, nameText, Row.commaText, breakTo]
  | (name, v) :: m :: rest, _ => by
    have hrest := join_memberRows level (m :: rest) (List.cons_ne_nil m rest)
    rw [memberRows, prettyMembers, ← hrest, List.map_append,
      Text.join_append '\n' (by simp [rows_ne_nil]) (by simp [memberRows_ne_nil]),
      join_rows level (some name) true v]
    · simp [Row.nameText, nameText, Row.commaText, breakTo]
    · exact List.cons_ne_nil m rest
    · exact List.cons_ne_nil m rest

end

/-- There is something on every row. -/
theorem Content.text_ne_nil (c : Content) : c.text ≠ [] := by
  cases c with
  | bool b => cases b <;> exact List.cons_ne_nil _ _
  | number n =>
    obtain ⟨c, rest, hc, -⟩ := exists_text_eq_cons n
    exact ne_of_eq_of_ne hc (List.cons_ne_nil c rest)
  | _ => exact List.cons_ne_nil _ _

/-- What stands on a row does not begin with a blank. -/
theorem Content.not_blank_of_mem_head? (c : Content) :
    ∀ a ∈ c.text.head?, Text.isBlank a = false := by
  cases c with
  | number n =>
    obtain ⟨a, rest, htext, ha⟩ := exists_text_eq_cons n
    intro b hb
    have hab : a = b := by simpa [text, htext] using hb
    rcases hab ▸ ha with rfl | hdigit
    · rfl
    · exact Text.Numeral.not_blank_of_isDigit hdigit
  | null => rintro a ⟨⟩; rfl
  | string s => rintro a ⟨⟩; rfl
  | bool b => cases b <;> rintro a ⟨⟩ <;> rfl
  | opening b => cases b <;> rintro a ⟨⟩ <;> rfl
  | closing b => cases b <;> rintro a ⟨⟩ <;> rfl
  | hollow b => cases b <;> rintro a ⟨⟩ <;> rfl

/-- What stands on a row does not end with a comma. -/
theorem Content.ne_comma_of_mem_getLast? (c : Content) : ∀ a ∈ c.text.getLast?, a ≠ ',' := by
  cases c with
  | number n =>
    rintro a ha rfl
    exact absurd (isNumeral_of_mem_text (List.mem_of_mem_getLast? ha)) (by decide)
  | string s =>
    intro a ha
    rw [text, Quoted.encode, ← List.cons_append, List.getLast?_concat] at ha
    rcases ha with ⟨⟩
    decide
  | null => rintro a ⟨⟩; decide
  | bool b => cases b <;> rintro a ⟨⟩ <;> decide
  | opening b => cases b <;> rintro a ⟨⟩ <;> decide
  | closing b => cases b <;> rintro a ⟨⟩ <;> decide
  | hollow b => cases b <;> rintro a ⟨⟩ <;> decide

/-- Without its indent, a row begins with the name, or with what stands on it. -/
theorem Row.trimStart_text (r : Row) :
    Text.trimStart r.text = nameText r.name ++ r.valueText := by
  have hindent : ∀ c ∈ r.indent, Text.isBlank c = true := by
    intro c hc
    rw [List.eq_of_mem_replicate hc]
    rfl
  have hrest : ∀ c ∈ (nameText r.name ++ r.valueText).head?, Text.isBlank c = false := by
    cases r.name with
    | none =>
      obtain ⟨a, rest, htext⟩ := List.exists_cons_of_ne_nil r.content.text_ne_nil
      intro c hc
      have hhead := r.content.not_blank_of_mem_head?
      rw [htext] at hhead
      rw [nameText, valueText, htext] at hc
      exact hhead c hc
    | some name => rintro c ⟨⟩; rfl
  exact Text.dropWhile_append_eq hindent hrest

/-- Words can be looked through for controls. -/
theorem le_toNat_of_all {s : List Char} (h : s.all (fun a ↦ decide (32 ≤ a.toNat)) = true) :
    ∀ a ∈ s, 32 ≤ a.toNat :=
  fun a ha ↦ of_decide_eq_true (List.all_eq_true.1 h a ha)

/-- What stands on a row is written without controls. -/
theorem Content.le_toNat_of_mem_text {c : Content} {a : Char} (h : a ∈ c.text) : 32 ≤ a.toNat := by
  cases c with
  | number n =>
    have hnumeral := isNumeral_of_mem_text h
    simp only [isNumeral, Char.isDigit, Bool.or_eq_true, Bool.and_eq_true, decide_eq_true_eq,
      List.contains_iff_mem, List.mem_cons, List.not_mem_nil, or_false] at hnumeral
    rcases hnumeral with hdigit | rfl | rfl | rfl | rfl
    · exact Nat.le_trans (by decide) (UInt32.le_iff_toNat_le.1 hdigit.1)
    all_goals decide
  | string s => exact Quoted.le_toNat_of_mem_encode h
  | null => exact le_toNat_of_all rfl a h
  | bool b => cases b <;> exact le_toNat_of_all rfl a h
  | opening b => cases b <;> exact le_toNat_of_all rfl a h
  | closing b => cases b <;> exact le_toNat_of_all rfl a h
  | hollow b => cases b <;> exact le_toNat_of_all rfl a h

theorem Row.le_toNat_of_mem_text {r : Row} {c : Char} (h : c ∈ r.text) : 32 ≤ c.toNat := by
  have hpunctuation : ∀ c ∈ [',', ':', ' '], 32 ≤ c.toNat := le_toNat_of_all rfl
  simp only [text, indent, valueText, List.mem_append] at h
  rcases h with hindent | hname | hcontent | hcomma
  · exact hpunctuation c (List.eq_of_mem_replicate hindent ▸ by simp)
  · cases hr : r.name with
    | none => simp [nameText, hr] at hname
    | some name =>
      simp only [nameText, hr, List.mem_append] at hname
      rcases hname with hname | hcolon
      · exact Quoted.le_toNat_of_mem_encode hname
      · exact hpunctuation c (List.mem_cons_of_mem ',' hcolon)
  · exact Content.le_toNat_of_mem_text hcontent
  · rw [commaText] at hcomma
    split at hcomma
    · exact hpunctuation c (List.mem_singleton.1 hcomma ▸ by simp)
    · exact absurd hcomma List.not_mem_nil

theorem Row.isLine_text (r : Row) : Text.IsLine r.text where
  ne_nil := by simp [text, valueText, r.content.text_ne_nil]
  no_newline h := absurd (le_toNat_of_mem_text h) (by decide)
  no_return h := absurd (le_toNat_of_mem_text h) (by decide)

/-- **The lines of a value are its rows.** -/
theorem lines_pretty (v : Value) : Text.lines v.pretty = v.ownRows.map Row.text := by
  have hjoin := join_rows 0 none false v
  have hpretty : v.pretty = join '\n' (v.ownRows.map Row.text) := by
    simpa [Row.nameText, Row.commaText, Value.pretty, Value.ownRows] using hjoin.symm
  rw [hpretty]
  refine Text.lines_join fun s hs ↦ ?_
  obtain ⟨r, -, rfl⟩ := List.mem_map.1 hs
  exact r.isLine_text

end Json
end ClusterConsole
