import ClusterConsole.Json.Reader
import ClusterConsole.Proofs.Json.Decimal
import ClusterConsole.Proofs.Json.Quoted
import ClusterConsole.Text.Pieces

/-!
# Which texts say which value

`Writes d v s` says that the text `s` is a way of writing the value `v`, with arrays and objects
nested at most `d` deep.  Blanks may stand before every item and member, after the colon of a member
and before a closing bracket, so the texts with and without line breaks are both covered.  Numbers
are whole ones that fit a word, and zeros with a sign.

An item or a member is kept together with the blanks it is written with (`ItemText`, `MemberText`),
so that a list of them determines both the value and the text.
-/

set_option autoImplicit false

namespace ClusterConsole
namespace Json

open Text (join)

/-! ## Blanks -/

/-- Nothing but blanks. -/
def Blanks (s : List Char) : Prop := ∀ c ∈ s, isBlank c = true

theorem Blanks.nil : Blanks [] := nofun

theorem Blanks.space : Blanks [' '] := List.forall_mem_singleton.2 rfl

theorem blanks_breakTo (level : Nat) : Blanks (breakTo level) := by
  refine List.forall_mem_cons.2 ⟨rfl, fun c hc ↦ ?_⟩
  rw [List.eq_of_mem_replicate hc]
  rfl

theorem skipBlanks_append {pre : List Char} (h : Blanks pre) (s : List Char) :
    skipBlanks (pre ++ s) = skipBlanks s := List.dropWhile_append_of_pos h

theorem skipBlanks_cons {c : Char} (h : isBlank c = false) (s : List Char) :
    skipBlanks (c :: s) = c :: s := List.dropWhile_cons_of_neg (by simp [h])

/-- A blank does not continue a number. -/
theorem endsNumber_of_isBlank {c : Char} (h : isBlank c = true) (s : List Char) :
    EndsNumber (c :: s) := by
  rintro d ⟨⟩
  simp only [isBlank, Bool.or_eq_true, beq_iff_eq] at h
  rcases h with ((rfl | rfl) | rfl) | rfl <;> decide

theorem Blanks.endsNumber {post s : List Char} (h : Blanks post) (hs : EndsNumber s) :
    EndsNumber (post ++ s) := by
  cases post with
  | nil => exact hs
  | cons c post => exact endsNumber_of_isBlank (h c (List.mem_cons_self ..)) _

/-! ## The texts of values -/

/-- An item of an array as it is written. -/
structure ItemText where
  before : List Char
  value : Value
  text : List Char
  blanks_before : Blanks before

/-- The whole text of an item. -/
def ItemText.whole (i : ItemText) : List Char := i.before ++ i.text

/-- A member of an object as it is written. -/
structure MemberText where
  before : List Char
  name : String
  middle : List Char
  value : Value
  text : List Char
  blanks_before : Blanks before
  blanks_middle : Blanks middle

namespace MemberText

/-- The whole text of a member. -/
def whole (m : MemberText) : List Char :=
  m.before ++ (Quoted.encode m.name.toList ++ ':' :: (m.middle ++ m.text))

/-- The member that is written. -/
def member (m : MemberText) : String × Value := (m.name, m.value)

end MemberText

/-- The text is a way of writing the value, with arrays and objects nested at most `d` deep. -/
inductive Writes : (d : Nat) → Value → List Char → Prop
  | null {d : Nat} : Writes d .null ['n', 'u', 'l', 'l']
  | yes {d : Nat} : Writes d (.bool true) ['t', 'r', 'u', 'e']
  | no {d : Nat} : Writes d (.bool false) ['f', 'a', 'l', 's', 'e']
  | number {d : Nat} {n : Int} (hn : IsWord n) : Writes d (.number (.whole n)) (integerText n)
  | zero {d : Nat} (negative : Bool) :
      Writes d (.number (.real negative .zero)) (Number.real negative .zero).text
  | string {d : Nat} (s : String) : Writes d (.string s) (Quoted.encode s.toList)
  | array {d : Nat} {items : List ItemText} {post : List Char} (hpost : Blanks post)
      (hitems : ∀ i ∈ items, Writes d i.value i.text) :
      Writes (d + 1) (.array (items.map ItemText.value))
        ('[' :: (join ',' (items.map ItemText.whole) ++ (post ++ [']'])))
  | object {d : Nat} {members : List MemberText} {post : List Char} (hpost : Blanks post)
      (hmembers : ∀ m ∈ members, Writes d m.value m.text) :
      Writes (d + 1) (.ofMembers (members.map MemberText.member))
        ('{' :: (join ',' (members.map MemberText.whole) ++ (post ++ ['}'])))

/-- What begins an item or a member: no blank, and no bracket that closes. -/
def Begins (s : List Char) : Prop :=
  ∃ c t, s = c :: t ∧ isBlank c = false ∧ c ≠ ']' ∧ c ≠ '}'

theorem begins_integerText (n : Int) : Begins (integerText n) := by
  cases n with
  | negSucc m => exact ⟨'-', _, rfl, rfl, by decide, by decide⟩
  | ofNat m =>
    obtain ⟨c, ds, hds, -⟩ := exists_toDigits_eq_cons m
    have hc : c.isDigit = true := isDigit_of_mem_toDigits (n := m) (hds ▸ List.mem_cons_self ..)
    refine ⟨c, ds, hds, ?_, ?_, ?_⟩
    · refine Bool.eq_false_iff.2 fun hblank ↦ ?_
      have hdigit := (endsNumber_of_isBlank hblank [] c rfl).1
      exact nomatch hc.symm.trans hdigit
    · rintro rfl
      exact nomatch hc
    · rintro rfl
      exact nomatch hc

theorem Writes.begins {d : Nat} {v : Value} {s : List Char} (h : Writes d v s) : Begins s := by
  cases h with
  | number hn => exact begins_integerText _
  | zero negative => cases negative <;> exact ⟨_, _, rfl, rfl, by decide, by decide⟩
  | _ => exact ⟨_, _, rfl, rfl, by decide, by decide⟩

theorem Begins.append {s : List Char} (h : Begins s) (t : List Char) : Begins (s ++ t) := by
  obtain ⟨c, u, rfl, hc⟩ := h
  exact ⟨c, u ++ t, rfl, hc⟩

theorem Begins.skipBlanks_eq {s : List Char} (h : Begins s) : skipBlanks s = s := by
  obtain ⟨c, t, rfl, hc, -⟩ := h
  exact skipBlanks_cons hc t

theorem Begins.length_pos {s : List Char} (h : Begins s) : 0 < s.length := by
  obtain ⟨c, t, rfl, -⟩ := h
  exact Nat.succ_pos _

end Json
end ClusterConsole
