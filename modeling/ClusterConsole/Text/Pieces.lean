/-!
# Cutting a text at a character

`pieces` cuts a text at every occurrence of a character.  There is always one piece more than there
are cuts, and `join` puts them together again.
-/

set_option autoImplicit false

namespace ClusterConsole
namespace Text

/-- The pieces of a text between the occurrences of a character. -/
def pieces (mark : Char) : List Char → List (List Char)
  | [] => [[]]
  | c :: rest =>
    if c = mark then [] :: pieces mark rest
    else
      match pieces mark rest with
      | [] => [[c]]
      | first :: others => (c :: first) :: others

/-- Puts pieces together, with a character between them. -/
def join (mark : Char) : List (List Char) → List Char
  | [] => []
  | [piece] => piece
  | piece :: rest => piece ++ mark :: join mark rest

theorem pieces_ne_nil (mark : Char) (s : List Char) : pieces mark s ≠ [] := by
  cases s with
  | nil => simp [pieces]
  | cons c rest =>
    simp only [pieces]
    split
    · simp
    · split <;> simp

/-- A piece in front of others is followed by a cut. -/
theorem join_cons (mark : Char) (piece : List Char) {rest : List (List Char)} (h : rest ≠ []) :
    join mark (piece :: rest) = piece ++ mark :: join mark rest := by
  cases rest with
  | nil => exact absurd rfl h
  | cons _ _ => rfl

/-- A character at the front of the first piece is one at the front of the text. -/
theorem join_cons_cons (mark c : Char) (first : List Char) (others : List (List Char)) :
    join mark ((c :: first) :: others) = c :: join mark (first :: others) := by
  cases others <;> rfl

/-- Cutting loses nothing. -/
theorem join_pieces (mark : Char) (s : List Char) : join mark (pieces mark s) = s := by
  induction s with
  | nil => rfl
  | cons c rest ih =>
    rw [pieces]
    split
    case isTrue h =>
      rw [join_cons mark [] (pieces_ne_nil mark rest), ih, h, List.nil_append]
    case isFalse h =>
      split
      case h_1 hp => exact absurd hp (pieces_ne_nil mark rest)
      case h_2 first others hp => rw [join_cons_cons, ← hp, ih]

end Text
end ClusterConsole
