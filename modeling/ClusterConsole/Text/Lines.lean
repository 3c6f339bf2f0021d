/-!
# Lines of a text

A text is cut at its newlines.  A carriage return right before a newline belongs to the line
break, and a newline at the very end opens no further line, so the empty text has no lines.
-/

set_option autoImplicit false

namespace ClusterConsole
namespace Text

/-- Drops one carriage return at the end of a line that a newline closed; the line is given
backwards, and comes out forwards. -/
def closeLine : List Char → List Char
  | '\r' :: rest => rest.reverse
  | line => line.reverse

/-- The lines of what is left of a text, where `current` holds the open line backwards and `done`
the closed lines backwards.  The last line keeps its carriage return, since no newline closes
it. -/
def linesFrom (done : List (List Char)) (current : List Char) : List Char → List (List Char)
  | [] => (if current.isEmpty then done else current.reverse :: done).reverse
  | '\n' :: rest => linesFrom (closeLine current :: done) [] rest
  | c :: rest => linesFrom done (c :: current) rest

/-- The lines of a text, without their line breaks. -/
def lines (s : List Char) : List (List Char) := linesFrom [] [] s

end Text
end ClusterConsole
