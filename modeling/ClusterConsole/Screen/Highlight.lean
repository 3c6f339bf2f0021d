import ClusterConsole.Screen.Line
import ClusterConsole.Text.Decimal

/-!
# Colours for JSON

The details of a result are JSON spread over lines, and each line is coloured on its own: the name
of a member, and the value by its kind.  Nothing is added to the line but a blank before it.

`splitName?` finds the name of a member: a quoted text at the front of the line with a colon and a
blank after it.  Quotation marks within the name have a backslash before them.
-/

set_option autoImplicit false

namespace ClusterConsole
namespace Screen

/-- Takes the text up to the quotation mark that closes it; `taken` holds what was taken,
backwards, and `escaped` is set after a backslash that is not itself escaped. -/
def closeQuote (taken : List Char) (escaped : Bool) : List Char → Option (List Char × List Char)
  | [] => none
  | c :: rest =>
    if c = '\\' ∧ ¬escaped then closeQuote (c :: taken) true rest
    else if c = '"' ∧ ¬escaped then some ((c :: taken).reverse, rest)
    else closeQuote (c :: taken) false rest

/-- Splits a line without its indent into the quoted name of a member and its value. -/
def splitName? : List Char → Option (List Char × List Char)
  | '"' :: rest =>
    match closeQuote ['"'] false rest with
    | some (name, ':' :: ' ' :: value) => some (name, value)
    | _ => none
  | _ => none

/-- A value without the commas after it. -/
def dropCommas (value : List Char) : List Char := (value.reverse.dropWhile (· == ',')).reverse

/-- The style of a value: by whether it is a string, a truth value, null, a number, or a bracket. -/
def valueStyle (value : List Char) : Style :=
  let v := dropCommas value
  if v.head? = some '"' then .of .green
  else if v = ['t', 'r', 'u', 'e'] ∨ v = ['f', 'a', 'l', 's', 'e'] then .of .magenta
  else if v = ['n', 'u', 'l', 'l'] then .of .darkGray
  else if Text.isNumber v then .of .lightBlue
  else .plain

/-- A value in its style. -/
def valueSpan (value : List Char) : Span := ⟨value, valueStyle value⟩

/-- A line of JSON in colours. -/
def highlight (line : List Char) : Line :=
  let indent : Span := ⟨' ' :: Text.indent line, .plain⟩
  let rest := Text.trimStart line
  match splitName? rest with
  | some (name, value) => [indent, ⟨name, .of .cyan⟩, .raw ": ", valueSpan value]
  | none => [indent, valueSpan rest]

end Screen
end ClusterConsole
