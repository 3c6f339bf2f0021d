import ClusterConsole.Text.Property.Extending
import ClusterConsole.Text.Property.Unprintable

/-!
# Quoted texts

Log entries and error messages show a text between quotation marks, so that its ends and every
character in it can be seen.  A quotation mark and a backslash get a backslash before them, the
usual controls are written by their letters, and any other character that would not print, or
would join the one before it, is written by its code point in hexadecimal.
-/

set_option autoImplicit false

namespace ClusterConsole
namespace Text
namespace Quoted

/-- A code point in braces, in lower-case hexadecimal. -/
def codePoint (c : Char) : List Char :=
  ['\\', 'u', '{'] ++ Nat.toDigits 16 c.toNat ++ ['}']

/-- How one character is written inside the quotation marks. -/
def encodeChar (c : Char) : List Char :=
  match c with
  | '"' => ['\\', '"']
  | '\\' => ['\\', '\\']
  | '\n' => ['\\', 'n']
  | '\r' => ['\\', 'r']
  | '\t' => ['\\', 't']
  | '\x00' => ['\\', '0']
  | c => if isExtending c || isUnprintable c then codePoint c else [c]

/-- A text between quotation marks. -/
def encode (s : List Char) : List Char := '"' :: (s.flatMap encodeChar ++ ['"'])

end Quoted

/-- A text between quotation marks, with escapes for what would not show. -/
def quoted (s : String) : String := String.ofList (Quoted.encode s.toList)

end Text
end ClusterConsole
