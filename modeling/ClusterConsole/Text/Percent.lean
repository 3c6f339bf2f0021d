/-!
# Percent-encoding of one path segment

A namespace becomes one segment of a request path.  Letters, digits and the four marks `-`, `_`,
`.` and `~` stand for themselves; every other byte of the UTF-8 form is written as a percent sign
and two upper-case hexadecimal digits, so the segment has no slash, query mark or blank in it.
`decode` reads such a segment back as bytes.  `escape` does the same with another choice of
characters that stand for themselves, for the other parts of a URL.
-/

set_option autoImplicit false

namespace ClusterConsole
namespace Text
namespace Percent

/-- The characters that stand for themselves. -/
def isUnreserved (c : Char) : Bool :=
  c.isAlphanum || c == '-' || c == '_' || c == '.' || c == '~'

/-- The upper-case hexadecimal digit of a number below sixteen. -/
def hexDigit (n : Nat) : Char :=
  if n < 10 then Char.ofNat (48 + n) else Char.ofNat (55 + n)

/-- The value of a hexadecimal digit of either case. -/
def hexValue? (c : Char) : Option Nat :=
  if '0' ≤ c ∧ c ≤ '9' then some (c.toNat - 48)
  else if 'a' ≤ c ∧ c ≤ 'f' then some (c.toNat - 87)
  else if 'A' ≤ c ∧ c ≤ 'F' then some (c.toNat - 55)
  else none

/-- One byte written as a percent sign and two digits. -/
def encodeByte (b : UInt8) : List Char :=
  ['%', hexDigit (b.toNat / 16), hexDigit (b.toNat % 16)]

/-- One character: itself if it is to stay plain, else its bytes. -/
def escapeChar (plain : Char → Bool) (c : Char) : List Char :=
  if plain c then [c] else (String.utf8EncodeChar c).flatMap encodeByte

/-- A text with escapes for all characters that are not to stay plain. -/
def escape (plain : Char → Bool) (s : List Char) : List Char := s.flatMap (escapeChar plain)

/-- The percent-encoded segment of a text. -/
def encode (s : List Char) : List Char := escape isUnreserved s

/-- The bytes that a text with percent escapes stands for.  A percent sign that is not followed by
two hexadecimal digits stands for itself. -/
def decode : List Char → List UInt8
  | [] => []
  | '%' :: a :: b :: rest =>
    match hexValue? a, hexValue? b with
    | some x, some y => UInt8.ofNat (16 * x + y) :: decode rest
    | _, _ => String.utf8EncodeChar '%' ++ decode (a :: b :: rest)
  | c :: rest => String.utf8EncodeChar c ++ decode rest

end Percent
end Text
end ClusterConsole
