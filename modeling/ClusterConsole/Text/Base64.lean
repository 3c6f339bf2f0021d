/-!
# Bytes as letters

Three bytes are written as four characters of sixty-four, six bits each, the first bits first.  One
or two bytes at the end are filled up with zero bits, and marks stand for the characters that are
missing then.
-/

set_option autoImplicit false

namespace ClusterConsole
namespace Text
namespace Base64

/-- The character for six bits. -/
def letter (n : Nat) : Char :=
  if n < 26 then Char.ofNat (65 + n)
  else if n < 52 then Char.ofNat (97 + (n - 26))
  else if n < 62 then Char.ofNat (48 + (n - 52))
  else if n = 62 then '+'
  else '/'

/-- What stands for a missing character. -/
def mark : Char := '='

/-- Bytes as letters. -/
def encode : List UInt8 → List Char
  | [] => []
  | [a] => [letter (a.toNat / 4), letter (a.toNat % 4 * 16), mark, mark]
  | [a, b] =>
    [letter (a.toNat / 4), letter (a.toNat % 4 * 16 + b.toNat / 16), letter (b.toNat % 16 * 4),
      mark]
  | a :: b :: c :: rest =>
    letter (a.toNat / 4) :: letter (a.toNat % 4 * 16 + b.toNat / 16) ::
      letter (b.toNat % 16 * 4 + c.toNat / 64) :: letter (c.toNat % 64) :: encode rest

end Base64
end Text
end ClusterConsole
