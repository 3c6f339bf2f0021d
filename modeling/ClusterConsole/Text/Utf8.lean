/-!
# Reading bytes as UTF-8

What a server sends, and what a file holds, are bytes.  `decode` reads them as UTF-8 and never
fails: every longest run of bytes that could begin a character but does not finish one is read as
one replacement character.  `decode?` is the strict reading, which fails on any such run.

A character is recognised from its first byte, which fixes how many bytes follow and in which range
the second must lie; the remaining ones lie between `0x80` and `0xbf`.
-/

set_option autoImplicit false

namespace ClusterConsole
namespace Text
namespace Utf8

/-- The character that stands for bytes that are no character. -/
def replacement : Char := '\uFFFD'

/-- What the first byte of a character of several bytes announces: how many bytes follow, the range
of the second byte, and the bits of the code point it carries. -/
structure Lead where
  following : Nat
  low : Nat
  high : Nat
  bits : Nat

/-- Reads the first byte of a character of several bytes.  The ranges of the second byte keep out
overlong forms, surrogates and numbers beyond the last code point. -/
def lead? (b : Nat) : Option Lead :=
  if 0xc2 ≤ b && b ≤ 0xdf then some ⟨1, 0x80, 0xbf, b - 0xc0⟩
  else if b == 0xe0 then some ⟨2, 0xa0, 0xbf, 0⟩
  else if b == 0xed then some ⟨2, 0x80, 0x9f, 0xd⟩
  else if 0xe1 ≤ b && b ≤ 0xef then some ⟨2, 0x80, 0xbf, b - 0xe0⟩
  else if b == 0xf0 then some ⟨3, 0x90, 0xbf, 0⟩
  else if 0xf1 ≤ b && b ≤ 0xf3 then some ⟨3, 0x80, 0xbf, b - 0xf0⟩
  else if b == 0xf4 then some ⟨3, 0x80, 0x8f, 4⟩
  else none

/-- The part of a character that has been read: how many bytes are still to come, in which range
the next one must lie, and the bits so far. -/
structure Open where
  missing : Nat
  low : Nat
  high : Nat
  bits : Nat

/-- What the start of a character, or a single byte, is read as. -/
inductive Start where
  | char (c : Char)
  | several (o : Open)
  | invalid

/-- Reads the first byte of a character. -/
def start (b : UInt8) : Start :=
  if b.toNat < 0x80 then .char (Char.ofNat b.toNat)
  else match lead? b.toNat with
    | some l => .several ⟨l.following, l.low, l.high, l.bits⟩
    | none => .invalid

/-- The characters read from bytes, with `none` for each run that is no character.  The second
argument is the open character, if a byte has begun one. -/
def scan (done : List (Option Char)) : Option Open → List UInt8 → List (Option Char)
  | none, [] => done.reverse
  | some _, [] => (none :: done).reverse
  | none, b :: rest =>
    match start b with
    | .char c => scan (some c :: done) none rest
    | .several o => scan done (some o) rest
    | .invalid => scan (none :: done) none rest
  | some o, b :: rest =>
    if o.low ≤ b.toNat && b.toNat ≤ o.high then
      let bits := o.bits * 64 + (b.toNat - 0x80)
      if o.missing ≤ 1 then scan (some (Char.ofNat bits) :: done) none rest
      else scan done (some ⟨o.missing - 1, 0x80, 0xbf, bits⟩) rest
    else
      match start b with
      | .char c => scan (some c :: none :: done) none rest
      | .several o => scan (none :: done) (some o) rest
      | .invalid => scan (none :: none :: done) none rest

/-- Bytes as text, with a replacement character for each run that is no character. -/
def decode (bytes : List UInt8) : List Char :=
  (scan [] none bytes).map fun c ↦ c.getD replacement

/-- Bytes as text, if every one of them belongs to a character. -/
def decode? (bytes : List UInt8) : Option (List Char) :=
  (scan [] none bytes).mapM id

end Utf8

/-- The UTF-8 bytes of a text. -/
def utf8 (s : List Char) : List UInt8 := s.flatMap String.utf8EncodeChar

/-- The number of UTF-8 bytes of a text. -/
def byteCount (s : List Char) : Nat := s.foldr (fun c n ↦ c.utf8Size + n) 0

end Text
end ClusterConsole
