import ClusterConsole.Json.Fault
import ClusterConsole.Text.Percent

/-!
# Strings in a JSON text

`Quoted.encode` writes a string: a quotation mark, a backslash and the controls below the blank are
escaped, and everything else stands for itself.  `Quoted.read` reads any string that JSON allows,
so also the escapes that are never written: `\/`, and code points as one escape of four
hexadecimal digits or as a pair of two.
-/

set_option autoImplicit false

namespace ClusterConsole
namespace Json
namespace Quoted

open Text.Percent (hexValue?)

/-- A hexadecimal digit in lower case. -/
def hexDigit (n : Nat) : Char := if n < 10 then Char.ofNat (48 + n) else Char.ofNat (87 + n)

/-- How one character is written in a string. -/
def encodeChar (c : Char) : List Char :=
  match c with
  | '"' => ['\\', '"']
  | '\\' => ['\\', '\\']
  | '\x08' => ['\\', 'b']
  | '\x0c' => ['\\', 'f']
  | '\n' => ['\\', 'n']
  | '\r' => ['\\', 'r']
  | '\t' => ['\\', 't']
  | c =>
    if c.toNat < 32 then ['\\', 'u', '0', '0', hexDigit (c.toNat / 16), hexDigit (c.toNat % 16)]
    else [c]

/-- A string between quotation marks. -/
def encode (s : List Char) : List Char := '"' :: (s.flatMap encodeChar ++ ['"'])

/-! ## Reading -/

/-- Reads the four hexadecimal digits of an escape.  Four bytes are taken even if they are no
digits. -/
def readCode (s : List Char) : Reading Nat :=
  match s with
  | a :: b :: c :: d :: rest =>
    match hexValue? a, hexValue? b, hexValue? c, hexValue? d with
    | some a, some b, some c, some d => .ok (((a * 16 + b) * 16 + c) * 16 + d, rest)
    | _, _, _, _ => .error ⟨.invalidEscape, Text.byteCount s - 4⟩
  | s =>
    if 4 ≤ Text.byteCount s then .error ⟨.invalidEscape, Text.byteCount s - 4⟩
    else .error ⟨.endOfString, 0⟩

/-- Is it the first half of a pair that stands for one code point? -/
def isHigh (n : Nat) : Bool := 0xd800 ≤ n && n ≤ 0xdbff

/-- Is it the second half of a pair that stands for one code point? -/
def isLow (n : Nat) : Bool := 0xdc00 ≤ n && n ≤ 0xdfff

/-- Reads the second half of a pair, after the first half `high`. -/
def readLow (high : Nat) : List Char → Reading Char
  | [] => .error ⟨.endOfString, 0⟩
  | '\\' :: [] => .error ⟨.endOfString, 0⟩
  | '\\' :: 'u' :: rest =>
    (readCode rest).andThen fun low rest ↦
      if isLow low then
        .ok (Char.ofNat (0x10000 + (high - 0xd800) * 0x400 + (low - 0xdc00)), rest)
      else .error (.before .loneSurrogate rest)
  | '\\' :: c :: rest => .error (.at .unfinishedEscape (c :: rest))
  | c :: rest => .error (.at .unfinishedEscape (c :: rest))

/-- Reads an escape after its backslash. -/
def readEscape : List Char → Reading Char
  | [] => .error ⟨.endOfString, 0⟩
  | '"' :: rest => .ok ('"', rest)
  | '\\' :: rest => .ok ('\\', rest)
  | '/' :: rest => .ok ('/', rest)
  | 'b' :: rest => .ok ('\x08', rest)
  | 'f' :: rest => .ok ('\x0c', rest)
  | 'n' :: rest => .ok ('\n', rest)
  | 'r' :: rest => .ok ('\r', rest)
  | 't' :: rest => .ok ('\t', rest)
  | 'u' :: rest =>
    (readCode rest).andThen fun n rest ↦
      if isLow n then .error (.before .loneSurrogate rest)
      else if isHigh n then readLow n rest
      else .ok (Char.ofNat n, rest)
  | c :: rest => .error (.at .invalidEscape (c :: rest))

/-- Reads a string after its opening quotation mark, up to the closing one; `done` holds its
characters so far, backwards.  Every step takes a character, so any number above the length of the
text is fuel enough. -/
def readFrom : (fuel : Nat) → (done : List Char) → List Char → Reading String
  | 0, _, _ => .error ⟨.endOfString, 0⟩
  | _ + 1, _, [] => .error ⟨.endOfString, 0⟩
  | _ + 1, done, '"' :: rest => .ok (String.ofList done.reverse, rest)
  | fuel + 1, done, '\\' :: rest =>
    (readEscape rest).andThen fun c rest ↦ readFrom fuel (c :: done) rest
  | fuel + 1, done, c :: rest =>
    if c.toNat < 32 then .error (.before .controlCharacter rest) else readFrom fuel (c :: done) rest

/-- Reads a string after its opening quotation mark. -/
def read (fuel : Nat) (s : List Char) : Reading String := readFrom fuel [] s

end Quoted
end Json
end ClusterConsole
