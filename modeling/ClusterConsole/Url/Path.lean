import ClusterConsole.Text.Percent
import ClusterConsole.Text.Pieces

/-!
# Paths of URLs

A path is a list of segments.  The segments `.` and `..` are not kept: the one stands for where the
path has got to, and the other goes back by one segment, though never past the first or past the
letter of a drive.  A dot may be written as a percent escape.  Characters that cannot be in a path
are percent-encoded; escapes that are there are left alone.
-/

set_option autoImplicit false

namespace ClusterConsole
namespace Url

/-- The printing ASCII characters but the blank. -/
def isVisible (c : Char) : Bool := 0x21 ≤ c.toNat && c.toNat ≤ 0x7e

/-- The characters that stay plain in a fragment. -/
def isFragmentPlain (c : Char) : Bool := isVisible c && c ∉ ['"', '<', '>', '\x60']

/-- The characters that stay plain in a path. -/
def isPathPlain (c : Char) : Bool := isFragmentPlain c && c ∉ ['#', '?', '{', '}']

/-- The characters that stay plain in a user name or a password. -/
def isUserPlain (c : Char) : Bool :=
  isPathPlain c && c ∉ ['/', ':', ';', '=', '@', '[', '\\', ']', '^', '|']

/-- The characters that stay plain in a query; an apostrophe does not where the scheme is
special. -/
def isQueryPlain (special : Bool) (c : Char) : Bool :=
  isVisible c && c ∉ ['"', '#', '<', '>'] && !(special && c == '\'')

namespace Path

/-- Resolves the escapes of points, and makes no difference between the two cases of a letter. -/
def pointsOf : List Char → List Char
  | '%' :: '2' :: e :: rest =>
    if e.toLower = 'e' then '.' :: pointsOf rest else '%' :: '2' :: e :: rest
  | '.' :: rest => '.' :: pointsOf rest
  | s => s

/-- Does a segment stay where the path has got to? -/
def isHere (s : List Char) : Bool := pointsOf s == ['.']

/-- Does a segment go back by one? -/
def isBack (s : List Char) : Bool := pointsOf s == ['.', '.']

/-- Is it the letter of a drive? -/
def isDrive : List Char → Bool
  | [c, m] => c.isAlpha && (m == ':' || m == '|')
  | _ => false

/-- Goes back by one segment; the last segment comes first. -/
def goBack : List (List Char) → List (List Char)
  | [] => []
  | last :: rest => if isDrive last then last :: rest else rest

/-- Goes along segments, from where the path has got to; that is held with the last segment first.
Where the last one names no segment of its own, the path ends in a slash. -/
def follow (done : List (List Char)) : List (List Char) → List (List Char)
  | [] => done.reverse
  | [s] =>
    if isBack s then ([] :: goBack done).reverse
    else if isHere s then ([] :: done).reverse
    else (s :: done).reverse
  | s :: rest =>
    if isBack s then follow (goBack done) rest
    else if isHere s then follow done rest
    else follow (s :: done) rest

/-- The segments of a path, given without the slash at its front. -/
def segments (s : List Char) : List (List Char) :=
  follow [] ((Text.pieces '/' s).map (Text.Percent.escape isPathPlain))

/-- A path in one piece: a slash before each segment. -/
def text (segments : List (List Char)) : List Char := segments.flatMap ('/' :: ·)

end Path
end Url
end ClusterConsole
