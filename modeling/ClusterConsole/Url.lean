import ClusterConsole.Url.Authority

/-!
# URLs

`Url.parse` reads a text as an absolute URL.  Blanks and controls at its ends and line breaks within
it do not count.  A letter and what follows it up to the first colon is the scheme; a text without
one could only be understood against another URL, so it is none.

The special schemes are those of the web and of file transfer.  With them any number of slashes or
backslashes may stand before the authority, which is never empty, and a backslash is a slash up to
the query.  With any other scheme two slashes announce an authority, and where there is no slash at
all, the rest up to the query is kept in one piece.

`Url.text` writes a URL in its normal form, and `Url.resolve` reads a reference that is relative to
another URL.
-/

set_option autoImplicit false

namespace ClusterConsole

/-- What a URL says beside whom to ask: a list of segments, or a text that is not taken apart. -/
inductive Url.Location where
  | segments (list : List (List Char))
  | whole (text : List Char)
  deriving DecidableEq, Repr

/-- A URL, with its parts percent-encoded. -/
structure Url where
  scheme : List Char
  authority : Option Url.Authority
  path : Url.Location
  query : Option (List Char)
  fragment : Option (List Char)
  deriving DecidableEq, Repr

namespace Url

/-- Is it a blank or a control? -/
def isTrimmed (c : Char) : Bool := c.toNat ≤ 0x20

/-- Is it a tab or part of a line break? -/
def isSkipped (c : Char) : Bool := c == '\t' || c == '\n' || c == '\r'

/-- The characters of a text that count. -/
def relevant (s : List Char) : List Char :=
  ((s.dropWhile isTrimmed).reverse.dropWhile isTrimmed).reverse.filter (!isSkipped ·)

/-- Can the character be in a scheme? -/
def isSchemeChar (c : Char) : Bool := c.isAlphanum || c == '+' || c == '-' || c == '.'

/-- The scheme, in small letters, and what comes after its colon. -/
def splitScheme? (s : List Char) : Option (List Char × List Char) :=
  let scheme := s.takeWhile isSchemeChar
  match scheme, s.drop scheme.length with
  | c :: _, ':' :: rest => if c.isAlpha then some (scheme.map Char.toLower, rest) else none
  | _, _ => none

/-- Is it a slash, or a backslash where the scheme is special? -/
def isSlash (special : Bool) (c : Char) : Bool := c == '/' || (special && c == '\\')

/-- Does the character end an authority? -/
def endsAuthority (special : Bool) (c : Char) : Bool := isSlash special c || c == '?' || c == '#'

/-- Does the character end a path? -/
def endsPath (c : Char) : Bool := c == '?' || c == '#'

/-- What comes after a mark, up to the mark that ends it; none if the text begins with no such
mark. -/
def part? (mark : Char) (ends : Char → Bool) : List Char → Option (List Char)
  | [] => none
  | c :: rest => if c = mark then some (rest.takeWhile (!ends ·)) else none

/-- The query and the fragment at the end of a URL. -/
def readEnd (special : Bool) (s : List Char) : Option (List Char) × Option (List Char) :=
  ((part? '?' (· == '#') s).map (Text.Percent.escape (isQueryPlain special)),
    (part? '#' (fun _ ↦ false) (s.dropWhile (· != '#'))).map
      (Text.Percent.escape isFragmentPlain))

/-- The segments of the path at the front of a text.  The slash it begins with may be missing. -/
def readSegments (special : Bool) (s : List Char) : List (List Char) :=
  let path := (s.takeWhile (!endsPath ·)).map fun c ↦ if isSlash special c then '/' else c
  Path.segments (if path.head? = some '/' then path.drop 1 else path)

/-- The URL with the given scheme and authority, and the rest of the text. -/
def assemble (special : Bool) (scheme : List Char) (authority : Option Authority)
    (path : Location) (s : List Char) : Url :=
  let (query, fragment) := readEnd special (s.dropWhile (!endsPath ·))
  ⟨scheme, authority, path, query, fragment⟩

/-- Reads a URL with a special scheme, which uses the `usual` port, after the colon. -/
def parseSpecial (scheme : List Char) (usual : Nat) (s : List Char) : Except Fault Url :=
  let s := s.dropWhile (isSlash true)
  let rest := s.dropWhile (!endsAuthority true ·)
  match Authority.parse usual (s.takeWhile (!endsAuthority true ·)) with
  | .error fault => .error fault
  | .ok authority =>
    .ok (assemble true scheme (some authority) (.segments (readSegments true rest)) rest)

/-- Reads a URL for a file after the colon.  It has a host only after two slashes; the letter of a
drive is none. -/
def parseFile (scheme : List Char) (s : List Char) : Except Fault Url :=
  match s with
  | a :: b :: rest =>
    if isSlash true a && isSlash true b then
      let host := rest.takeWhile (!endsAuthority true ·)
      if host.isEmpty || Path.isDrive host then .ok (withHost none rest)
      else
        match Host.parse host with
        | .error fault => .error fault
        | .ok (.name ['l', 'o', 'c', 'a', 'l', 'h', 'o', 's', 't']) =>
          .ok (withHost none (rest.drop host.length))
        | .ok h => .ok (withHost (some ⟨[], none, h, none⟩) (rest.drop host.length))
    else .ok (withHost none s)
  | s => .ok (withHost none s)
where
  /-- The URL with a host and the rest of the text. -/
  withHost (authority : Option Authority) (rest : List Char) : Url :=
    assemble true scheme authority (.segments (readSegments true rest)) rest

/-- Reads what comes after the authority of a URL with another scheme.  No path is kept as none. -/
def plainLocation (rest : List Char) : Location :=
  match rest.takeWhile (!endsPath ·) with
  | [] => .segments []
  | _ => .segments (readSegments false rest)

/-- Reads a URL with another scheme after the colon. -/
def parsePlain (scheme : List Char) (s : List Char) : Except Fault Url :=
  match s with
  | '/' :: '/' :: s =>
    let rest := s.dropWhile (!endsAuthority false ·)
    match Authority.parsePlain rest.isEmpty (s.takeWhile (!endsAuthority false ·)) with
    | .error fault => .error fault
    | .ok authority => .ok (assemble false scheme authority (plainLocation rest) rest)
  | '/' :: rest =>
    .ok (assemble false scheme none (.segments (readSegments false ('/' :: rest))) rest)
  | s =>
    let whole := Text.Percent.escape (fun c ↦ 0x20 ≤ c.toNat && c.toNat ≤ 0x7e)
      (s.takeWhile (!endsPath ·))
    .ok (assemble false scheme none (.whole whole) s)

/-- Reads a text as a URL. -/
def parse (text : List Char) : Except Fault Url :=
  match splitScheme? (relevant text) with
  | none => .error .relative
  | some (scheme, rest) =>
    match Authority.defaultPort? scheme with
    | some usual => parseSpecial scheme usual rest
    | none =>
      if scheme = ['f', 'i', 'l', 'e'] then parseFile scheme rest else parsePlain scheme rest

/-! ## Looking at a URL -/

/-- Is it a URL of the web, so that a request can be sent to it? -/
def isWeb (u : Url) : Bool :=
  u.scheme == ['h', 't', 't', 'p'] || u.scheme == ['h', 't', 't', 'p', 's']

/-- Is it asked for over secure connections only? -/
def isSecure (u : Url) : Bool := u.scheme == ['h', 't', 't', 'p', 's']

/-- Whom to ask for a URL of the web. -/
def webAuthority? (u : Url) : Option Authority := if u.isWeb then u.authority else none

/-- How a path is written. -/
def Location.text : Location → List Char
  | .segments list => Path.text list
  | .whole s => s

/-- What is asked for at the host: the path and the query. -/
def target (u : Url) : List Char :=
  u.path.text ++ (u.query.map ('?' :: ·)).getD []

/-- The authority with the slashes before it.  Files have an empty one. -/
def authorityText (u : Url) : List Char :=
  match u.authority with
  | some a => '/' :: '/' :: a.text
  | none => if u.scheme = ['f', 'i', 'l', 'e'] then ['/', '/'] else []

/-- A URL in its normal form. -/
def text (u : Url) : List Char :=
  u.scheme ++ ':' :: (u.authorityText ++ u.target ++ (u.fragment.map ('#' :: ·)).getD [])

/-! ## References -/

/-- The path up to its last slash. -/
def directoryText (u : Url) : List Char :=
  match u.path with
  | .segments list => Path.text (list.dropLast ++ [[]])
  | .whole s => s

/-- What stands before a reference to another resource, so that both together are a URL. -/
def basis (u : Url) (reference : List Char) : List Char :=
  let top := u.scheme ++ ':' :: u.authorityText
  if (splitScheme? reference).isSome then []
  else
    match reference with
    | '/' :: '/' :: _ => u.scheme ++ [':']
    | '/' :: _ => top
    | '?' :: _ => top ++ u.path.text
    | '#' :: _ => top ++ u.target
    | [] => top ++ u.target
    | _ => top ++ u.directoryText

/-- The URL that a reference on the page of another URL names. -/
def resolve (u : Url) (reference : List Char) : Except Fault Url :=
  parse (u.basis reference ++ reference)

/-- The same URL without user name and password. -/
def withoutUser (u : Url) : Url :=
  { u with authority := u.authority.map Authority.withoutUser }

/-- The same URL without user name, password and fragment. -/
def bare (u : Url) : Url := { u.withoutUser with fragment := none }

/-- The host and the port to be asked, if there is a host. -/
def server? (u : Url) : Option (Host × Option Nat) :=
  u.authority.map fun a ↦ (a.host, a.port.or (Authority.defaultPort? u.scheme))

end Url
end ClusterConsole
