import ClusterConsole.About
import ClusterConsole.Http.Message
import ClusterConsole.Json.Printer
import ClusterConsole.Text.Base64
import ClusterConsole.Text.Utf8
import ClusterConsole.Url

/-!
# Requests as they are sent

A request is sent as a line with its method and target, some fields, and a body.  Which fields there
are depends only on whether there is a body and whether the URL names a user; their values are those
of the URL, apart from the length of the body.

A request that is redirected has an `Origin` beside its URL: the user that was named first, and the
URL it comes from.
-/

set_option autoImplicit false

namespace ClusterConsole
namespace Http

/-- A request as it is sent: the method, the target, the fields in the order of their names, and the
body. -/
structure Wire where
  method : String
  target : String
  fields : List (String × String)
  body : String
  deriving DecidableEq, Repr

namespace Wire

/-- The first line. -/
def line (w : Wire) : String := w.method ++ " " ++ w.target ++ " HTTP/1.1"

/-- A field on its line. -/
def fieldLine (f : String × String) : String := f.1 ++ ": " ++ f.2

/-- The whole request. -/
def text (w : Wire) : String :=
  String.intercalate "\r\n" (w.line :: w.fields.map fieldLine) ++ "\r\n\r\n" ++ w.body

/-! ## Fields -/

/-- A part of a URL without its percent escapes, if that is text. -/
def plainText? (s : List Char) : Option (List Char) :=
  Text.Utf8.decode? (Text.Percent.decode s)

/-- The user name and the password in a URL, if it names a user. -/
def credentials? (a : Url.Authority) : Option (List Char × Option (List Char)) :=
  match plainText? a.user with
  | none => none
  | some user =>
    match a.password.bind plainText? with
    | none => if user.isEmpty then none else some (user, none)
    | some password => some (user, some password)

/-- The field that names the user. -/
def userField (c : List Char × Option (List Char)) : String × String :=
  ("authorization", "Basic " ++
    String.ofList (Text.Base64.encode (Text.utf8 (c.1 ++ ':' :: c.2.getD []))))

/-- The fields that describe a body. -/
def bodyFields (body : String) : List (String × String) :=
  [("content-length", toString (Text.byteCount body.toList)), ("content-type", "application/json")]

/-- The field that names the host. -/
def hostField (a : Url.Authority) : String × String := ("host", String.ofList a.hostText)

/-- The name under which the program goes. -/
def agent : String := About.program ++ "/" ++ About.version

/-- Where a request comes from: the user it names, and the URL that it was redirected from, if it
was. -/
structure Origin where
  user : Option (List Char × Option (List Char))
  referer : Option (List Char)

/-- The origin of a request that was not redirected: its URL names the user. -/
def Origin.first (a : Url.Authority) : Origin := ⟨credentials? a, none⟩

/-- The origin of a request that is redirected from one URL to another.  The user is named to the
server that was asked, and to no other; a secure URL is told over secure connections only. -/
def Origin.redirected (o : Origin) (url target : Url) : Origin where
  user := if url.server? = target.server? then o.user else none
  referer := if url.isSecure && !target.isSecure then none else some url.bare.text

/-- The field that names the URL a request was redirected from. -/
def refererField (referer : List Char) : String × String := ("referer", String.ofList referer)

/-- All fields of a request from an origin. -/
def fieldsFrom (o : Origin) (a : Url.Authority) (body : Option String) : List (String × String) :=
  [("accept", "*/*")] ++ (o.user.map userField).toList ++ (body.map bodyFields).getD [] ++
    [hostField a] ++ (o.referer.map refererField).toList ++ [("user-agent", agent)]

/-- All fields of a request that was not redirected. -/
def allFields (a : Url.Authority) (body : Option String) : List (String × String) :=
  fieldsFrom (.first a) a body

/-- A request from an origin to a URL with an authority. -/
def ofRequestFrom (o : Origin) (r : Request) (url : Url) (a : Url.Authority) : Wire :=
  let body := r.body.map Json.Value.compactString
  ⟨r.method.text, String.ofList url.target, fieldsFrom o a body, body.getD ""⟩

/-- A request to a URL with an authority. -/
def ofRequest (r : Request) (url : Url) (a : Url.Authority) : Wire :=
  ofRequestFrom (.first a) r url a

end Wire
end Http
end ClusterConsole
