import ClusterConsole.Api
import ClusterConsole.Settings
import ClusterConsole.Url

/-!
# The base URL of a run

The URL that is given with a run comes before the one that is stored, and that comes before the
standard one.  It has to be a URL of the web; the slashes at its end are dropped.
-/

set_option autoImplicit false

namespace ClusterConsole
namespace BaseUrl

/-- The base URL if there is no other. -/
def standard : String := "http://localhost:8080"

/-- Why a text is no base URL. -/
inductive Fault where
  | invalid (text : String) (cause : Url.Fault)
  | notWeb (text : String)
  deriving DecidableEq, Repr

/-- What the user is told, and then the causes one after the other. -/
def Fault.chain : Fault → List String
  | .invalid text cause => ["Invalid API URL: " ++ text, cause.message]
  | .notWeb text => ["API URL must use http or https: " ++ text]

/-- What the user is told. -/
def Fault.message (f : Fault) : String := f.chain.headD ""

/-- Reads a text as a base URL. -/
def read (text : String) : Except Fault String :=
  match Url.parse text.toList with
  | .error cause => .error (.invalid text cause)
  | .ok url => if url.isWeb then .ok (trimSlashes text) else .error (.notWeb text)

end BaseUrl

/-- The text that is to be the base URL of a run. -/
def Settings.chosenUrl (s : Settings) (given : Option String) : String :=
  (given.or s.apiUrl).getD BaseUrl.standard

/-- The base URL of a run. -/
def Settings.baseUrl (s : Settings) (given : Option String) : Except BaseUrl.Fault String :=
  BaseUrl.read (s.chosenUrl given)

end ClusterConsole
