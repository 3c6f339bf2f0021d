import ClusterConsole.Json.Printer
import ClusterConsole.StatusArea

/-!
# Settings

What the user has stored: the base URL of the server, and how long a final message stays on the
screen.  Either may be missing.  `Settings.text` is how they are written to their file, and
`Settings.parse` in the module for reading takes that apart again.
-/

set_option autoImplicit false

namespace ClusterConsole

/-- What the user has stored; the time is in seconds. -/
structure Settings where
  apiUrl : Option String
  hideAfter : Option UInt64
  deriving DecidableEq, Repr

namespace Settings

/-- Nothing is stored. -/
def empty : Settings := ⟨none, none⟩

/-- The name of the base URL in the file. -/
def apiUrlName : String := "api_url"

/-- The name of the time in the file. -/
def hideAfterName : String := "status_timeout_secs"

/-- The settings as a JSON value. -/
def value (s : Settings) : Json.Value :=
  .object [
    (apiUrlName, (s.apiUrl.map Json.Value.string).getD .null),
    (hideAfterName, (s.hideAfter.map fun n ↦ .number (.whole n.toNat)).getD .null)]

/-- The settings as they are written to their file. -/
def text (s : Settings) : String := s.value.prettyString

/-- How long a final message stays on the screen. -/
def hideDelay (s : Settings) : Duration :=
  match s.hideAfter with
  | some n => Duration.ofSeconds n.toNat
  | none => StatusArea.defaultDelay

end Settings
end ClusterConsole
