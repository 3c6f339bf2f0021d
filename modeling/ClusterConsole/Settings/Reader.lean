import ClusterConsole.Json.Skip
import ClusterConsole.Json.Typed
import ClusterConsole.Log
import ClusterConsole.Settings

/-!
# Reading settings

Settings are stored as a JSON object.  A member that is missing or null leaves its setting open,
one that stands there twice is a fault, and one of another name is skipped.  An array with the
settings in order, of which the last ones may be missing, will do as well.

A file that cannot be used never stops the program: `Settings.ofFile` falls back to no settings, and
leaves a warning in the log if the file holds text.
-/

set_option autoImplicit false

namespace ClusterConsole
namespace Settings

open Json (Fault Reading)

/-- What settings are called in faults. -/
def typeName : String := "struct Config"

/-- The members read so far; each may have been null. -/
structure Gathered where
  apiUrl : Option (Option String)
  hideAfter : Option (Option UInt64)

/-- The settings in the members. -/
def Gathered.settings (g : Gathered) : Settings := ⟨g.apiUrl.join, g.hideAfter.join⟩

/-- The fault of a second member of the same name.  It is found before the value is looked at, and
a brace that closes the object right there is still taken. -/
def repeated (name : String) (s : List Char) : Fault :=
  match Json.skipBlanks s with
  | '}' :: rest => .before (.repeatedMember name) rest
  | s => .before (.repeatedMember name) s

/-- Reads a value after its colon. -/
def readAfterColon {α : Type} (value : List Char → Reading α) (s : List Char) : Reading α :=
  match Json.readColon s with
  | .ok rest => value rest
  | .error fault => .error fault

/-- Reads the value of one member. -/
def readMember (fuel : Nat) (g : Gathered) (name : String) (s : List Char) : Reading Gathered :=
  if name = apiUrlName then
    if g.apiUrl.isSome then .error (repeated name s)
    else (readAfterColon (Json.readOptional (Json.readText fuel)) s).andThen
      fun v rest ↦ .ok ({ g with apiUrl := some v }, rest)
  else if name = hideAfterName then
    if g.hideAfter.isSome then .error (repeated name s)
    else (readAfterColon (Json.readOptional (Json.readWord64 fuel)) s).andThen
      fun v rest ↦ .ok ({ g with hideAfter := some v }, rest)
  else
    readAfterColon (fun s ↦ (Json.Skip.value fuel s).map (g, ·)) s

/-- Reads settings that are written as an array, after its opening bracket. -/
def readArray (fuel : Nat) (s : List Char) : Reading Settings :=
  (Json.readItem none (Json.readOptional (Json.readText fuel)) true s).andThen fun url rest ↦
    (Json.readItem none (Json.readOptional (Json.readWord64 fuel)) false rest).andThen
      fun seconds rest ↦ (Json.closeArray rest).map (⟨url, seconds⟩, ·)

/-- Reads settings from the front of a text. -/
def readFront (fuel : Nat) (s : List Char) : Reading Settings :=
  match Json.skipBlanks s with
  | '[' :: rest => readArray fuel rest
  | '{' :: rest =>
    (Json.readMembers (readMember fuel) fuel true ⟨none, none⟩ rest).andThen
      fun g rest ↦ .ok (g.settings, rest)
  | s => .error (Json.mismatch typeName fuel s)

/-- Reads a text as settings. -/
def parse (s : List Char) : Except Fault Settings := Json.finish (readFront (s.length + 1) s)

/-! ## Files -/

/-- What is logged about a file with a fault in it. -/
def ignoredEntry (path : String) (fault : Fault) (s : List Char) : LogEntry :=
  ⟨.warn, "Ignoring invalid config " ++ Text.quoted path ++ ": " ++ fault.message s⟩

/-- The settings in a file, given by its bytes if there are any to be read. -/
def ofFile (path : String) (content : Option (List UInt8)) : Settings × Log :=
  match content.bind Text.Utf8.decode? with
  | none => (empty, [])
  | some s =>
    match parse s with
    | .ok settings => (settings, [])
    | .error fault => (empty, [ignoredEntry path fault s])

end Settings
end ClusterConsole
