import ClusterConsole.CommandLine.Scope
import ClusterConsole.Text.Quoted

/-!
# Usage lines and help pages

A usage line shows how a scope is written.  In a help page it shows everything; in a complaint about
a command line on which some flags are already used it shows those and what is required.

A help page tells what a scope is about, how it is written, and then lists its commands, places and
flags, with the explanations in one column.
-/

set_option autoImplicit false

namespace ClusterConsole
namespace CommandLine

/-- The variable of the environment that can give the base URL. -/
def apiUrlVariable : String := "TCLUSTER_API_URL"

namespace Scope

/-- Are there flags that may be left out, beside those for help and for the version? -/
def hasOptional (s : Scope) : Bool := s.flags.any fun f ↦ !f.isRequired

/-- The flags that are required. -/
def required (s : Scope) : List Flag := s.flags.filter Flag.isRequired

/-- The words of a usage line for commands. -/
def commandWords : Scope → List String
  | .top => ["[COMMAND]"]
  | .command .help => ["[COMMAND]..."]
  | _ => []

/-- How a scope is written. -/
def usage (s : Scope) : String :=
  "Usage: " ++ String.intercalate " " ([s.path] ++ (if s.hasOptional then ["[OPTIONS]"] else []) ++
    s.required.map Flag.shown ++ s.places.map Place.placeholder ++ s.commandWords)

/-- What is required of a scope, together with some terms for flags. -/
def usageRequired (s : Scope) (terms : List String) : String :=
  "Usage: " ++ String.intercalate " " ([s.path] ++
    (s.required.map Flag.shown ++ terms).eraseDups ++ s.places.map Place.placeholder)

/-- How a scope is written, for a command line with some flags. -/
def usageWith (s : Scope) (terms : List String) : String :=
  if terms.isEmpty then s.usage else s.usageRequired terms

end Scope

/-! ## Help pages -/

/-- A row of a list: a term and its explanation. -/
structure Row where
  term : String
  explanation : String

/-- The choices for a value, as they are listed. -/
def choicesText (choices : List String) : String :=
  "[possible values: " ++ String.intercalate ", " choices ++ "]"

/-- What is added to the explanation of a flag.  `given` is the value of the variable that can
give the base URL. -/
def Flag.notes (given : String) : Flag → List String
  | .apiUrl => ["[env: " ++ apiUrlVariable ++ "=" ++ given ++ "]"]
  | .logLevel => ["[default: off]", choicesText (limits.map limitName)]
  | _ => []

/-- The row of a flag. -/
def Flag.row (given : String) (f : Flag) : Row :=
  ⟨"    " ++ f.shown, String.intercalate " " ([f.about] ++ f.notes given)⟩

/-- A row at the width of its list. -/
def Row.text (width : Nat) (r : Row) : String :=
  "  " ++ r.term ++ String.ofList (List.replicate (width - r.term.length) ' ') ++ "  " ++
    r.explanation ++ "\n"

/-- A list with its title, unless it is empty. -/
def listText (title : String) (rows : List Row) : String :=
  if rows.isEmpty then ""
  else
    let width := (rows.map fun r ↦ r.term.length).foldl max 0
    "\n" ++ title ++ ":\n" ++ String.join (rows.map (Row.text width))

namespace Scope

/-- The rows for the commands. -/
def commandRows (s : Scope) : List Row := s.commands.map fun c ↦ ⟨c.text, c.about⟩

/-- The rows for the places. -/
def placeRows : Scope → List Row
  | .command .help => [⟨"[COMMAND]...", "Print help for the subcommand(s)"⟩]
  | s => s.places.map fun p ↦ ⟨p.placeholder, ""⟩

/-- The rows for the flags. -/
def flagRows (given : String) (s : Scope) : List Row :=
  s.flags.map (Flag.row given) ++ (if s.hasHelp then [⟨"-h, --help", "Print help"⟩] else []) ++
    (if s.hasVersion then [⟨"-V, --version", "Print version"⟩] else [])

/-- The help page of a scope. -/
def helpPage (given : String) (s : Scope) : String :=
  s.about ++ "\n\n" ++ s.usage ++ "\n" ++ listText "Commands" s.commandRows ++
    listText "Arguments" s.placeRows ++ listText "Options" (s.flagRows given)

end Scope

/-- What is printed for the version. -/
def versionText : String := About.program ++ " " ++ About.version ++ "\n"

end CommandLine
end ClusterConsole
