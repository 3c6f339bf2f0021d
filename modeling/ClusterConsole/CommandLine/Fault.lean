import ClusterConsole.CommandLine.Usage
import ClusterConsole.Text.Similarity

/-!
# What can be wrong with a command line

A complaint says what is wrong, may give hints, and may show how the scope is written.
-/

set_option autoImplicit false

namespace ClusterConsole
namespace CommandLine

/-- What is wrong. -/
inductive Cause where
  | unexpected (argument : String)
  | unknownCommand (name : String)
  | missing (terms : List String)
  | repeated (flag : Flag)
  | valueMissing (flag : Flag)
  | notAChoice (flag : Flag) (value : String)
  | noNumber (flag : Flag) (value : String) (why : Text.Numeral.Fault)
  | needlessValue (flag value : String)
  deriving DecidableEq, Repr

/-- The choices of a flag on a line of their own, if it has any. -/
def Flag.choicesLine (f : Flag) : String :=
  if f.choices.isEmpty then "" else "\n  " ++ choicesText f.choices

/-- How it is told. -/
def Cause.message : Cause → String
  | .unexpected argument => "unexpected argument '" ++ argument ++ "' found"
  | .unknownCommand name => "unrecognized subcommand '" ++ name ++ "'"
  | .missing terms =>
    "the following required arguments were not provided:" ++
      String.join (terms.map fun t ↦ "\n  " ++ t)
  | .repeated flag => "the argument '" ++ flag.shown ++ "' cannot be used multiple times"
  | .valueMissing flag =>
    "a value is required for '" ++ flag.shown ++ "' but none was supplied" ++ flag.choicesLine
  | .notAChoice flag value =>
    "invalid value '" ++ value ++ "' for '" ++ flag.shown ++ "'" ++ flag.choicesLine
  | .noNumber flag value why =>
    "invalid value '" ++ value ++ "' for '" ++ flag.shown ++ "': " ++ why.message
  | .needlessValue flag value =>
    "unexpected value '" ++ value ++ "' for '" ++ flag ++ "' found; no more were expected"

/-- A complaint: the cause, hints, how the scope is written if that helps, and whether help is to be
had there. -/
structure Fault where
  cause : Cause
  hints : List String
  usage : Option String
  hasHelp : Bool
  deriving DecidableEq, Repr

namespace Fault

/-- What is wrong, in one paragraph. -/
def message (f : Fault) : String := "error: " ++ f.cause.message

/-- The hints, in a paragraph of their own. -/
def hintsText (f : Fault) : String :=
  if f.hints.isEmpty then ""
  else "\n" ++ String.join (f.hints.map fun h ↦ "\n  tip: " ++ h)

/-- The whole complaint. -/
def text (f : Fault) : String :=
  f.message ++ f.hintsText ++ (f.usage.map ("\n\n" ++ ·)).getD "" ++
    (if f.hasHelp then "\n\nFor more information, try '--help'.\n" else "\n")

end Fault

/-! ## Hints -/

/-- A text between apostrophes. -/
def marked (s : String) : String := "'" ++ s ++ "'"

/-- The hint at things of a kind that are written much like what was found. -/
def similarHint (kind : String) (names : List String) : List String :=
  match names with
  | [] => []
  | [name] => ["a similar " ++ kind ++ " exists: " ++ marked name]
  | names =>
    ["some similar " ++ kind ++ "s exist: " ++ String.intercalate ", " (names.map marked)]

/-- The hint at how an argument is passed as a value. -/
def valueHint (argument : String) : String :=
  "to pass " ++ marked argument ++ " as a value, use " ++ marked ("-- " ++ argument)

/-- The flag of a command that is much like the given one, where the command follows among the
arguments: the place of the command, its name and that of the flag. -/
def flagOfCommand? (name : String) (rest : List String) (c : Name) :
    Option (Nat × String × String) :=
  match (Text.Similarity.alike name (Scope.command c).flagNames).getLast?,
      rest.findIdx? (· == c.text) with
  | some flag, some i => some (i, c.text, flag)
  | _, _ => none

/-- The first of some finds by its place. -/
def firstFound (found : List (Nat × String × String)) : Option (String × String) :=
  (found.foldl (fun best f ↦
    match best with
    | none => some f
    | some b => if f.1 < b.1 then some f else best) none).map (·.2)

/-- The flag of a scope that is most like a name, if there is one that is much like it. -/
def Scope.similarFlag? (s : Scope) (name : String) : Option String :=
  (Text.Similarity.alike name s.flagNames).getLast?

/-- The hints for a flag that a scope does not know, with the arguments after it. -/
def flagHints (s : Scope) (name : String) (rest : List String) : List String :=
  match s.similarFlag? name with
  | some flag => similarHint "argument" ["--" ++ flag]
  | none =>
    match firstFound (s.commands.filterMap (flagOfCommand? name rest)) with
    | some (command, flag) => [marked (command ++ " --" ++ flag) ++ " exists"]
    | none => if s.places.isEmpty then [] else [valueHint ("--" ++ name)]

/-! ## Complaints -/

namespace Scope

/-- A complaint about a value. -/
def valueFault (s : Scope) (cause : Cause) (hints : List String) : Fault :=
  ⟨cause, hints, none, s.hasHelp⟩

/-- The complaint about a flag that the scope does not know.  A flag much like it counts as one that
is used. -/
def unknownFlag (s : Scope) (name : String) (rest : List String) (used : List Flag) : Fault :=
  let terms := used.map Flag.shown ++ (s.similarFlag? name).toList.map s.shown
  ⟨.unexpected ("--" ++ name), flagHints s name rest, some (s.usageWith terms), s.hasHelp⟩

/-- The complaint about a letter that the scope does not know as a flag. -/
def unknownLetter (s : Scope) (c : Char) : Fault :=
  let argument := String.ofList ['-', c]
  ⟨.unexpected argument, if s.places.isEmpty then [] else [valueHint argument], some s.usage,
    s.hasHelp⟩

/-- The complaint about an argument for which there is no place, after two hyphens if `closed` is
set. -/
def surplus (s : Scope) (argument : String) (closed : Bool) : Fault :=
  if closed && (s.command? argument).isSome then
    ⟨.unexpected argument,
      ["subcommand " ++ marked argument ++ " exists; to use it, remove the '--' before it"],
      some s.usage, s.hasHelp⟩
  else if s.commands.isEmpty then ⟨.unexpected argument, [], some s.usage, s.hasHelp⟩
  else
    ⟨.unknownCommand argument,
      similarHint "subcommand" (Text.Similarity.alike argument (s.commands.map Name.text)),
      some s.usage, s.hasHelp⟩

/-- The complaint about a word after the command for help that is no command of the scope. -/
def noHelpFor (s : Scope) (word : String) : Fault :=
  ⟨.unknownCommand word, [], some s.usage, s.hasHelp⟩

/-- The complaint about what is missing. -/
def missing (s : Scope) (terms : List String) (used : List Flag) : Fault :=
  ⟨.missing terms, [], some (s.usageRequired (used.map Flag.shown)), s.hasHelp⟩

/-- The complaint about a flag that is there twice. -/
def repeated (s : Scope) (f : Flag) : Fault := ⟨.repeated f, [], some s.usage, s.hasHelp⟩

/-- The complaint about a value for a flag that takes none. -/
def needlessValue (s : Scope) (name value : String) (used : List Flag) : Fault :=
  let terms := used.map Flag.shown ++ ["--" ++ name]
  ⟨.needlessValue ("--" ++ name) value, [], some (s.usageRequired terms), s.hasHelp⟩

end Scope
end CommandLine
end ClusterConsole
