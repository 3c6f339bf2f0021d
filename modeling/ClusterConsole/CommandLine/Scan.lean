import ClusterConsole.CommandLine.Fault

/-!
# Going through the arguments of a scope

The arguments are taken one by one.  A flag without a value attached waits for the next argument,
unless that looks like a flag itself; its value is looked at when the next flag or place comes, or
at the end of the scope.  After two hyphens every argument is for a place.  In a scope with
commands, the name of a command ends it, and what is left belongs to the scope of the command.

* `Scan` is what has been found so far, and `Scan.settle` looks at the value of the last flag.
* `scan` goes through the arguments.  Instead of going through to the end it may stop at a request
  for help or for the version, or at a fault.
-/

set_option autoImplicit false

namespace ClusterConsole
namespace CommandLine

/-- The last flag, if its value has not been looked at yet: it waits for one, or holds one. -/
inductive Pending where
  | none
  | waiting (flag : Flag)
  | holding (flag : Flag) (value : String)
  deriving DecidableEq, Repr

/-- What has been found in a scope: flags with values, values at places, and the last flag. -/
structure Scan where
  values : List (Flag × String)
  places : List String
  pending : Pending
  deriving DecidableEq, Repr

/-- Why the command line is not followed: help or the version is asked for, or something is
wrong. -/
inductive Stop where
  | help (s : Scope)
  | version
  | fault (f : Fault)
  deriving DecidableEq, Repr

/-- What going through a scope gives: what was found, and the command that ends it with the
arguments after it. -/
structure Scanned where
  found : Scan
  command : Option (Name × List String)
  deriving DecidableEq, Repr

namespace Scan

/-- Nothing has been found. -/
def start : Scan := ⟨[], [], .none⟩

/-- The value of a flag. -/
def value? (s : Scan) (f : Flag) : Option String := (s.values.find? fun v ↦ v.1 == f).map (·.2)

/-- Has a flag been found, with a value that was looked at? -/
def has (s : Scan) (f : Flag) : Bool := (s.value? f).isSome

/-- The flags found so far, with values that were looked at. -/
def settled (s : Scan) : List Flag := s.values.map (·.1)

/-- The flags found so far.  The last one counts as soon as it has a value; a flag that was there
before does not count any more. -/
def used (s : Scan) : List Flag :=
  match s.pending with
  | .holding f _ => if s.has f then s.settled.filter (· != f) else s.settled ++ [f]
  | _ => s.settled

/-- The complaint about the value of a flag. -/
def valueFault (scope : Scope) (f : Flag) (value : String) : ValueFault → Fault
  | .notAChoice choices =>
    if value.isEmpty then scope.valueFault (.valueMissing f) []
    else scope.valueFault (.notAChoice f value)
      (similarHint "value" (Text.Similarity.alike value choices).getLast?.toList)
  | .noNumber why => scope.valueFault (.noNumber f value why) []

/-- Looks at the value of a flag, which must not have one yet. -/
def accept (scope : Scope) (s : Scan) (f : Flag) (value : String) : Except Fault Scan :=
  if s.has f then .error (scope.repeated f)
  else
    match f.check value with
    | .error why => .error (valueFault scope f value why)
    | .ok () => .ok { s with values := s.values ++ [(f, value)], pending := .none }

/-- Looks at the value of the last flag. -/
def settle (scope : Scope) (s : Scan) : Except Fault Scan :=
  match s.pending with
  | .none => .ok s
  | .waiting f => .error (scope.valueFault (.valueMissing f) [])
  | .holding f value => s.accept scope f value

/-- Puts an argument at the next place, if there is one. -/
def place (scope : Scope) (closed : Bool) (s : Scan) (argument : String) :
    Except Fault Scan :=
  if s.places.length < scope.places.length then
    (s.settle scope).map fun s ↦ { s with places := s.places ++ [argument] }
  else .error (scope.surplus argument closed)

end Scan

/-! ## Single arguments -/

/-- What an argument looks like: the two hyphens, a name after two hyphens with the value attached
to it, letters after one hyphen, or a word. -/
inductive Form where
  | close
  | long (name : String) (value : Option String)
  | letters (first : Char) (rest : List Char)
  | word
  deriving DecidableEq, Repr

/-- Cuts a text at its first equals sign. -/
def splitValue (s : List Char) : String × Option String :=
  (String.ofList (s.takeWhile (· != '=')),
    match s.dropWhile (· != '=') with
    | [] => none
    | _ :: value => some (String.ofList value))

/-- What an argument looks like.  One hyphen alone is a word. -/
def Form.of (argument : String) : Form :=
  match argument.toList with
  | ['-', '-'] => .close
  | '-' :: '-' :: rest => .long (splitValue rest).1 (splitValue rest).2
  | '-' :: c :: rest => .letters c rest
  | _ => .word

/-- Stops with a fault, if there is one. -/
def orStop {α : Type} : Except Fault α → Except Stop α
  | .ok v => .ok v
  | .error f => .error (.fault f)

/-- Stops, once the value of the last flag is in order. -/
def stopAt {α : Type} (scope : Scope) (s : Scan) (stop : Stop) : Except Stop α :=
  match s.settle scope with
  | .ok _ => .error stop
  | .error f => .error (.fault f)

/-- Follows a name after two hyphens.  `rest` are the arguments after it. -/
def followLong (scope : Scope) (s : Scan) (name : String) (value : Option String)
    (rest : List String) : Except Stop Scan :=
  match scope.flag? name, value with
  | some f, some value =>
    match s.settle scope with
    | .error fault => .error (.fault fault)
    | .ok s => orStop (s.accept scope f value)
  | some f, none =>
    match s.settle scope with
    | .error fault => .error (.fault fault)
    | .ok s => .ok { s with pending := .waiting f }
  | none, value =>
    if scope.hasHelp && name == "help" || scope.hasVersion && name == "version" then
      match value with
      | some value => .error (.fault (scope.needlessValue name value s.settled))
      | none => stopAt scope s (if name == "help" then .help scope else .version)
    else .error (.fault (scope.unknownFlag name rest s.used))

/-- Follows letters after one hyphen, of which the first decides. -/
def followLetters (scope : Scope) (s : Scan) (c : Char) : Except Stop Scan :=
  if scope.hasHelp && c == 'h' then stopAt scope s (.help scope)
  else if scope.hasVersion && c == 'V' then stopAt scope s .version
  else .error (.fault (scope.unknownLetter c))

/-- Follows a word: it is the value of a flag that waits for one, or for a place. -/
def followWord (scope : Scope) (s : Scan) (argument : String) : Except Stop Scan :=
  match s.pending with
  | .waiting f => .ok { s with pending := .holding f argument }
  | _ => orStop (s.place scope false argument)

/-- Does the last flag wait for a value? -/
def Scan.isWaiting (s : Scan) : Bool :=
  match s.pending with
  | .waiting _ => true
  | _ => false

/-! ## All arguments -/

/-- The scope whose help page is asked for by the words after the command for help. -/
def helpScope (scope : Scope) : List String → Except Fault Scope
  | [] => .ok scope
  | word :: rest =>
    match scope.command? word with
    | some c => helpScope (.command c) rest
    | none => .error (scope.noHelpFor word)

/-- Stops at the help page that is asked for. -/
def stopForHelp {α : Type} (scope : Scope) (words : List String) : Except Stop α :=
  match helpScope scope words with
  | .ok s => .error (.help s)
  | .error f => .error (.fault f)

/-- Puts all arguments at places. -/
def scanPlaces (scope : Scope) : Scan → List String → Except Stop Scanned
  | s, [] => .ok ⟨s, none⟩
  | s, argument :: rest =>
    match s.place scope true argument with
    | .ok s => scanPlaces scope s rest
    | .error f => .error (.fault f)

/-- The command that an argument names, unless a flag waits for it as its value. -/
def commandAt? (scope : Scope) (s : Scan) (argument : String) : Option Name :=
  if s.isWaiting then none else scope.command? argument

/-- Goes through the arguments of a scope. -/
def scan (scope : Scope) : Scan → List String → Except Stop Scanned
  | s, [] => .ok ⟨s, none⟩
  | s, argument :: rest =>
    match commandAt? scope s argument with
    | some .help => stopForHelp scope rest
    | some c => .ok ⟨s, some (c, rest)⟩
    | none =>
      match Form.of argument with
      | .close => scanPlaces scope s rest
      | .long name value =>
        match followLong scope s name value rest with
        | .ok s => scan scope s rest
        | .error stop => .error stop
      | .letters c _ =>
        match followLetters scope s c with
        | .ok s => scan scope s rest
        | .error stop => .error stop
      | .word =>
        match followWord scope s argument with
        | .ok s => scan scope s rest
        | .error stop => .error stop

/-- Goes through the arguments of a scope to its end, where it has no commands, and looks at the
value of its last flag. -/
def scanAll (scope : Scope) (arguments : List String) : Except Stop Scan :=
  match scan scope .start arguments with
  | .error stop => .error stop
  | .ok scanned => orStop (scanned.found.settle scope)

end CommandLine
end ClusterConsole
