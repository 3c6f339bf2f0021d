import ClusterConsole.CommandLine.Scan
import ClusterConsole.Submission

/-!
# The arguments of the program

`Arguments` is what a command line says: the base URL, the limit of the log, and a command with its
inputs.  `Arguments.parse` reads it, and gives the reason to stop instead if it is not to be
followed.  The base URL may also come from the environment.

Most commands submit one operation; `Command.submission?` is that submission.
-/

set_option autoImplicit false

namespace ClusterConsole

/-- The inputs for a new cluster that a command line gives, among them all that are required. -/
structure Creation where
  given : Key → Option String
  complete : ∀ k, k.shape = .required → (given k).isSome = true

namespace Creation

/-- The inputs, if all that are required are among them. -/
def ofGiven? (given : Key → Option String) : Option Creation :=
  if h : ∀ k ∈ Key.all, k.shape = .required → (given k).isSome = true then
    some ⟨given, fun k ↦ h k (Key.mem_all k)⟩
  else none

/-- The inputs with an empty text for each that is not given. -/
def fields (c : Creation) : Fields := ⟨fun k ↦ (c.given k).getD ""⟩

end Creation

/-- A command with its inputs. -/
inductive Command where
  | create (inputs : Creation)
  | delete (ns : String)
  | list
  | get (ns : String)
  | scale (ns replicas : String)
  | health
  | config (apiUrl : Option String) (hideAfter : Option UInt64)

/-- The submission that a command makes, if it makes one. -/
def Command.submission? : Command → Option Submission
  | .create inputs => some (.create inputs.fields)
  | .delete ns => some (.delete ns)
  | .list => some .list
  | .get ns => some (.details ns)
  | .scale ns replicas => some (.scale ns replicas)
  | .health => none
  | .config _ _ => none

/-- What a command line says. -/
structure Arguments where
  apiUrl : Option String
  limit : Option Level
  command : Option Command

namespace CommandLine

/-! ## Commands -/

/-- What is missing in a scope. -/
def Scope.missingTerms (scope : Scope) (s : Scan) : List String :=
  (scope.required.filter fun f ↦ !s.has f).map Flag.shown ++
    (scope.places.drop s.places.length).map Place.placeholder

/-- A time in seconds. -/
def time? (value : String) : Option UInt64 :=
  (Text.Numeral.natural maxTime value.toList).toOption.map UInt64.ofNat

/-- The command with the inputs that have been found, if none is missing. -/
def command? (c : Name) (s : Scan) : Option Command :=
  match c, s.places with
  | .create, _ => (Creation.ofGiven? fun k ↦ s.value? (.input k)).map .create
  | .delete, [ns] => some (.delete ns)
  | .list, _ => some .list
  | .get, [ns] => some (.get ns)
  | .scale, [ns, replicas] => some (.scale ns replicas)
  | .health, _ => some .health
  | .config, _ => some (.config (s.value? .storedUrl) ((s.value? .storedTime).bind time?))
  | _, _ => none

/-- Reads the arguments of a command. -/
def parseCommand (c : Name) (arguments : List String) : Except Stop Command :=
  match scanAll (.command c) arguments with
  | .error stop => .error stop
  | .ok s =>
    match command? c s with
    | some command => .ok command
    | none =>
      let scope := Scope.command c
      .error (.fault (scope.missing (scope.missingTerms s) s.used))

/-- Reads the command that ends the top scope, if there is one. -/
def parseFollowing : Option (Name × List String) → Except Stop (Option Command)
  | none => .ok none
  | some (c, arguments) => (parseCommand c arguments).map some

/-- The arguments in the top scope, with a command. -/
def assemble (fromEnvironment : Option String) (s : Scan) (command : Option Command) : Arguments :=
  ⟨(s.value? .apiUrl).or fromEnvironment, ((s.value? .logLevel).bind limit?).join, command⟩

end CommandLine

/-- Reads a command line.  The inputs of a command are looked at before the value of the last flag
in the top scope. -/
def Arguments.parse (fromEnvironment : Option String) (arguments : List String) :
    Except CommandLine.Stop Arguments :=
  match CommandLine.scan .top .start arguments with
  | .error stop => .error stop
  | .ok scanned =>
    match CommandLine.parseFollowing scanned.command with
    | .error stop => .error stop
    | .ok command =>
      match scanned.found.settle .top with
      | .error fault => .error (.fault fault)
      | .ok s => .ok (CommandLine.assemble fromEnvironment s command)

end ClusterConsole
