import ClusterConsole.About
import ClusterConsole.Cluster.Key
import ClusterConsole.Log
import ClusterConsole.Text.Numeral

/-!
# What can stand on the command line

The command line has a top scope and one scope for each command.  A scope knows flags that take a
value, written `--name value` or `--name=value`, and places for values without a flag.  Every scope
but that of the command for help also knows `--help`, and the top one `--version`.

The scopes, flags and places are data; reading a command line, writing help pages and telling what
is wrong all follow them.
-/

set_option autoImplicit false

namespace ClusterConsole
namespace CommandLine

/-! ## Flags and places -/

/-- A flag that takes a value. -/
inductive Flag where
  | apiUrl
  | logLevel
  | input (key : Key)
  | storedUrl
  | storedTime
  deriving DecidableEq, Repr

namespace Flag

/-- The name of a flag, without the hyphens before it. -/
def name : Flag → String
  | .apiUrl => "api-url"
  | .logLevel => "log-level"
  | .input key => String.ofList (key.name.toList.map fun c ↦ if c = '_' then '-' else c)
  | .storedUrl => "api-url"
  | .storedTime => "status-timeout-secs"

/-- What stands for the value of a flag. -/
def placeholder (f : Flag) : String :=
  String.ofList (f.name.toList.map fun c ↦ if c = '-' then '_' else c.toUpper)

/-- A flag with its value, as it is shown. -/
def shown (f : Flag) : String := "--" ++ f.name ++ " <" ++ f.placeholder ++ ">"

/-- What a flag is for.  Those for the inputs of a new cluster go without words. -/
def about : Flag → String
  | .apiUrl => "Base URL of the cluster API (overrides the config file)"
  | .logLevel => "Log level for debugging"
  | .input _ => ""
  | .storedUrl => "API base URL to store"
  | .storedTime => "Seconds before finished results hide in the UI"

/-- Does the scope of the flag ask for it? -/
def isRequired : Flag → Bool
  | .input key => key.shape == .required
  | _ => false

end Flag

/-- A place for a value without a flag. -/
inductive Place where
  | ns
  | replicas
  deriving DecidableEq, Repr

/-- What stands for the value at a place. -/
def Place.placeholder : Place → String
  | .ns => "<NAMESPACE>"
  | .replicas => "<REPLICAS>"

/-! ## Log levels -/

/-- The name of a limit of the log; without a limit nothing is logged. -/
def limitName : Option Level → String
  | none => "off"
  | some .error => "error"
  | some .warn => "warn"
  | some .info => "info"
  | some .debug => "debug"
  | some .trace => "trace"

/-- All limits of the log. -/
def limits : List (Option Level) :=
  [none, some .error, some .warn, some .info, some .debug, some .trace]

/-- The limit with the given name. -/
def limit? (name : String) : Option (Option Level) := limits.find? fun l ↦ limitName l == name

/-- What is wrong with the value of a flag. -/
inductive ValueFault where
  | notAChoice (choices : List String)
  | noNumber (why : Text.Numeral.Fault)
  deriving DecidableEq, Repr

/-- The largest time that can be stored, in seconds. -/
def maxTime : Nat := UInt64.size - 1

/-- Checks the value of a flag. -/
def Flag.check (f : Flag) (value : String) : Except ValueFault Unit :=
  match f with
  | .logLevel =>
    match limit? value with
    | some _ => .ok ()
    | none => .error (.notAChoice (limits.map limitName))
  | .storedTime =>
    match Text.Numeral.natural maxTime value.toList with
    | .ok _ => .ok ()
    | .error why => .error (.noNumber why)
  | _ => .ok ()

/-- The values a flag takes, if there are only a few. -/
def Flag.choices : Flag → List String
  | .logLevel => limits.map limitName
  | _ => []

/-! ## Commands and scopes -/

/-- A command. -/
inductive Name where
  | create
  | delete
  | list
  | get
  | scale
  | health
  | config
  | help
  deriving DecidableEq, Repr

namespace Name

/-- All commands, in the order in which they are listed. -/
def all : List Name := [.create, .delete, .list, .get, .scale, .health, .config, .help]

/-- How a command is written. -/
def text : Name → String
  | .create => "create"
  | .delete => "delete"
  | .list => "list"
  | .get => "get"
  | .scale => "scale"
  | .health => "health"
  | .config => "config"
  | .help => "help"

/-- What a command does. -/
def about : Name → String
  | .create => "Create a cluster"
  | .delete => "Delete the cluster in a namespace"
  | .list => "List all clusters"
  | .get => "Show one cluster"
  | .scale => "Change the replica count of a cluster"
  | .health => "Check that the API answers"
  | .config => "Persist settings to the config file"
  | .help => "Print this message or the help of the given subcommand(s)"

end Name

/-- A scope of the command line: the top, or that of a command. -/
inductive Scope where
  | top
  | command (name : Name)
  deriving DecidableEq, Repr

namespace Scope

/-- The flags of a scope, in order. -/
def flags : Scope → List Flag
  | .top => [.apiUrl, .logLevel]
  | .command .create => Key.all.map .input
  | .command .config => [.storedUrl, .storedTime]
  | .command _ => []

/-- The places of a scope, in order. -/
def places : Scope → List Place
  | .command .delete => [.ns]
  | .command .get => [.ns]
  | .command .scale => [.ns, .replicas]
  | _ => []

/-- What a scope is about. -/
def about : Scope → String
  | .top => About.purpose
  | .command c => c.about

/-- The words that lead to a scope. -/
def path : Scope → String
  | .top => About.program
  | .command c => About.program ++ " " ++ c.text

/-- The commands of a scope. -/
def commands : Scope → List Name
  | .top => Name.all
  | .command _ => []

/-- The command of a scope with the given name. -/
def command? (s : Scope) (name : String) : Option Name :=
  s.commands.find? fun c ↦ c.text == name

/-- Does a scope know the flag for help? -/
def hasHelp : Scope → Bool
  | .command .help => false
  | _ => true

/-- Does a scope know the flag for the version? -/
def hasVersion : Scope → Bool
  | .top => true
  | _ => false

/-- The flag of a scope with the given name. -/
def flag? (s : Scope) (name : String) : Option Flag := s.flags.find? fun f ↦ f.name == name

/-- A flag of a scope as it is shown, by its name.  Those for help and for the version take no
value. -/
def shown (s : Scope) (name : String) : String :=
  match s.flag? name with
  | some f => f.shown
  | none => "--" ++ name

/-- The names of all flags of a scope. -/
def flagNames (s : Scope) : List String :=
  s.flags.map Flag.name ++ (if s.hasHelp then ["help"] else []) ++
    (if s.hasVersion then ["version"] else [])

end Scope
end CommandLine
end ClusterConsole
