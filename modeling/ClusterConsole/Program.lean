import ClusterConsole.CommandLine.Arguments
import ClusterConsole.Execution
import ClusterConsole.Settings.BaseUrl
import ClusterConsole.Settings.Place
import ClusterConsole.Settings.Reader

/-!
# A run of the program

A run is a value: what is printed and logged one after the other, and where the run needs something
from outside, how it goes on with what comes back.  So what a run does can be looked at without
doing it.

* `Run` is the type of runs, and `Program.run` the run for a command line.
* `Run.result` is what comes of a run in a given `World`, which says what is stored, which files
  cannot be written, and how requests are answered.
-/

set_option autoImplicit false

namespace ClusterConsole

/-- What is left of a run.  Writing may fail, with a cause in words. -/
inductive Run where
  | finish (code : Nat)
  | print (text : String) (rest : Run)
  | complain (text : String) (rest : Run)
  | openLog (rest : (fault : Option String) → Run)
  | record (entries : Log) (rest : Run)
  | readSettings (rest : (content : Option (List UInt8)) → Run)
  | saveSettings (text : String) (rest : (fault : Option String) → Run)
  | send (request : Http.Request) (rest : Delivery → Run)

namespace Program

/-- An error with its cause, as the program ends with it. -/
def errorText : List String → String
  | [] => ""
  | [message] => "Error: " ++ message ++ "\n"
  | message :: causes =>
    "Error: " ++ message ++ "\n\nCaused by:" ++
      String.join (causes.map fun c ↦ "\n    " ++ c) ++ "\n"

/-- Ends with an error. -/
def fail (chain : List String) : Run := .complain (errorText chain) (.finish 1)

/-- Ends after an operation. -/
def conclude (ok : Bool) : Run := .finish (if ok then 0 else 1)

/-- Records the entries that a limit of the log keeps, if there is a log. -/
def record (limit : Option Level) (entries : Log) (rest : Run) : Run :=
  match limit with
  | none => rest
  | some limit => .record (entries.upTo limit) rest

/-! ## Commands -/

/-- The settings after they were changed, or why they cannot be. -/
def changeSettings (s : Settings) (apiUrl : Option String) (hideAfter : Option UInt64) :
    Except BaseUrl.Fault Settings :=
  match apiUrl with
  | none => .ok ⟨s.apiUrl, hideAfter.or s.hideAfter⟩
  | some text =>
    match BaseUrl.read text with
    | .error fault => .error fault
    | .ok url => .ok ⟨some url, hideAfter.or s.hideAfter⟩

/-- Stores settings and prints them. -/
def store (s : Settings) : Run :=
  .saveSettings s.text fun fault ↦
    match fault with
    | some cause => fail ["Failed to save config", cause]
    | none => .print (s.text ++ "\n") (.finish 0)

/-- Asks for the server's health. -/
def runHealth (limit : Option Level) (api : Api) : Run :=
  .send (api.request .health) fun delivery ↦
    let p := api.probe fun _ ↦ delivery
    record limit p.log (.print p.printed (conclude p.ok))

/-- Ends a submission. -/
def finishSubmission (limit : Option Level) (e : Execution) : Run :=
  record limit e.log (.print e.printed (conclude e.ok))

/-- Runs a submission: a request is sent only if nothing is wrong with it. -/
def runSubmission (limit : Option Level) (api : Api) (s : Submission) : Run :=
  match s.check with
  | .error _ => finishSubmission limit (api.execute s (.always (.error "")))
  | .ok call =>
    .send (api.request call) fun delivery ↦
      finishSubmission limit (api.execute s fun _ ↦ delivery)

/-- What ends a run that needs a terminal and finds none. -/
def noTerminal : String := "No such device or address (os error 6)"

/-- Runs a command against a server.  Without a command the program would take over the
terminal. -/
def runAgainst (limit : Option Level) (api : Api) (command : Option Command) : Run :=
  match command with
  | none => fail [noTerminal]
  | some .health => runHealth limit api
  | some c =>
    match c.submission? with
    | some s => runSubmission limit api s
    | none => .finish 0

/-- Runs what a command line says, with the stored settings. -/
def runWith (a : Arguments) (limit : Option Level) (s : Settings) : Run :=
  match a.command with
  | some (.config apiUrl hideAfter) =>
    match changeSettings s apiUrl hideAfter with
    | .error fault => fail fault.chain
    | .ok s => store s
  | command =>
    match s.baseUrl a.apiUrl with
    | .error fault => fail fault.chain
    | .ok url =>
      record limit [⟨.info, "Using API: " ++ url⟩] (runAgainst limit (.ofUrl url) command)

/-! ## The whole run -/

/-- A limit of the log as it is logged. -/
def limitLabel : Level → String
  | .error => "Error"
  | .warn => "Warn"
  | .info => "Info"
  | .debug => "Debug"
  | .trace => "Trace"

/-- What is logged first. -/
def openingEntries (limit : Level) (path : String) : Log :=
  [⟨.info, About.program ++ " started with log level: " ++ limitLabel limit⟩,
    ⟨.info, "Log file: " ++ Text.quoted path⟩]

/-- Reads the settings and goes on with them. -/
def runArguments (configurations : String) (a : Arguments) (limit : Option Level) : Run :=
  .readSettings fun content ↦
    let (s, log) := Settings.ofFile (Place.settings configurations) content
    record limit log (runWith a limit s)

/-- Opens the log, if there is to be one.  A log that cannot be opened is done without. -/
def runLogged (configurations : String) (a : Arguments) : Run :=
  match a.limit with
  | none => runArguments configurations a none
  | some limit =>
    let path := Place.log configurations
    .openLog fun fault ↦
      match fault with
      | some cause =>
        .complain ("Failed to open log file " ++ Text.quoted path ++ ": " ++ cause ++ "\n")
          (runArguments configurations a none)
      | none =>
        record (some limit) (openingEntries limit path) (runArguments configurations a (some limit))

/-- The run for a command line.  `fromEnvironment` is the base URL that the environment gives, and
`configurations` the user's directory for configurations. -/
def run (fromEnvironment : Option String) (configurations : String) (arguments : List String) :
    Run :=
  match Arguments.parse fromEnvironment arguments with
  | .error (.help scope) => .print (scope.helpPage (fromEnvironment.getD "")) (.finish 0)
  | .error .version => .print CommandLine.versionText (.finish 0)
  | .error (.fault fault) => .complain fault.text (.finish 2)
  | .ok a => runLogged configurations a

end Program

/-! ## What comes of a run -/

/-- What a run finds outside: the stored settings if they can be read, why the log or the settings
cannot be written, and how requests are answered. -/
structure World where
  settings : Option (List UInt8)
  logFault : Option String
  saveFault : Option String
  send : Transport

/-- What comes of a run: the exit code, what was printed and complained, the log if there is one,
the settings that were written, and the requests that were sent. -/
structure Result where
  code : Nat
  printed : String
  complaints : String
  log : Option Log
  saved : Option String
  sent : List Http.Request

/-- What comes of a run in a world. -/
def Run.result (w : World) : Run → Result
  | .finish code => ⟨code, "", "", none, none, []⟩
  | .print text rest =>
    let r := rest.result w
    { r with printed := text ++ r.printed }
  | .complain text rest =>
    let r := rest.result w
    { r with complaints := text ++ r.complaints }
  | .openLog rest =>
    let r := (rest w.logFault).result w
    if w.logFault.isSome then r else { r with log := some (r.log.getD []) }
  | .record entries rest =>
    let r := rest.result w
    { r with log := some (entries ++ r.log.getD []) }
  | .readSettings rest => (rest w.settings).result w
  | .saveSettings text rest =>
    let r := (rest w.saveFault).result w
    if w.saveFault.isSome then r else { r with saved := some (r.saved.getD text) }
  | .send request rest =>
    let r := (rest (w.send request)).result w
    { r with sent := request :: r.sent }

end ClusterConsole
