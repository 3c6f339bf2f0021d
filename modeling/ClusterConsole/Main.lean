import ClusterConsole.Http.Exchange
import ClusterConsole.Program
import Std.Async.DNS
import Std.Async.TCP

/-!
# The program

Carries out the run for the command line: prints, keeps the log and the settings in files, and sends
requests over sockets.  What is done in which order is decided by the run alone.
-/

set_option autoImplicit false

namespace ClusterConsole
namespace Main

open Std.Async (Async)
open Std.Net (IPAddr SocketAddress)
open Std.Async.TCP.Socket (Client)

/-! ## Sockets -/

/-- A numeric address of a host, which is looked up if the host has a name. -/
def addressOf (host : Url.Host) : Async IPAddr :=
  match host with
  | .address4 n =>
    pure (.v4 ⟨Vector.ofFn fun i : Fin 4 ↦ UInt8.ofNat (n >>> (24 - 8 * i.val))⟩)
  | .address6 groups =>
    pure (.v6 ⟨Vector.ofFn fun i : Fin 8 ↦ UInt16.ofNat (groups.getD i.val 0)⟩)
  | .name s => do
    let found ← Std.Async.DNS.getAddrInfo (String.ofList s) "" none
    match found[0]? with
    | some address => pure address
    | none => throw (.userError "no address found")

/-- The address of a socket. -/
def socketAddress (address : IPAddr) (port : Nat) : SocketAddress :=
  match address with
  | .v4 a => .v4 ⟨a, UInt16.ofNat port⟩
  | .v6 a => .v6 ⟨a, UInt16.ofNat port⟩

/-- What comes over a connection, up to its close or the end of the answer. -/
partial def receive (client : Client) (method : String) (got : ByteArray) :
    Async Http.Arrived := do
  match ← client.recv? 65536 with
  | none => pure got.toList
  | some more =>
    let got := got ++ more
    if Http.isComplete method got.toList then pure got.toList else receive client method got

/-- Sends a request over a new connection and waits for what comes back; connections are not kept
for another request.  Secure connections cannot be made. -/
def converse (c : Http.Connection) : Async Http.Arrived := do
  if c.isSecure then throw (.userError "secure connections are not available")
  let address ← addressOf c.host
  let client ← (Client.mk : IO Client)
  client.connect (socketAddress address c.port)
  client.send c.wire.text.toUTF8
  receive client c.wire.method ByteArray.empty

/-- The number of an error of the system.  Sockets give it with a minus sign, as a word. -/
def errorNumber (code : UInt32) : Nat :=
  if code.toNat < UInt32.size / 2 then code.toNat else UInt32.size - code.toNat

/-- The cause of an error of the system, in words. -/
def causeText : IO.Error → String
  | .alreadyExists _ code details | .otherError code details | .resourceBusy code details
  | .resourceVanished code details | .unsupportedOperation code details
  | .hardwareFault code details | .unsatisfiedConstraints code details
  | .illegalOperation code details | .protocolError code details | .timeExpired code details
  | .interrupted _ code details | .noFileOrDirectory _ code details
  | .invalidArgument _ code details | .permissionDenied _ code details
  | .resourceExhausted _ code details | .inappropriateType _ code details
  | .noSuchThing _ code details =>
    details.capitalize ++ " (os error " ++ toString (errorNumber code) ++ ")"
  | .unexpectedEof => "unexpected end of file"
  | .userError text => text

/-- Makes the connections that a request asks for, one after the other, until its exchange needs no
further one. -/
partial def connectAll (request : Http.Request) (arrived : List Http.Arrived) :
    IO Http.Network := do
  match (Http.exchange (.ofArrived arrived) request).wanted with
  | none => return .ofArrived arrived
  | some connection =>
    try
      let more ← (converse connection).block
      connectAll request (arrived ++ [more])
    catch error => return ⟨arrived, "tcp connect error: " ++ causeText error⟩

/-! ## Files -/

/-- Does something to a file below a directory, which is made if it is missing; gives the cause if
that fails. -/
def tryBelow (directory : String) (action : IO Unit) : IO (Option String) := do
  try
    IO.FS.createDirAll directory
    action
    return none
  catch error => return some (causeText error)

/-- Adds an entry to the log. -/
def addEntry (path : String) (e : LogEntry) : IO Unit :=
  IO.FS.withFile path .append fun h ↦ h.putStrLn (e.level.label ++ " " ++ e.text)

/-- The bytes of a file, if it can be read. -/
def contentOf (path : String) : IO (Option (List UInt8)) := do
  try
    return some (← IO.FS.readBinFile path).toList
  catch _ => return none

/-! ## Runs -/

/-- Carries out a run, with the user's directory for configurations, and gives the exit code. -/
def carryOut (configurations : String) : Run → IO UInt32
  | .finish code => return UInt32.ofNat code
  | .print text rest => do
    IO.print text
    carryOut configurations rest
  | .complain text rest => do
    IO.eprint text
    carryOut configurations rest
  | .openLog rest => do
    let fault ← tryBelow (Place.directory configurations)
      (IO.FS.withFile (Place.log configurations) .append fun _ ↦ pure ())
    carryOut configurations (rest fault)
  | .record entries rest => do
    entries.forM (addEntry (Place.log configurations))
    carryOut configurations rest
  | .readSettings rest => do
    let content ← contentOf (Place.settings configurations)
    carryOut configurations (rest content)
  | .saveSettings text rest => do
    let fault ← tryBelow (Place.directory configurations)
      (IO.FS.writeFile (Place.settings configurations) text)
    carryOut configurations (rest fault)
  | .send request rest => do
    let network ← connectAll request []
    carryOut configurations (rest (Http.transport network request))

end Main
end ClusterConsole

/-- Runs the program. -/
def main (arguments : List String) : IO UInt32 := do
  let fromEnvironment ← IO.getEnv ClusterConsole.CommandLine.apiUrlVariable
  let named ← IO.getEnv "XDG_CONFIG_HOME"
  let home ← IO.getEnv "HOME"
  let configurations := ClusterConsole.Place.configurations named (home.getD "")
  ClusterConsole.Main.carryOut configurations
    (ClusterConsole.Program.run fromEnvironment configurations arguments)
