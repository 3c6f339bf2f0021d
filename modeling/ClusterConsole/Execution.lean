import ClusterConsole.Outcome

/-!
# Running a submission to its end

An `Attempt` is what trying something came to: a result or a failure, the requests that were handed
to the transport on the way, and what was logged.  Each operation on clusters is an attempt that
looks at its own inputs first and makes its call only if nothing is wrong with them.
`Api.execute` runs the operation of a submission and renders its result.

How a request is sent is a parameter, a `Transport`.  `Api.probe` asks the server whether it is
there.
-/

set_option autoImplicit false

namespace ClusterConsole

open Http (Request Reply)
open Json (Value)

/-- What comes of sending a request: a reply, and what was logged on the way. -/
structure Delivery where
  reply : Reply
  log : Log

/-- A way of sending requests. -/
abbrev Transport := Request → Delivery

/-- The way of sending that gives the same reply to every request, and logs nothing. -/
def Transport.always (reply : Reply) : Transport := fun _ ↦ ⟨reply, []⟩

/-- What trying something came to: its result, the requests that were sent, and what was logged. -/
structure Attempt (α : Type) where
  result : Except Failure α
  sent : List Request
  log : Log

namespace Attempt

variable {α β : Type}

/-- A check of inputs with what it leaves in the log; nothing is sent for it. -/
def ofCheck (c : Except Rejection α) (log : Log) : Attempt α :=
  ⟨c.mapError Rejection.failure, [], log⟩

/-- Goes on with the result, if there is one. -/
def andThen (a : Attempt α) (next : α → Attempt β) : Attempt β :=
  match a.result with
  | .error f => ⟨.error f, a.sent, a.log⟩
  | .ok x =>
    let b := next x
    ⟨b.result, a.sent ++ b.sent, a.log ++ b.log⟩

end Attempt

/-- What a submission came to: its outcome, the requests that were sent, and what was logged. -/
structure Execution where
  outcome : Outcome
  sent : List Request
  log : Log

namespace Execution

/-- An attempt with its result as it is shown. -/
def render {α : Type} (shown : Except Failure α → Outcome) (a : Attempt α) : Execution :=
  ⟨shown a.result, a.sent, a.log⟩

/-- What is printed about it. -/
def printed (e : Execution) : String := e.outcome.printed

/-- Did it end well? -/
def ok (e : Execution) : Bool := e.outcome.update.kind != .error

end Execution

namespace Api

/-! ## The operations on clusters -/

/-- Makes a call: sends its request and reads the reply. -/
def make {α : Type} (api : Api) (send : Transport) (call : Call)
    (read : Reply → Except Failure α) : Attempt α :=
  let request := api.request call
  let delivery := send request
  ⟨read delivery.reply, [request], delivery.log⟩

/-- Creates a cluster. -/
def createCluster (api : Api) (send : Transport) (f : Fields) : Attempt String :=
  (Attempt.ofCheck (Submission.checkFields f) (Submission.create f).checkLog).andThen fun spec ↦
    api.make send (.create spec) accept

/-- Deletes the cluster of a namespace. -/
def deleteCluster (api : Api) (send : Transport) (ns : String) : Attempt String :=
  (Attempt.ofCheck (Submission.checkNamespace ns) []).andThen fun ns ↦
    api.make send (.delete ns) accept

/-- Lists all clusters; there is nothing to check. -/
def listClusters (api : Api) (send : Transport) : Attempt (List Value) :=
  api.make send .list readList

/-- Reads the cluster of a namespace. -/
def clusterDetails (api : Api) (send : Transport) (ns : String) : Attempt Value :=
  (Attempt.ofCheck (Submission.checkNamespace ns) []).andThen fun ns ↦
    api.make send (.details ns) readDetails

/-- Changes the number of replicas of a cluster. -/
def scaleCluster (api : Api) (send : Transport) (ns replicas : String) : Attempt String :=
  (Attempt.ofCheck (Submission.checkScale ns replicas) []).andThen fun p ↦
    api.make send (.scale p.1 p.2) accept

/-- Runs a submission to its end. -/
def execute (api : Api) (s : Submission) (send : Transport) : Execution :=
  match s with
  | .create f => .render (.ofWrite .create) (api.createCluster send f)
  | .delete ns => .render (.ofWrite .delete) (api.deleteCluster send ns)
  | .list => .render .ofList (api.listClusters send)
  | .details ns => .render .ofDetails (api.clusterDetails send ns)
  | .scale ns replicas => .render (.ofWrite .scale) (api.scaleCluster send ns replicas)

/-! ## Is the server there? -/

/-- What asking for the server's health came to: whether it answered well, what is printed, what
was sent, and what was logged. -/
structure Probe where
  ok : Bool
  printed : String
  sent : List Request
  log : Log

/-- What is printed about the server's health. -/
def healthText (api : Api) (r : Reply) : String :=
  match readHealth r with
  | .ok _ => "API reachable at " ++ api.base ++ "\n"
  | .error f => "API at " ++ api.base ++ " not reachable: " ++ f.message ++ "\n"

/-- What is logged about the server's health when it is asked for in the background. -/
def healthEntry (api : Api) (r : Reply) : LogEntry :=
  match readHealth r with
  | .ok _ => ⟨.info, "API reachable at " ++ api.base⟩
  | .error (.refused status _ _) =>
    ⟨.warn, "API at " ++ api.base ++ " may be unavailable (HTTP " ++ toString status ++ ")"⟩
  | .error f => ⟨.warn, "Cannot reach API at " ++ api.base ++ ": " ++ f.message⟩

/-- Asks for the server's health. -/
def probe (api : Api) (send : Transport) : Probe :=
  let request := api.request .health
  let delivery := send request
  ⟨(readHealth delivery.reply).isOk, api.healthText delivery.reply, [request], delivery.log⟩

end Api
end ClusterConsole
