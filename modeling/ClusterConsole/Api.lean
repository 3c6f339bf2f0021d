import ClusterConsole.Http.Message
import ClusterConsole.Json.Reader
import ClusterConsole.Submission
import ClusterConsole.Text.Percent

/-!
# The server's interface

`Api.request` turns a call into a request to the server at a base URL.  The namespace of a cluster
goes into the path as one percent-encoded segment, or into a JSON body.

What comes back is read by `accept`, which takes the body of a response that reports success, and
by `readList` and `readDetails`, which also read it as JSON.  A list may be missing, which means
that it is empty.
-/

set_option autoImplicit false

namespace ClusterConsole

open Http (Request Reply)
open Json (Value)

/-- A server, by its base URL without slashes at the end. -/
structure Api where
  base : String
  deriving DecidableEq, Repr

/-- Drops the slashes at the end of a text. -/
def trimSlashes (s : String) : String :=
  String.ofList (s.toList.reverse.dropWhile (· == '/')).reverse

namespace Api

/-- The server at a base URL. -/
def ofUrl (url : String) : Api := ⟨trimSlashes url⟩

/-- The URL of one cluster. -/
def clusterUrl (api : Api) (ns : String) : String :=
  api.base ++ "/clusters/" ++ String.ofList (Text.Percent.encode ns.toList)

/-- The request that makes a call. -/
def request (api : Api) : Call → Request
  | .create spec => ⟨.post, api.base ++ "/clusters", some spec.body⟩
  | .delete ns => ⟨.delete, api.base ++ "/clusters", some (Call.clusterBody ns)⟩
  | .list => ⟨.get, api.base ++ "/clusters", none⟩
  | .details ns => ⟨.get, api.clusterUrl ns, none⟩
  | .scale ns replicas => ⟨.post, api.base ++ "/clusters/scale", some (Call.scaleBody ns replicas)⟩
  | .health => ⟨.get, api.base ++ "/health", none⟩

/-! ## Reading replies -/

/-- The body of a response that reports success. -/
def accept : Reply → Except Failure String
  | .error cause => .error (.unanswered cause)
  | .ok r =>
    if Http.isSuccess r.status then .ok r.body else .error (.refused r.status r.reason r.body)

/-- A body that cannot be used, and why. -/
def malformed (why : String) : Failure := .unanswered ("malformed response: " ++ why)

/-- The body of a response, read as JSON. -/
def readValue (r : Reply) : Except Failure Value :=
  match accept r with
  | .error f => .error f
  | .ok body =>
    match Json.parse body.toList with
    | .ok v => .ok v
    | .error fault => .error (malformed (fault.message body.toList))

/-- The clusters in a response. -/
def readList (r : Reply) : Except Failure (List Value) :=
  match readValue r with
  | .error f => .error f
  | .ok (.array items) => .ok items
  | .ok .null => .ok []
  | .ok v => .error (malformed ("expected a JSON array, got " ++ v.kind))

/-- The one cluster in a response. -/
def readDetails (r : Reply) : Except Failure Value := readValue r

/-- Does a response report success? -/
def readHealth (r : Reply) : Except Failure Unit := (accept r).map fun _ ↦ ()

end Api
end ClusterConsole
