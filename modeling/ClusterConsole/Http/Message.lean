import ClusterConsole.Http.Status
import ClusterConsole.Json.Value

/-!
# Requests and replies

A `Request` is what the console asks of the server, and a `Reply` what comes back: a `Response`, or
the reason why there is none.  A response with a status code that reports a failure is a response
like any other.
-/

set_option autoImplicit false

namespace ClusterConsole
namespace Http

/-- The method of a request. -/
inductive Method where
  | get
  | post
  | delete
  | other (name : String)
  deriving DecidableEq, Repr

/-- How a method is written. -/
def Method.text : Method → String
  | .get => "GET"
  | .post => "POST"
  | .delete => "DELETE"
  | .other name => name

/-- The method with the given name. -/
def Method.ofText (name : String) : Method :=
  if name = "GET" then .get
  else if name = "POST" then .post
  else if name = "DELETE" then .delete
  else .other name

/-- A request, with a JSON value as its body if it has one. -/
structure Request where
  method : Method
  url : String
  body : Option Json.Value

/-- A response: the status code, its reason and the text of the body. -/
structure Response where
  status : Nat
  reason : String
  body : String
  deriving DecidableEq, Repr

/-- The response with the standard reason of its status code. -/
def Response.standard (status : Nat) (body : String) : Response :=
  ⟨status, Http.reason status, body⟩

/-- A response, or why there is none. -/
abbrev Reply := Except String Response

end Http
end ClusterConsole
