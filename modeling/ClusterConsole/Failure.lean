/-!
# Why an operation fails

An operation fails in one of three ways: the input is rejected before anything is sent, the server
answers with a status code that reports a failure, or no usable answer comes back.

* `Rejection` lists what can be wrong with the input.
* `Failure.message` is what the user is told, and `Failure.messageWithBody` adds what the server
  wrote.
-/

set_option autoImplicit false

namespace ClusterConsole

/-- What is wrong with an input. -/
inductive Rejection where
  | tenantOrgIdMissing
  | userMissing
  | serviceNameMissing
  | namespaceMissing
  | replicasNotANumber
  deriving DecidableEq, Repr

/-- How a rejection is told. -/
def Rejection.message : Rejection → String
  | .tenantOrgIdMissing => "tenant org id required"
  | .userMissing => "user required"
  | .serviceNameMissing => "service name required"
  | .namespaceMissing => "namespace required"
  | .replicasNotANumber => "replicas must be a non-negative integer"

/-- Why an operation failed: its input was rejected, the server refused it, or no usable answer
came back. -/
inductive Failure where
  | rejected (reason : String)
  | refused (status : Nat) (reason body : String)
  | unanswered (cause : String)
  deriving DecidableEq, Repr

namespace Failure

/-- What the user is told. -/
def message : Failure → String
  | .rejected reason => reason
  | .refused status reason _ => toString status ++ " " ++ reason
  | .unanswered cause => "request failed: " ++ cause

/-- What the user is told, with what the server wrote below it. -/
def messageWithBody : Failure → String
  | .refused status reason body => toString status ++ " " ++ reason ++ "\n" ++ body
  | f => f.message

/-- Was the input rejected, so that nothing was sent? -/
def isRejection : Failure → Bool
  | .rejected _ => true
  | _ => false

end Failure

/-- The failure of a rejected input. -/
def Rejection.failure (r : Rejection) : Failure := .rejected r.message

end ClusterConsole
