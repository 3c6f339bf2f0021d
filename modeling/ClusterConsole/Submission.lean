import ClusterConsole.Cluster.Spec
import ClusterConsole.Failure
import ClusterConsole.Operation

/-!
# Submissions and calls

A `Submission` is the input of an operation as it was when the user submitted it.  `check` looks at
it before anything is sent, and gives the `Call` to be made or says what is wrong.  If several
things are wrong, the first in the order of the inputs is reported.
-/

set_option autoImplicit false

namespace ClusterConsole

/-- The input of an operation at the time it was submitted. -/
inductive Submission where
  | create (fields : Fields)
  | delete (ns : String)
  | list
  | details (ns : String)
  | scale (ns replicas : String)

/-- What can be asked of the server. -/
inductive Call where
  | create (spec : Spec)
  | delete (ns : String)
  | list
  | details (ns : String)
  | scale (ns : String) (replicas : Nat)
  | health

/-- The object that says which cluster is meant. -/
def Call.clusterBody (ns : String) : Json.Value := .ofMembers [("namespace", .string ns)]

/-- The object that says which cluster is meant, and how many replicas it is to have. -/
def Call.scaleBody (ns : String) (replicas : Nat) : Json.Value :=
  .ofMembers [("namespace", .string ns), ("replicas", .number (.whole replicas))]

/-- The JSON value that describes what is asked for, unless the call needs none. -/
def Call.payload? : Call → Option Json.Value
  | .create spec => some spec.body
  | .delete ns => some (clusterBody ns)
  | .details ns => some (clusterBody ns)
  | .scale ns replicas => some (scaleBody ns replicas)
  | .list => none
  | .health => none

namespace Submission

/-- The operation that was submitted. -/
def operation : Submission → Operation
  | .create _ => .create
  | .delete _ => .delete
  | .list => .list
  | .details _ => .details
  | .scale _ _ => .scale

/-- Checks the inputs for a new cluster. -/
def checkFields (f : Fields) : Except Rejection Spec :=
  if (f.text .tenantOrgId).isEmpty then .error .tenantOrgIdMissing
  else if (f.text .user).isEmpty then .error .userMissing
  else if (f.text .serviceName).isEmpty then .error .serviceNameMissing
  else .ok (.ofFields f)

/-- Checks a namespace. -/
def checkNamespace (ns : String) : Except Rejection String :=
  if ns.isEmpty then .error .namespaceMissing else .ok ns

/-- Checks a namespace and a number of replicas. -/
def checkScale (ns replicas : String) : Except Rejection (String × Nat) :=
  match checkNamespace ns with
  | .error r => .error r
  | .ok ns =>
    match Text.Numeral.replicaCount? replicas with
    | none => .error .replicasNotANumber
    | some n => .ok (ns, n)

/-- Checks a submission: the call to be made, or what is wrong. -/
def check : Submission → Except Rejection Call
  | .create f => (checkFields f).map .create
  | .delete ns => (checkNamespace ns).map .delete
  | .list => .ok .list
  | .details ns => (checkNamespace ns).map .details
  | .scale ns replicas => (checkScale ns replicas).map fun p ↦ .scale p.1 p.2

/-- What checking leaves in the log: the warnings about numbers that are left out, once the required
inputs are there. -/
def checkLog : Submission → Log
  | .create f =>
    match checkFields f with
    | .ok _ => f.warnings
    | .error _ => []
  | _ => []

end Submission
end ClusterConsole
