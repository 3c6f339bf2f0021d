import ClusterConsole.Api
import ClusterConsole.Json.Printer

/-!
# What is shown for a result

The result of an operation becomes an `Outcome`: a message of one of three kinds, perhaps with
further lines, and whether the inputs it came from are to be emptied.  They are emptied only when
something was written successfully.

What the server wrote is shown as it is for the operations that write, on success and on refusal.
For those that read, it is shown as JSON spread over lines, and never on refusal.
-/

set_option autoImplicit false

namespace ClusterConsole

open Http (Reply)
open Json (Value)

/-- The kind of a message. -/
inductive Kind where
  | info
  | success
  | error
  deriving DecidableEq, Repr

namespace Kind

/-- Is the operation over? -/
def isFinal : Kind → Bool
  | .info => false
  | .success => true
  | .error => true

/-- The sign that stands before a message. -/
def icon : Kind → String
  | .info => "↻"
  | .success => "✓"
  | .error => "✗"

/-- The name of a kind in the log. -/
def name : Kind → String
  | .info => "Info"
  | .success => "Success"
  | .error => "Error"

end Kind

/-- A message, and perhaps further lines below it. -/
structure Update where
  kind : Kind
  message : String
  detail : Option String
  deriving DecidableEq, Repr

/-- What is shown while a request of an operation is under way. -/
def Update.pending (o : Operation) : Update := ⟨.info, o.pending, none⟩

/-- What is shown for a result, and whether the inputs are to be emptied. -/
structure Outcome where
  update : Update
  resetForm : Bool
  deriving DecidableEq, Repr

/-- The operations that change a cluster. -/
inductive Write where
  | create
  | delete
  | scale
  deriving DecidableEq, Repr

/-- What is said when a change was made. -/
def Write.done : Write → String
  | .create => "cluster created"
  | .delete => "cluster deleted"
  | .scale => "cluster scaled"

/-- What is said when a change was refused. -/
def Write.failed : Write → String
  | .create => "create failed"
  | .delete => "delete failed"
  | .scale => "scale failed"

namespace Outcome

/-- The outcome of a failure that is told as it is. -/
def ofFailure (f : Failure) : Outcome := ⟨⟨.error, f.message, none⟩, false⟩

/-- The outcome of a change. -/
def ofWrite (w : Write) : Except Failure String → Outcome
  | .ok body => ⟨⟨.success, w.done ++ "\n" ++ body, none⟩, true⟩
  | .error (.refused status reason body) =>
    ⟨⟨.error, w.failed ++ ": " ++ (Failure.refused status reason body).messageWithBody, none⟩,
      false⟩
  | .error f => ofFailure f

/-- The outcome of a failure to read. -/
def ofReadFailure : Failure → Outcome
  | .refused status reason body =>
    ⟨⟨.error, "query failed: " ++ (Failure.refused status reason body).message, none⟩, false⟩
  | f => ofFailure f

/-- The outcome of reading the list of clusters. -/
def ofList : Except Failure (List Value) → Outcome
  | .ok items =>
    ⟨⟨.success, "found " ++ toString items.length ++ " clusters",
      some (Value.array items).prettyString⟩, false⟩
  | .error f => ofReadFailure f

/-- The outcome of reading one cluster. -/
def ofDetails : Except Failure Value → Outcome
  | .ok v => ⟨⟨.success, "query succeeded", some v.prettyString⟩, false⟩
  | .error f => ofReadFailure f

/-- The outcome as it is printed: the message after its sign, and the further lines. -/
def printed (o : Outcome) : String :=
  o.update.kind.icon ++ " " ++ o.update.message ++ "\n" ++
    match o.update.detail with
    | some detail => detail ++ "\n"
    | none => ""

end Outcome

/-- The outcome of a reply to a submission. -/
def Submission.conclude (s : Submission) (r : Reply) : Outcome :=
  match s with
  | .create _ => .ofWrite .create (Api.accept r)
  | .delete _ => .ofWrite .delete (Api.accept r)
  | .list => .ofList (Api.readList r)
  | .details _ => .ofDetails (Api.readDetails r)
  | .scale _ _ => .ofWrite .scale (Api.accept r)

end ClusterConsole
