import ClusterConsole.Execution
import ClusterConsole.Form
import ClusterConsole.StatusArea

/-!
# Sessions

A session holds the five panes of the console, each with its form and its status area, and the
requests that are under way.

A submission that passes its check waits to be sent (`Session.submit`), is sent (`Session.dispatch`)
and then is outstanding until its reply comes (`Session.finish`).  The outcome is put into an inbox,
and shown when the inbox is emptied (`Session.drain`).  So whichever reply comes last decides what a
pane shows, and every pane counts its requests until their outcomes are shown.

Submissions are never held back: each one makes its own request, and its outcome is computed from
the inputs as they were when it was submitted.
-/

set_option autoImplicit false

namespace ClusterConsole

open Http (Request Reply)

/-- A form, its status area, and how many of its requests have no outcome shown yet. -/
structure Pane where
  form : Form
  status : StatusArea
  inFlight : Nat

/-- The panes, one for every operation. -/
structure Panes where
  create : Pane
  delete : Pane
  list : Pane
  details : Pane
  scale : Pane

namespace Panes

/-- The pane of an operation. -/
def get (p : Panes) : Operation → Pane
  | .create => p.create
  | .delete => p.delete
  | .list => p.list
  | .details => p.details
  | .scale => p.scale

/-- The panes with that of one operation replaced. -/
def set (p : Panes) (o : Operation) (pane : Pane) : Panes :=
  match o with
  | .create => { p with create := pane }
  | .delete => { p with delete := pane }
  | .list => { p with list := pane }
  | .details => { p with details := pane }
  | .scale => { p with scale := pane }

@[simp] theorem get_set (p : Panes) (o k : Operation) (pane : Pane) :
    (p.set o pane).get k = if k = o then pane else p.get k := by
  cases o <;> cases k <;> simp [get, set]

/-- The panes, all changed in the same way. -/
def map (p : Panes) (change : Pane → Pane) : Panes :=
  ⟨change p.create, change p.delete, change p.list, change p.details, change p.scale⟩

@[simp] theorem get_map (p : Panes) (change : Pane → Pane) (k : Operation) :
    (p.map change).get k = change (p.get k) := by
  cases k <;> rfl

end Panes

/-- Whether the user works with the panes, or reads the help. -/
inductive Mode where
  | normal
  | help
  deriving DecidableEq, Repr

/-- A submission whose request is to be sent or has been sent. -/
structure Ticket where
  id : Nat
  submission : Submission

/-- The outcome of a request that came back. -/
structure Completion where
  operation : Operation
  outcome : Outcome
  deriving DecidableEq, Repr

/-- The state of the console. -/
structure Session where
  api : Api
  panes : Panes
  active : Operation
  mode : Mode
  waiting : List Ticket
  outstanding : List Ticket
  inbox : List Completion
  nextId : Nat

namespace Session

/-- The pane of an operation before anything was entered. -/
def freshPane (delay : Duration) (o : Operation) : Pane := ⟨.blank o, .hidden delay, 0⟩

/-- The session of a server, with the delay after which final messages hide themselves. -/
def start (api : Api) (delay : Duration) : Session where
  api := api
  panes :=
    ⟨freshPane delay .create, freshPane delay .delete, freshPane delay .list,
      freshPane delay .details, freshPane delay .scale⟩
  active := .create
  mode := .normal
  waiting := []
  outstanding := []
  inbox := []
  nextId := 0

/-- The pane of an operation. -/
def pane (s : Session) (o : Operation) : Pane := s.panes.get o

/-- The session with the pane of one operation replaced. -/
def setPane (s : Session) (o : Operation) (p : Pane) : Session :=
  { s with panes := s.panes.set o p }

@[simp] theorem pane_setPane (s : Session) (o k : Operation) (p : Pane) :
    (s.setPane o p).pane k = if k = o then p else s.pane k := Panes.get_set s.panes o k p

/-- The pane the user works with. -/
def activePane (s : Session) : Pane := s.pane s.active

/-- Changes a form. -/
def editForm (s : Session) (o : Operation) (change : Form → Form) : Session :=
  s.setPane o { s.pane o with form := change (s.pane o).form }

/-- Changes a status area. -/
def editStatus (s : Session) (o : Operation) (change : StatusArea → StatusArea) : Session :=
  s.setPane o { s.pane o with status := change (s.pane o).status }

/-! ## Submitting and sending -/

/-- The log entry of a rejected submission. -/
def rejectionEntry (o : Operation) (r : Rejection) : LogEntry :=
  ⟨.debug, o.title ++ " rejected: " ++ r.message⟩

/-- The log entry of an accepted submission. -/
def submissionEntry (o : Operation) : LogEntry :=
  ⟨.info, Log.requestMark ++ " " ++ o.title ++ " submitted"⟩

/-- Submits the form of an operation: shows what is wrong with it, or has its request sent. -/
def submit (s : Session) (o : Operation) (now : Instant) : Except Crash (Session × Log) :=
  let pane := s.pane o
  let submission := pane.form.submission
  match submission.check with
  | .error r =>
    (pane.status.apply (Outcome.ofFailure r.failure).update now).map fun status ↦
      (s.setPane o { pane with status }, submission.checkLog ++ [rejectionEntry o r])
  | .ok _ =>
    (pane.status.apply (.pending o) now).map fun status ↦
      ({ s.setPane o { pane with status, inFlight := pane.inFlight + 1 } with
          waiting := s.waiting ++ [⟨s.nextId, submission⟩]
          nextId := s.nextId + 1 },
        submission.checkLog ++ [submissionEntry o])

/-- The request of a submission, if nothing is wrong with it. -/
def requestOf (api : Api) (t : Ticket) : Option Request :=
  match t.submission.check with
  | .ok call => some (api.request call)
  | .error _ => none

/-- Sends the requests that wait. -/
def dispatch (s : Session) : Session × List Request × Log :=
  ({ s with waiting := [], outstanding := s.outstanding ++ s.waiting },
    s.waiting.filterMap (requestOf s.api),
    s.waiting.flatMap fun t ↦ t.submission.checkLog)

/-! ## Outcomes -/

/-- The outcome of a ticket's reply. -/
def completion (t : Ticket) (r : Reply) : Completion :=
  ⟨t.submission.operation, t.submission.conclude r⟩

/-- Takes the reply to an outstanding request. -/
def finish (s : Session) (id : Nat) (r : Reply) : Session :=
  match s.outstanding.find? fun t ↦ t.id == id with
  | none => s
  | some t =>
    { s with
      outstanding := s.outstanding.filter fun t ↦ t.id != id
      inbox := s.inbox ++ [completion t r] }

/-- The log entry of an outcome. -/
def completionEntry (c : Completion) : LogEntry :=
  ⟨.info,
    Log.requestMark ++ " " ++ c.operation.title ++ " finished: " ++ c.outcome.update.kind.name⟩

/-- Shows an outcome. -/
def applyCompletion (s : Session) (c : Completion) (now : Instant) : Except Crash (Session × Log) :=
  let pane := s.pane c.operation
  (pane.status.apply c.outcome.update now).map fun status ↦
    (s.setPane c.operation
      { form := if c.outcome.resetForm then pane.form.reset else pane.form
        status := status
        inFlight := pane.inFlight - 1 },
      [completionEntry c])

/-- What showing outcomes came to: the session after it, how many were shown, and what was
logged. -/
structure Drained where
  session : Session
  applied : Nat
  log : Log

/-- Shows outcomes one after the other, and counts them. -/
def applyAll (s : Session) (now : Instant) : List Completion → Except Crash Drained
  | [] => .ok ⟨s, 0, []⟩
  | c :: rest =>
    match s.applyCompletion c now with
    | .error crash => .error crash
    | .ok (s, log) =>
      (applyAll s now rest).map fun d ↦ ⟨d.session, d.applied + 1, log ++ d.log⟩

/-- Shows all outcomes in the inbox, in the order in which they came. -/
def drain (s : Session) (now : Instant) : Except Crash Drained :=
  applyAll { s with inbox := [] } now s.inbox

/-- Hides the messages whose deadlines have passed. -/
def tick (s : Session) (now : Instant) : Session :=
  { s with panes := s.panes.map fun p ↦ { p with status := p.status.tick now } }

end Session
end ClusterConsole
