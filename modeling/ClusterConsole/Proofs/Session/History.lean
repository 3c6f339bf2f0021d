import ClusterConsole.Keyboard

/-!
# Runs of a session, and their histories

What a session has come to depends on everything that has happened to it.  This file says what can
happen, and what of it a bystander would note down, so that properties of a session can be stated
about its history.

* `Event` lists what can happen: keys, edits and scrolling of any pane, submissions, sending,
  replies in any order, outcomes being shown, and the passing of time.  Outcomes reach a pane only
  through the inbox.  `Session.step` is what a session becomes.
* `Note` is an entry of a history.  Only what bears on requests is noted.  A submission is noted
  together with a snapshot of the form it came from, and the outcomes that are shown are noted as
  replies to such snapshots, so a history knows nothing of counters, inboxes or status areas.
* `Recorded` is a session with its history, and `Recorded.run` runs events one after the other.

Replies are shown in the order in which they came, and `History.unshown` are those that wait to be.
-/

set_option autoImplicit false

namespace ClusterConsole

open Http (Request Reply)

/-! ## Events -/

/-- A change that a user can make to a form. -/
inductive Edit where
  | set (key : Key) (value : String)
  | insert (c : Char)
  | backspace
  | clear
  | focusNext
  | focusPrevious
  | focus (n : Nat)
  | reset
  deriving DecidableEq, Repr

/-- The form after a change. -/
def Edit.apply : Edit → Form → Form
  | .set key value, f => f.set key value
  | .insert c, f => f.insert c
  | .backspace, f => f.backspace
  | .clear, f => f.clear
  | .focusNext, f => f.focusNext
  | .focusPrevious, f => f.focusPrevious
  | .focus n, f => { f with focus := n }
  | .reset, f => f.reset

/-- Something that can happen to a session. -/
inductive Event where
  | key (k : KeyCode) (m : Modifiers) (now : Instant)
  | edit (o : Operation) (e : Edit)
  | scrollDown (o : Operation) (amount : Nat)
  | scrollUp (o : Operation) (amount : Nat)
  | choose (o : Operation)
  | submit (o : Operation) (now : Instant)
  | send
  | answer (id : Nat) (r : Reply)
  | drain (now : Instant)
  | tick (now : Instant)

/-- The session after an event. -/
def Session.step (s : Session) : Event → Except Crash Session
  | .key k m now => (s.press k m now).map fun p ↦ p.session
  | .edit o e => .ok (s.editForm o e.apply)
  | .scrollDown o amount => .ok (s.editStatus o fun a ↦ a.scrollDown amount)
  | .scrollUp o amount => .ok (s.editStatus o fun a ↦ a.scrollUp amount)
  | .choose o => .ok { s with active := o }
  | .submit o now => (s.submit o now).map fun r ↦ r.1
  | .send => .ok s.dispatch.1
  | .answer id r => .ok (s.finish id r)
  | .drain now => (s.drain now).map fun d ↦ d.session
  | .tick now => .ok (s.tick now)

/-! ## Histories -/

/-- An entry of a history. -/
inductive Note where
  /-- A submission from the pane of an operation passed its check. -/
  | accepted (o : Operation) (t : Ticket)
  /-- A submission from the pane of an operation was rejected. -/
  | rejected (o : Operation) (r : Rejection)
  /-- A request was sent. -/
  | sent (q : Request)
  /-- The reply to a request came. -/
  | answered (t : Ticket) (r : Reply)
  /-- The outcome of a reply was shown. -/
  | shown (t : Ticket) (r : Reply)

/-- What has happened, the oldest entry first. -/
abbrev History := List Note

namespace History

/-- The accepted submissions, with the operations of the panes they came from. -/
def accepted (h : History) : List (Operation × Ticket) :=
  h.filterMap fun n ↦ match n with
    | .accepted o t => some (o, t)
    | _ => none

/-- The requests that were sent. -/
def requests (h : History) : List Request :=
  h.filterMap fun n ↦ match n with
    | .sent q => some q
    | _ => none

/-- The replies that came. -/
def answers (h : History) : List (Ticket × Reply) :=
  h.filterMap fun n ↦ match n with
    | .answered t r => some (t, r)
    | _ => none

/-- The replies whose outcomes were shown. -/
def shown (h : History) : List (Ticket × Reply) :=
  h.filterMap fun n ↦ match n with
    | .shown t r => some (t, r)
    | _ => none

/-- The replies whose outcomes are still to be shown.  Those that came first are shown first. -/
def unshown (h : History) : List (Ticket × Reply) := h.answers.drop h.shown.length

end History

namespace Session

/-- What is noted about a submission of the form of an operation, as the form is now. -/
def submitNotes (s : Session) (o : Operation) : List Note :=
  let submission := (s.pane o).form.submission
  match submission.check with
  | .ok _ => [.accepted o ⟨s.nextId, submission⟩]
  | .error r => [.rejected o r]

/-- What is noted about an event, after the history `h`. -/
def notes (s : Session) (h : History) : Event → List Note
  | .key k m _ => if k.action m s.mode s.active = .submit then s.submitNotes s.active else []
  | .submit o _ => s.submitNotes o
  | .send => s.dispatch.2.1.map .sent
  | .answer id r =>
    match s.outstanding.find? fun t ↦ t.id == id with
    | some t => [.answered t r]
    | none => []
  | .drain _ => h.unshown.map fun a ↦ .shown a.1 a.2
  | .edit .. | .scrollDown .. | .scrollUp .. | .choose _ | .tick _ => []

end Session

/-! ## Runs -/

/-- A session together with its history. -/
structure Recorded where
  session : Session
  history : History

namespace Recorded

/-- The session of a server at its beginning, when nothing has happened. -/
def start (api : Api) (delay : Duration) : Recorded := ⟨.start api delay, []⟩

/-- The session and its history after an event. -/
def step (x : Recorded) (e : Event) : Except Crash Recorded :=
  (x.session.step e).map fun s ↦ ⟨s, x.history ++ x.session.notes x.history e⟩

/-- The session and its history after several events. -/
def run (x : Recorded) : List Event → Except Crash Recorded
  | [] => .ok x
  | e :: rest =>
    match x.step e with
    | .error crash => .error crash
    | .ok y => run y rest

/-- What holds in the beginning and is kept by every step holds after every run. -/
theorem run_induction {api : Api} {delay : Duration} {P : Recorded → Prop}
    (hstart : P (.start api delay)) (hstep : ∀ x e y, P x → x.step e = .ok y → P y)
    {events : List Event} {x : Recorded} (h : (start api delay).run events = .ok x) : P x := by
  have hrun : ∀ (events : List Event) (x y : Recorded), P x → x.run events = .ok y → P y := by
    intro events
    induction events with
    | nil =>
      intro x y hx h
      cases h
      exact hx
    | cons e rest ih =>
      intro x y hx h
      rw [run] at h
      split at h
      · exact nomatch h
      · next z hz => exact ih z y (hstep x e z hx hz) h
  exact hrun events _ x hstart h

end Recorded
end ClusterConsole
