import ClusterConsole.Proofs.Session.Tally
import Mathlib.Data.List.Nodup

/-!
# A pane on its own

What happens to one pane can be told without the others: a `PaneEvent` is an event as that pane sees
it, and `Solo` is a pane with its accepted submissions and its outcomes that wait to be shown.
`Solo.step` knows neither the other panes nor which pane is at the front, and it counts submissions
of this pane only.

`Recorded.happenings` are the events of a run that concern a pane, as it sees them.  The main result
is `Tally.run_solo`: in every run, each pane goes the way it goes on its own.
-/

set_option autoImplicit false

namespace ClusterConsole

open Http (Request Reply)

/-! ## One pane -/

/-- Something that can happen to a pane.  The submissions of the pane that were accepted are counted
from zero, and a reply is the reply to one of them. -/
inductive PaneEvent where
  | edited (e : Edit)
  | scrolledDown (amount : Nat)
  | scrolledUp (amount : Nat)
  | submitted (now : Instant)
  | answered (n : Nat) (r : Reply)
  | drained (now : Instant)
  | ticked (now : Instant)

/-- The pane after an outcome was shown. -/
def Pane.reveal (p : Pane) (c : Outcome) (now : Instant) : Except Crash Pane :=
  (p.status.apply c.update now).map fun status ↦
    { form := if c.resetForm then p.form.reset else p.form
      status := status
      inFlight := p.inFlight - 1 }

/-- The pane after outcomes were shown one after the other. -/
def Pane.revealAll (p : Pane) (now : Instant) : List Outcome → Except Crash Pane
  | [] => .ok p
  | c :: rest =>
    match p.reveal c now with
    | .error crash => .error crash
    | .ok q => revealAll q now rest

/-- A pane, its accepted submissions, and its outcomes that are still to be shown. -/
structure Solo where
  pane : Pane
  submissions : List Submission
  inbox : List Outcome

namespace Solo

/-- The pane of an operation before anything has happened. -/
def start (delay : Duration) (k : Operation) : Solo := ⟨Session.freshPane delay k, [], []⟩

/-- Submits the form of the pane. -/
def submit (x : Solo) (k : Operation) (now : Instant) : Except Crash Solo :=
  let submission := x.pane.form.submission
  match submission.check with
  | .error r =>
    (x.pane.status.apply (Outcome.ofFailure r.failure).update now).map fun status ↦
      { x with pane := { x.pane with status } }
  | .ok _ =>
    (x.pane.status.apply (.pending k) now).map fun status ↦
      { x with
        pane := { x.pane with status, inFlight := x.pane.inFlight + 1 }
        submissions := x.submissions ++ [submission] }

/-- Takes the reply to an accepted submission. -/
def answer (x : Solo) (n : Nat) (r : Reply) : Solo :=
  match x.submissions[n]? with
  | none => x
  | some s => { x with inbox := x.inbox ++ [s.conclude r] }

/-- What becomes of the pane of an operation when something happens to it. -/
def step (k : Operation) (x : Solo) : PaneEvent → Except Crash Solo
  | .edited e => .ok { x with pane := { x.pane with form := e.apply x.pane.form } }
  | .scrolledDown n => .ok { x with pane := { x.pane with status := x.pane.status.scrollDown n } }
  | .scrolledUp n => .ok { x with pane := { x.pane with status := x.pane.status.scrollUp n } }
  | .submitted now => x.submit k now
  | .answered n r => .ok (x.answer n r)
  | .drained now => (x.pane.revealAll now x.inbox).map fun p ↦ { x with pane := p, inbox := [] }
  | .ticked now => .ok { x with pane := { x.pane with status := x.pane.status.tick now } }

/-- What becomes of it when several things happen. -/
def run (k : Operation) (x : Solo) : List PaneEvent → Except Crash Solo
  | [] => .ok x
  | e :: rest =>
    match x.step k e with
    | .error crash => .error crash
    | .ok y => run k y rest

variable {k : Operation} {x y : Solo} {es : List PaneEvent}

theorem submit_of_check_ok {now : Instant} {call : Call} {status : StatusArea}
    (hcheck : x.pane.form.submission.check = .ok call)
    (hstatus : x.pane.status.apply (.pending k) now = .ok status) :
    x.submit k now = .ok
      ⟨{ x.pane with status, inFlight := x.pane.inFlight + 1 },
        x.submissions ++ [x.pane.form.submission], x.inbox⟩ := by
  rw [submit, hcheck, hstatus]
  rfl

theorem submit_of_check_error {now : Instant} {r : Rejection} {status : StatusArea}
    (hcheck : x.pane.form.submission.check = .error r)
    (hstatus : x.pane.status.apply (Outcome.ofFailure r.failure).update now = .ok status) :
    x.submit k now = .ok ⟨{ x.pane with status }, x.submissions, x.inbox⟩ := by
  rw [submit, hcheck]
  exact congrArg (Except.map _) hstatus

theorem run_append (h : x.run k es = .ok y) (fs : List PaneEvent) :
    x.run k (es ++ fs) = y.run k fs := by
  induction es generalizing x with
  | nil =>
    cases h
    rfl
  | cons e rest ih =>
    rw [run] at h
    rw [List.cons_append, run]
    split at h
    · exact nomatch h
    · exact ih h

end Solo

/-! ## What concerns a pane -/

/-- What a key does to the pane at the front, if it does anything to it. -/
def Action.paneEvent? (a : Action) (now : Instant) : Option PaneEvent :=
  match a with
  | .focusNext => some (.edited .focusNext)
  | .focusPrevious => some (.edited .focusPrevious)
  | .scrollDown => some (.scrolledDown scrollStep)
  | .scrollUp => some (.scrolledUp scrollStep)
  | .submit => some (.submitted now)
  | .reset => some (.edited .reset)
  | .clear => some (.edited .clear)
  | .insert c => some (.edited (.insert c))
  | .backspace => some (.edited .backspace)
  | .quit | .nothing | .nextPane | .previousPane | .openHelp | .closeHelp => none

/-- The tickets that were given for submissions of the pane of an operation. -/
def History.ticketsOf (h : History) (k : Operation) : List Ticket :=
  (h.accepted.filter fun a ↦ a.1 = k).map Prod.snd

/-- The outcomes of an operation among several. -/
def outcomesOf (k : Operation) (cs : List Completion) : List Outcome :=
  (cs.filter fun c ↦ c.operation = k).map Completion.outcome

namespace Recorded

/-- An event as the pane of an operation sees it, if it concerns that pane.  A reply that nobody
waits for concerns none. -/
def paneEvent? (x : Recorded) (k : Operation) : Event → Option PaneEvent
  | .key kc m now =>
    if x.session.active = k then (kc.action m x.session.mode x.session.active).paneEvent? now
    else none
  | .edit o e => if o = k then some (.edited e) else none
  | .scrollDown o amount => if o = k then some (.scrolledDown amount) else none
  | .scrollUp o amount => if o = k then some (.scrolledUp amount) else none
  | .choose _ => none
  | .submit o now => if o = k then some (.submitted now) else none
  | .send => none
  | .answer id r =>
    match x.session.outstanding.find? fun t ↦ t.id == id with
    | none => none
    | some t =>
      if t.submission.operation = k then
        some (.answered ((x.history.ticketsOf k).findIdx fun u ↦ u.id == t.id) r)
      else none
  | .drain now => some (.drained now)
  | .tick now => some (.ticked now)

/-- What happens to the pane of an operation when several events happen. -/
def happenings (x : Recorded) (k : Operation) : List Event → List PaneEvent
  | [] => []
  | e :: rest =>
    match x.step e with
    | .error _ => []
    | .ok y => (x.paneEvent? k e).toList ++ y.happenings k rest

/-- What a session and its history have of the pane of an operation. -/
def solo (x : Recorded) (k : Operation) : Solo where
  pane := x.session.pane k
  submissions := (x.history.ticketsOf k).map Ticket.submission
  inbox := outcomesOf k x.session.inbox

end Recorded

/-! ## What is seen of a history and an inbox -/

@[simp] theorem History.ticketsOf_append (h g : History) (k : Operation) :
    History.ticketsOf (h ++ g) k = h.ticketsOf k ++ g.ticketsOf k := by
  simp [ticketsOf]

theorem History.ticketsOf_accepted (o k : Operation) (t : Ticket) :
    History.ticketsOf [.accepted o t] k = if o = k then [t] else [] := by
  by_cases ho : o = k <;> simp [ticketsOf, accepted, ho]

/-- An entry that is not an accepted submission gives no ticket. -/
theorem History.ticketsOf_eq_nil {h : History} (hh : h.accepted = []) (k : Operation) :
    h.ticketsOf k = [] := by
  rw [ticketsOf, hh]
  rfl

theorem outcomesOf_cons (k : Operation) (c : Completion) (cs : List Completion) :
    outcomesOf k (c :: cs) =
      if c.operation = k then c.outcome :: outcomesOf k cs else outcomesOf k cs := by
  by_cases hc : c.operation = k <;> simp [outcomesOf, hc]

theorem outcomesOf_append_singleton (k : Operation) (cs : List Completion) (c : Completion) :
    outcomesOf k (cs ++ [c]) =
      outcomesOf k cs ++ if c.operation = k then [c.outcome] else [] := by
  by_cases hc : c.operation = k <;> simp [outcomesOf, hc]

/-- A pane shows its own outcomes when the inbox is emptied, in the order in which they came. -/
theorem Session.revealAll_applyAll {now : Instant} {cs : List Completion} {s : Session}
    {d : Drained} (h : applyAll s now cs = .ok d) (k : Operation) :
    (s.pane k).revealAll now (outcomesOf k cs) = .ok (d.session.pane k) := by
  have hall := applyAll_induction
    (P := fun t rest ↦ (t.pane k).revealAll now (outcomesOf k rest) =
      (s.pane k).revealAll now (outcomesOf k cs))
    (fun t c rest status ht hstatus ↦ ?_) rfl h
  · exact hall.symm
  · rw [← ht, outcomesOf_cons]
    by_cases hc : c.operation = k
    · subst hc
      rw [if_pos rfl, Pane.revealAll, Pane.reveal, hstatus, reveal, pane_setPane, if_pos rfl]
      rfl
    · rw [if_neg hc, reveal, pane_setPane, if_neg (Ne.symm hc)]

namespace Tally

variable {api : Api} {delay : Duration} {x y : Recorded} {k : Operation}

/-- The tickets of a pane are told apart by their numbers. -/
theorem nodup_ticketsOf (h : Tally api delay x) (k : Operation) :
    ((x.history.ticketsOf k).map Ticket.id).Nodup := by
  have hall : (x.history.accepted.map fun a ↦ a.2.id).Nodup := h.ids_eq ▸ List.nodup_range
  rw [History.ticketsOf, List.map_map]
  exact hall.sublist (List.filter_sublist.map _)

/-- The number of a ticket tells which submission of its pane it was given for. -/
theorem submission_of_findIdx (h : Tally api delay x) {t : Ticket}
    (ht : t ∈ x.session.outstanding) (hk : t.submission.operation = k) :
    ((x.history.ticketsOf k).map Ticket.submission)[
      (x.history.ticketsOf k).findIdx fun u ↦ u.id == t.id]? = some t.submission := by
  have hmem : t ∈ x.history.ticketsOf k := by
    have haccepted := h.mem_accepted_of_mem_tickets
      (List.mem_append_right _ (List.mem_append_left _ ht))
    exact List.mem_map.2 ⟨_, List.mem_filter.2 ⟨haccepted, decide_eq_true hk⟩, rfl⟩
  have hlt : (x.history.ticketsOf k).findIdx (fun u ↦ u.id == t.id) <
      (x.history.ticketsOf k).length :=
    List.findIdx_lt_length_of_exists ⟨t, hmem, beq_self_eq_true t.id⟩
  have hid := beq_iff_eq.1 (List.findIdx_getElem (w := hlt))
  have heq := List.inj_on_of_nodup_map (h.nodup_ticketsOf k) (List.getElem_mem hlt) hmem hid
  rw [List.getElem?_map, List.getElem?_eq_getElem hlt, heq]
  rfl

end Tally

/-! ## One event -/

namespace Recorded

variable {x : Recorded} {k : Operation}

/-- What one pane sees and all others do not see. -/
theorem run_solo_of_step {y : Recorded} {o : Operation} {e : PaneEvent}
    (hstep : (x.solo o).step o e = .ok (y.solo o)) (hother : ∀ k, k ≠ o → y.solo k = x.solo k)
    (k : Operation) :
    (x.solo k).run k (if o = k then some e else none).toList = .ok (y.solo k) := by
  by_cases ho : o = k
  · subst ho
    rw [if_pos rfl, Option.toList, Solo.run, hstep]
    rfl
  · rw [if_neg ho, hother k (Ne.symm ho)]
    rfl

/-- A change of one pane that gives no ticket and brings no outcome is seen by that pane only. -/
theorem run_solo_setPane {o : Operation} {e : PaneEvent} {p : Pane}
    (hstep : (x.solo o).step o e = .ok ⟨p, (x.solo o).submissions, (x.solo o).inbox⟩)
    (k : Operation) :
    (x.solo k).run k (if o = k then some e else none).toList =
      .ok (Recorded.solo ⟨x.session.setPane o p, x.history⟩ k) := by
  refine run_solo_of_step ?_ (fun k hk ↦ ?_) k
  · have hpane : (x.session.setPane o p).pane o = p := by rw [Session.pane_setPane, if_pos rfl]
    rw [hstep, solo, solo, hpane]
    rfl
  · rw [solo, solo, Session.pane_setPane, if_neg hk]
    rfl

/-- Entries that are not accepted submissions make no difference to a pane. -/
theorem solo_append {s : Session} {h g : History} (hg : g.accepted = []) (k : Operation) :
    solo ⟨s, h ++ g⟩ k = solo ⟨s, h⟩ k := by
  simp only [solo, History.ticketsOf_append, History.ticketsOf_eq_nil hg, List.append_nil]

/-- A submission is seen by its pane only. -/
theorem run_solo_submit {o : Operation} {now : Instant} {r : Session × Log}
    (h : x.session.submit o now = .ok r) (k : Operation) :
    (x.solo k).run k (if o = k then some (.submitted now) else none).toList =
      .ok (Recorded.solo ⟨r.1, x.history ++ x.session.submitNotes o⟩ k) := by
  rcases Session.cases_of_submit h with ⟨call, status, hcheck, hstatus, hr⟩ |
    ⟨reason, status, hcheck, hstatus, hr⟩
  · rw [hr, Session.submitNotes_of_check_ok hcheck]
    refine run_solo_of_step ?_ (fun k hk ↦ ?_) k
    · rw [Solo.step, Solo.submit_of_check_ok (x := x.solo o) hcheck hstatus]
      simp only [solo, Session.pane_accept, if_true, History.ticketsOf_append,
        History.ticketsOf_accepted, List.map_append, List.map_singleton]
      rfl
    · simp only [solo, Session.pane_accept, if_neg hk, History.ticketsOf_append,
        History.ticketsOf_accepted, if_neg (Ne.symm hk), List.append_nil]
      rfl
  · have hstep : (x.solo o).step o (.submitted now) =
        .ok ⟨{ x.session.pane o with status }, (x.solo o).submissions, (x.solo o).inbox⟩ :=
      Solo.submit_of_check_error (x := x.solo o) hcheck hstatus
    rw [hr, Session.submitNotes_of_check_error hcheck, solo_append rfl]
    exact run_solo_setPane hstep k

/-- A key is seen by the pane at the front only. -/
theorem run_solo_act {a : Action} {now : Instant} {p : Session.Pressed}
    (h : x.session.act a now = .ok p) (k : Operation) :
    (x.solo k).run k (if x.session.active = k then a.paneEvent? now else none).toList =
      .ok (Recorded.solo ⟨p.session,
        x.history ++ if a = .submit then x.session.submitNotes x.session.active else []⟩ k) := by
  have hfront : ∀ s : Session, s.panes = x.session.panes → s.inbox = x.session.inbox →
      (x.solo k).run k (if x.session.active = k then none else none).toList =
        .ok (Recorded.solo ⟨s, x.history ++ []⟩ k) := by
    intro s hpanes hinbox
    rw [ite_self, Option.toList, Solo.run, solo_append rfl]
    simp only [solo, Session.pane, hpanes, hinbox]
  have hchange : ∀ {e : PaneEvent} {q : Pane},
      (x.solo x.session.active).step x.session.active e =
        .ok ⟨q, (x.solo x.session.active).submissions, (x.solo x.session.active).inbox⟩ →
      (x.solo k).run k (if x.session.active = k then some e else none).toList =
        .ok (Recorded.solo ⟨x.session.setPane x.session.active q, x.history ++ []⟩ k) := by
    intro e q hstep
    rw [solo_append rfl]
    exact run_solo_setPane hstep k
  cases a with
  | submit =>
    obtain ⟨r, hr, rfl⟩ := Except.exists_of_map_eq_ok h
    exact run_solo_submit hr k
  | quit | nothing | nextPane | previousPane | openHelp | closeHelp =>
    cases h
    exact hfront _ rfl rfl
  | focusNext | focusPrevious | scrollDown | scrollUp | reset | clear | insert | backspace =>
    cases h
    exact hchange rfl

/-- Emptying the inbox is seen by every pane, as its own outcomes. -/
theorem run_solo_drain {now : Instant} {d : Session.Drained} (h : x.session.drain now = .ok d)
    (k : Operation) :
    (x.solo k).run k [.drained now] = .ok (solo
      ⟨d.session, x.history ++ x.history.unshown.map fun a ↦ .shown a.1 a.2⟩ k) := by
  have hreveal : (x.session.pane k).revealAll now (outcomesOf k x.session.inbox) =
      .ok (d.session.pane k) := Session.revealAll_applyAll h k
  have hinbox : d.session.inbox = [] := (Session.sameQueues_applyAll h).inbox_eq
  have hstep : (x.solo k).step k (.drained now) =
      .ok ⟨d.session.pane k, (x.solo k).submissions, []⟩ := congrArg (Except.map _) hreveal
  rw [solo_append (History.accepted_shown _), Solo.run, hstep]
  simp only [Solo.run, solo, hinbox]
  rfl

end Recorded

namespace Tally

variable {api : Api} {delay : Duration} {x y : Recorded}

/-- A reply is seen by the pane whose submission it answers. -/
theorem run_solo_finish (h : Tally api delay x) (id : Nat) (r : Reply) (k : Operation) :
    (x.solo k).run k (x.paneEvent? k (.answer id r)).toList =
      .ok (Recorded.solo ⟨x.session.finish id r,
        x.history ++ x.session.notes x.history (.answer id r)⟩ k) := by
  rw [Session.finish, Session.notes, Recorded.paneEvent?]
  cases hfind : x.session.outstanding.find? fun t ↦ t.id == id with
  | none =>
    rw [Recorded.solo_append rfl]
    rfl
  | some t =>
    have ht := List.mem_of_find?_eq_some hfind
    rw [Recorded.solo_append rfl]
    have hinbox := outcomesOf_append_singleton k x.session.inbox (Session.completion t r)
    by_cases hk : t.submission.operation = k
    · have hanswer : (x.solo k).answer ((x.history.ticketsOf k).findIdx fun u ↦ u.id == t.id) r =
          { x.solo k with inbox := (x.solo k).inbox ++ [t.submission.conclude r] } := by
        rw [Solo.answer, Recorded.solo, h.submission_of_findIdx ht hk]
      rw [show (Session.completion t r).operation = k from hk, if_pos rfl] at hinbox
      simp only [if_pos hk, Option.toList, Solo.run, Solo.step, hanswer]
      simp only [Recorded.solo, hinbox]
      rfl
    · rw [if_neg (show (Session.completion t r).operation ≠ k from hk), List.append_nil] at hinbox
      simp only [if_neg hk, Option.toList, Solo.run, Recorded.solo, hinbox]
      rfl

/-- **Every event does to a pane what it does to that pane on its own.** -/
theorem run_solo_step (h : Tally api delay x) {e : Event} (hy : x.step e = .ok y)
    (k : Operation) : (x.solo k).run k (x.paneEvent? k e).toList = .ok (y.solo k) := by
  obtain ⟨s, hs, rfl⟩ := Except.exists_of_map_eq_ok hy
  cases e with
  | key kc m now =>
    obtain ⟨p, hp, rfl⟩ := Except.exists_of_map_eq_ok hs
    exact Recorded.run_solo_act hp k
  | submit o now =>
    obtain ⟨r, hr, rfl⟩ := Except.exists_of_map_eq_ok hs
    exact Recorded.run_solo_submit hr k
  | edit o e =>
    cases hs
    rw [Recorded.solo_append rfl]
    exact Recorded.run_solo_setPane rfl k
  | scrollDown o amount =>
    cases hs
    rw [Recorded.solo_append rfl]
    exact Recorded.run_solo_setPane rfl k
  | scrollUp o amount =>
    cases hs
    rw [Recorded.solo_append rfl]
    exact Recorded.run_solo_setPane rfl k
  | choose o =>
    cases hs
    rw [Recorded.solo_append rfl]
    rfl
  | send =>
    cases hs
    rw [Session.notes, Recorded.solo_append (History.accepted_sent _)]
    rfl
  | answer id r =>
    cases hs
    exact h.run_solo_finish id r k
  | drain now =>
    obtain ⟨d, hd, rfl⟩ := Except.exists_of_map_eq_ok hs
    exact Recorded.run_solo_drain hd k
  | tick now =>
    cases hs
    have hpane : (x.session.tick now).pane k =
        { x.session.pane k with status := (x.session.pane k).status.tick now } := Panes.get_map ..
    rw [Recorded.solo_append rfl]
    simp only [Recorded.solo, hpane]
    rfl

/-- **In every run, a pane goes the way it goes on its own.** -/
theorem run_solo {events : List Event} :
    ∀ {x : Recorded}, Tally api delay x → x.run events = .ok y → ∀ k,
      (x.solo k).run k (x.happenings k events) = .ok (y.solo k) := by
  induction events with
  | nil =>
    rintro x - ⟨⟩ k
    rfl
  | cons e rest ih =>
    intro x hx h k
    rw [Recorded.run] at h
    split at h
    · cases h
    · next z hz =>
      have hnext := ih (hx.change (Recorded.change_of_step hz)) h k
      rw [Recorded.happenings, hz]
      exact (Solo.run_append (hx.run_solo_step hz k) _).trans hnext

end Tally

/-- After a run, a pane is as it is when what concerns it happens to it alone. -/
theorem Recorded.run_solo_start {api : Api} {delay : Duration} {events : List Event} {x : Recorded}
    (h : (start api delay).run events = .ok x) (k : Operation) :
    (Solo.start delay k).run k ((start api delay).happenings k events) = .ok (x.solo k) := by
  have hstart : (start api delay).solo k = Solo.start delay k := by cases k <;> rfl
  rw [← hstart]
  exact (Tally.start api delay).run_solo h k

end ClusterConsole
