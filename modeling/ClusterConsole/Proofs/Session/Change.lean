import ClusterConsole.Proofs.Session.History
import ClusterConsole.Proofs.StatusArea

/-!
# What one event can do

There are many events, but only six things that one of them can do to a session and its history:
nothing that bears on a request or a message (`Session.Quiet`), accepting or rejecting a submission,
sending what waits, taking a reply, and showing the outcomes in the inbox.  `Change` lists them, and
`Recorded.change_of_step` says that there are no others.  What follows about runs is proved by cases
on `Change`, so it does not depend on which keys and operations lead to one.
-/

set_option autoImplicit false

namespace ClusterConsole

open Http (Request Reply)

/-! ## Changes without a message -/

/-- What becomes of a pane when no message comes: its form is edited, time passes, or the details
are scrolled. -/
inductive Pane.Quiet (p : Pane) : Pane → Prop
  | same : p.Quiet p
  | edited (e : Edit) : p.Quiet { p with form := e.apply p.form }
  | ticked (now : Instant) : p.Quiet { p with status := p.status.tick now }
  | scrolledDown (amount : Nat) : p.Quiet { p with status := p.status.scrollDown amount }
  | scrolledUp (amount : Nat) : p.Quiet { p with status := p.status.scrollUp amount }

/-- The requests, their replies and the server are the same. -/
structure Session.SameQueues (s s' : Session) : Prop where
  api_eq : s'.api = s.api
  waiting_eq : s'.waiting = s.waiting
  outstanding_eq : s'.outstanding = s.outstanding
  inbox_eq : s'.inbox = s.inbox
  nextId_eq : s'.nextId = s.nextId

/-- No request and no message is concerned; the panes may change quietly, and another pane or the
help may come to the front. -/
structure Session.Quiet (s s' : Session) : Prop extends s.SameQueues s' where
  pane_quiet : ∀ k, (s.pane k).Quiet (s'.pane k)

namespace Session

theorem sameQueues_setPane (s : Session) (o : Operation) (p : Pane) :
    s.SameQueues (s.setPane o p) := ⟨rfl, rfl, rfl, rfl, rfl⟩

theorem SameQueues.trans {s t u : Session} (h : s.SameQueues t) (h' : t.SameQueues u) :
    s.SameQueues u where
  api_eq := h'.api_eq.trans h.api_eq
  waiting_eq := h'.waiting_eq.trans h.waiting_eq
  outstanding_eq := h'.outstanding_eq.trans h.outstanding_eq
  inbox_eq := h'.inbox_eq.trans h.inbox_eq
  nextId_eq := h'.nextId_eq.trans h.nextId_eq

theorem Quiet.refl (s : Session) : s.Quiet s := ⟨⟨rfl, rfl, rfl, rfl, rfl⟩, fun _ ↦ .same⟩

theorem quiet_front (s : Session) (o : Operation) (m : Mode) :
    s.Quiet { s with active := o, mode := m } := ⟨⟨rfl, rfl, rfl, rfl, rfl⟩, fun _ ↦ .same⟩

/-- Changing one pane quietly is a quiet change. -/
theorem quiet_setPane {s : Session} {o : Operation} {p : Pane} (h : (s.pane o).Quiet p) :
    s.Quiet (s.setPane o p) := by
  refine ⟨sameQueues_setPane s o p, fun k ↦ ?_⟩
  rw [pane_setPane]
  split
  · next hk => exact hk ▸ h
  · exact .same

theorem quiet_editForm (s : Session) (o : Operation) (e : Edit) :
    s.Quiet (s.editForm o e.apply) := quiet_setPane (.edited e)

theorem quiet_tick (s : Session) (now : Instant) : s.Quiet (s.tick now) := by
  refine ⟨⟨rfl, rfl, rfl, rfl, rfl⟩, fun k ↦ ?_⟩
  rw [show (s.tick now).pane k = { s.pane k with status := (s.pane k).status.tick now } from
    Panes.get_map ..]
  exact .ticked now

end Session

/-! ## A message -/

namespace Session

/-- If one pane shows a message, then no other pane does. -/
theorem after_of_apply {s s' : Session} {o : Operation} {u : Update} {now : Instant}
    {status : StatusArea} (h : (s.pane o).status.apply u now = .ok status)
    (hs' : ∀ k, (s'.pane k).status = if k = o then status else (s.pane k).status)
    (k : Operation) :
    (s.pane k).status.After (if o = k then some u else none).toList (s'.pane k).status := by
  rw [hs']
  by_cases hk : k = o
  · subst hk
    rw [if_pos rfl, if_pos rfl]
    exact .of_apply h
  · rw [if_neg hk, if_neg (Ne.symm hk)]
    exact .refl _

end Session

/-! ## All changes -/

namespace Session

/-- What the form of an operation would submit now. -/
def submission (s : Session) (o : Operation) : Submission := (s.pane o).form.submission

/-- What an accepted submission of an operation gets. -/
def ticket (s : Session) (o : Operation) : Ticket := ⟨s.nextId, s.submission o⟩

/-- The session after an accepted submission, when the pane shows the given status. -/
def accept (s : Session) (o : Operation) (status : StatusArea) : Session :=
  { s.setPane o { s.pane o with status, inFlight := (s.pane o).inFlight + 1 } with
    waiting := s.waiting ++ [s.ticket o]
    nextId := s.nextId + 1 }

/-- The session after a rejected submission, when the pane shows the given status. -/
def reject (s : Session) (o : Operation) (status : StatusArea) : Session :=
  s.setPane o { s.pane o with status }

/-- The session after the reply to an outstanding request. -/
def answer (s : Session) (t : Ticket) (r : Reply) : Session :=
  { s with
    outstanding := s.outstanding.filter fun u ↦ u.id != t.id
    inbox := s.inbox ++ [completion t r] }

section

variable (s : Session) (o : Operation) (status : StatusArea) (t : Ticket) (r : Reply)

theorem pane_accept (k : Operation) :
    (s.accept o status).pane k =
      if k = o then { s.pane o with status, inFlight := (s.pane o).inFlight + 1 } else s.pane k :=
  pane_setPane ..

theorem pane_reject (k : Operation) :
    (s.reject o status).pane k = if k = o then { s.pane o with status } else s.pane k :=
  pane_setPane ..

@[simp] theorem inbox_accept : (s.accept o status).inbox = s.inbox := rfl
@[simp] theorem nextId_answer : (s.answer t r).nextId = s.nextId := rfl
@[simp] theorem waiting_answer : (s.answer t r).waiting = s.waiting := rfl
@[simp] theorem nextId_dispatch : s.dispatch.1.nextId = s.nextId := rfl
@[simp] theorem inbox_dispatch : s.dispatch.1.inbox = s.inbox := rfl

end

section

variable {s : Session} {o : Operation} {call : Call} {reason : Rejection}

theorem submit_eq_accept (h : (s.submission o).check = .ok call) (now : Instant) :
    s.submit o now = ((s.pane o).status.apply (.pending o) now).map fun status ↦
      (s.accept o status, (s.submission o).checkLog ++ [submissionEntry o]) := by
  rw [submit, show (s.pane o).form.submission.check = .ok call from h]
  rfl

theorem submit_eq_reject (h : (s.submission o).check = .error reason) (now : Instant) :
    s.submit o now =
      ((s.pane o).status.apply (Outcome.ofFailure reason.failure).update now).map fun status ↦
        (s.reject o status, (s.submission o).checkLog ++ [rejectionEntry o reason]) := by
  rw [submit, show (s.pane o).form.submission.check = .error reason from h]
  rfl

theorem submitNotes_of_check_ok (h : (s.submission o).check = .ok call) :
    s.submitNotes o = [.accepted o (s.ticket o)] := by
  rw [submitNotes, show (s.pane o).form.submission.check = .ok call from h]
  rfl

theorem submitNotes_of_check_error (h : (s.submission o).check = .error reason) :
    s.submitNotes o = [.rejected o reason] := by
  rw [submitNotes, show (s.pane o).form.submission.check = .error reason from h]

end

/-- A submission is accepted, and its pane shows that it is under way, or it is rejected, and its
pane shows why. -/
theorem cases_of_submit {s : Session} {o : Operation} {now : Instant} {r : Session × Log}
    (h : s.submit o now = .ok r) :
    (∃ call status, (s.submission o).check = .ok call ∧
      (s.pane o).status.apply (.pending o) now = .ok status ∧ r.1 = s.accept o status) ∨
    ∃ reason status, (s.submission o).check = .error reason ∧
      (s.pane o).status.apply (Outcome.ofFailure reason.failure).update now = .ok status ∧
      r.1 = s.reject o status := by
  cases hcheck : (s.submission o).check with
  | error reason =>
    rw [submit_eq_reject hcheck] at h
    obtain ⟨status, hstatus, rfl⟩ := Except.exists_of_map_eq_ok h
    exact .inr ⟨reason, status, rfl, hstatus, rfl⟩
  | ok call =>
    rw [submit_eq_accept hcheck] at h
    obtain ⟨status, hstatus, rfl⟩ := Except.exists_of_map_eq_ok h
    exact .inl ⟨call, status, rfl, hstatus, rfl⟩

end Session

/-- What an event can do to a session and its history. -/
inductive Change (x : Recorded) : Recorded → Prop
  | quiet {s : Session} (h : x.session.Quiet s) : Change x ⟨s, x.history⟩
  | accepted {o : Operation} {call : Call} {now : Instant} {status : StatusArea}
      (hcheck : (x.session.submission o).check = .ok call)
      (hstatus : (x.session.pane o).status.apply (.pending o) now = .ok status) :
      Change x ⟨x.session.accept o status, x.history ++ [.accepted o (x.session.ticket o)]⟩
  | rejected {o : Operation} {r : Rejection} {now : Instant} {status : StatusArea}
      (hcheck : (x.session.submission o).check = .error r)
      (hstatus : (x.session.pane o).status.apply (Outcome.ofFailure r.failure).update now =
        .ok status) :
      Change x ⟨x.session.reject o status, x.history ++ [.rejected o r]⟩
  | sent : Change x ⟨x.session.dispatch.1, x.history ++ x.session.dispatch.2.1.map .sent⟩
  | answered {t : Ticket} {r : Reply} (ht : t ∈ x.session.outstanding) :
      Change x ⟨x.session.answer t r, x.history ++ [.answered t r]⟩
  | shown {now : Instant} {d : Session.Drained} (hdrain : x.session.drain now = .ok d) :
      Change x ⟨d.session, x.history ++ x.history.unshown.map fun a ↦ .shown a.1 a.2⟩

namespace Recorded

variable {x : Recorded}

/-- A submission is accepted or rejected. -/
theorem change_of_submit {o : Operation} {now : Instant} {r : Session × Log}
    (h : x.session.submit o now = .ok r) :
    Change x ⟨r.1, x.history ++ x.session.submitNotes o⟩ := by
  rcases Session.cases_of_submit h with ⟨call, status, hcheck, hstatus, hr⟩ |
    ⟨reason, status, hcheck, hstatus, hr⟩
  · rw [hr, Session.submitNotes_of_check_ok hcheck]
    exact .accepted hcheck hstatus
  · rw [hr, Session.submitNotes_of_check_error hcheck]
    exact .rejected hcheck hstatus

/-- Every action of a key is quiet, but for a submission. -/
theorem change_of_act {a : Action} {now : Instant} {p : Session.Pressed}
    (h : x.session.act a now = .ok p) :
    Change x ⟨p.session,
      x.history ++ if a = .submit then x.session.submitNotes x.session.active else []⟩ := by
  have hquiet : ∀ {s : Session} {q : Bool}, x.session.Quiet s →
      Except.ok (ε := Crash) ⟨s, q, []⟩ = .ok p → Change x ⟨p.session, x.history ++ []⟩ := by
    rintro s q hs ⟨⟩
    rw [List.append_nil]
    exact .quiet hs
  have hedit := fun e ↦ x.session.quiet_editForm x.session.active e
  cases a with
  | submit =>
    obtain ⟨r, hr, rfl⟩ := Except.exists_of_map_eq_ok h
    exact change_of_submit hr
  | quit => exact hquiet (.refl _) h
  | nothing => exact hquiet (.refl _) h
  | nextPane => exact hquiet (x.session.quiet_front x.session.active.next x.session.mode) h
  | previousPane => exact hquiet (x.session.quiet_front x.session.active.previous x.session.mode) h
  | openHelp => exact hquiet (x.session.quiet_front x.session.active .help) h
  | closeHelp => exact hquiet (x.session.quiet_front x.session.active .normal) h
  | scrollDown => exact hquiet (Session.quiet_setPane (.scrolledDown scrollStep)) h
  | scrollUp => exact hquiet (Session.quiet_setPane (.scrolledUp scrollStep)) h
  | focusNext => exact hquiet (hedit .focusNext) h
  | focusPrevious => exact hquiet (hedit .focusPrevious) h
  | reset => exact hquiet (hedit .reset) h
  | clear => exact hquiet (hedit .clear) h
  | insert c => exact hquiet (hedit (.insert c)) h
  | backspace => exact hquiet (hedit .backspace) h

/-- A reply is taken if its request is outstanding, and dropped if not. -/
theorem change_of_finish (x : Recorded) (id : Nat) (r : Reply) :
    Change x ⟨x.session.finish id r, x.history ++ x.session.notes x.history (.answer id r)⟩ := by
  rw [Session.finish, Session.notes]
  cases hfind : x.session.outstanding.find? fun t ↦ t.id == id with
  | none =>
    rw [List.append_nil]
    exact .quiet (.refl _)
  | some t =>
    have hid : t.id = id := by simpa using List.find?_some hfind
    subst hid
    exact .answered (List.mem_of_find?_eq_some hfind)

/-- **An event does one of six things.** -/
theorem change_of_step {e : Event} {y : Recorded} (h : x.step e = .ok y) : Change x y := by
  obtain ⟨s, hs, rfl⟩ := Except.exists_of_map_eq_ok h
  cases e with
  | key k m now =>
    obtain ⟨p, hp, rfl⟩ := Except.exists_of_map_eq_ok hs
    exact change_of_act hp
  | edit o e =>
    cases hs
    rw [Session.notes, List.append_nil]
    exact .quiet (x.session.quiet_editForm o e)
  | scrollDown o amount =>
    cases hs
    rw [Session.notes, List.append_nil]
    exact .quiet (Session.quiet_setPane (.scrolledDown amount))
  | scrollUp o amount =>
    cases hs
    rw [Session.notes, List.append_nil]
    exact .quiet (Session.quiet_setPane (.scrolledUp amount))
  | choose o =>
    cases hs
    rw [Session.notes, List.append_nil]
    exact .quiet (x.session.quiet_front o x.session.mode)
  | submit o now =>
    obtain ⟨r, hr, rfl⟩ := Except.exists_of_map_eq_ok hs
    exact change_of_submit hr
  | send =>
    cases hs
    exact .sent
  | answer id r =>
    cases hs
    exact change_of_finish x id r
  | drain now =>
    obtain ⟨d, hd, rfl⟩ := Except.exists_of_map_eq_ok hs
    exact .shown hd
  | tick now =>
    cases hs
    rw [Session.notes, List.append_nil]
    exact .quiet (x.session.quiet_tick now)

/-- What holds in the beginning and is kept by every change holds after every run. -/
theorem run_induction_change {api : Api} {delay : Duration} {P : Recorded → Prop}
    (hstart : P (.start api delay)) (hchange : ∀ x y, P x → Change x y → P y)
    {events : List Event} {x : Recorded} (h : (start api delay).run events = .ok x) : P x :=
  run_induction hstart (fun x _ y hx h ↦ hchange x y hx (change_of_step h)) h

end Recorded
end ClusterConsole
