import ClusterConsole.Proofs.Execution
import ClusterConsole.Proofs.Session.Tally

/-!
# A submission from beginning to end

A submission goes through a session in four events: it is submitted, sent, answered and shown
(`Recorded.once`).  If it is rejected, then the last three of them find nothing of it.  Either way a
session comes to what running the submission comes to (`Tally.run_once`), whatever else is under
way: its requests are sent, and its outcome is what the pane shows in the end.
-/

set_option autoImplicit false

namespace ClusterConsole

open Http (Request Reply)

/-! ## Single events -/

namespace Recorded

variable {x y : Recorded}

theorem run_of_step {e : Event} (h : x.step e = .ok y) (rest : List Event) :
    x.run (e :: rest) = y.run rest := by
  rw [run, h]

theorem run_append {es : List Event} (h : x.run es = .ok y) (fs : List Event) :
    x.run (es ++ fs) = y.run fs := by
  induction es generalizing x with
  | nil =>
    cases h
    rfl
  | cons e rest ih =>
    rw [run] at h
    rw [List.cons_append, run]
    split at h
    · cases h
    · exact ih h

section

variable {o : Operation} {now : Instant} {status : StatusArea}

theorem step_submit_of_check_ok {call : Call} (hcheck : (x.session.submission o).check = .ok call)
    (hstatus : (x.session.pane o).status.apply (.pending o) now = .ok status) :
    x.step (.submit o now) =
      .ok ⟨x.session.accept o status, x.history ++ [.accepted o (x.session.ticket o)]⟩ := by
  rw [step, Session.step, Session.submit_eq_accept hcheck, Session.notes,
    Session.submitNotes_of_check_ok hcheck, hstatus]
  rfl

theorem step_submit_of_check_error {e : Rejection}
    (hcheck : (x.session.submission o).check = .error e)
    (hstatus : (x.session.pane o).status.apply (Outcome.ofFailure e.failure).update now =
      .ok status) :
    x.step (.submit o now) = .ok ⟨x.session.reject o status, x.history ++ [.rejected o e]⟩ := by
  rw [step, Session.step, Session.submit_eq_reject hcheck, Session.notes,
    Session.submitNotes_of_check_error hcheck, hstatus]
  rfl

end

/-- A reply that nothing waits for is dropped. -/
theorem step_answer_of_forall_ne {id : Nat} (h : ∀ t ∈ x.session.outstanding, t.id ≠ id)
    (r : Reply) : x.step (.answer id r) = .ok x := by
  have hfind : x.session.outstanding.find? (fun t ↦ t.id == id) = none := by
    simpa using h
  rw [step, Session.step, Session.finish, Session.notes, hfind]
  exact congrArg (fun h ↦ Except.ok (Recorded.mk x.session h)) (List.append_nil _)

theorem step_answer_of_find? {t : Ticket}
    (h : x.session.outstanding.find? (fun u ↦ u.id == t.id) = some t) (r : Reply) :
    x.step (.answer t.id r) = .ok ⟨x.session.answer t r, x.history ++ [.answered t r]⟩ := by
  rw [step, Session.step, Session.finish, Session.notes, h]
  rfl

end Recorded

/-! ## From beginning to end -/

/-- The form of an operation is submitted, what waits is sent, the reply to the submission comes,
and what has come is shown. -/
def Recorded.once (x : Recorded) (o : Operation) (now : Instant) (r : Reply) (now' : Instant) :
    List Event :=
  [.submit o now, .send, .answer x.session.nextId r, .drain now']

/-- What has become of a session when a submission has gone to its end: the requests that waited
and those of the submission were sent, and its pane shows how it ended. -/
structure Recorded.Concludes (x : Recorded) (o : Operation) (e : Execution) (y : Recorded) :
    Prop where
  requests_eq : y.history.requests = x.history.requests ++ x.session.dispatch.2.1 ++ e.sent
  update_eq : (y.session.pane o).status.update = e.outcome.update

namespace Tally

variable {api : Api} {delay : Duration} {x : Recorded} {o : Operation} {now now' t t' : Instant}

/-- The numbers of all tickets were given before. -/
theorem id_lt (h : Tally api delay x) {u : Ticket} (hu : u ∈ x.session.unanswered) :
    u.id < x.session.nextId := by
  have hmem := h.mem_accepted_of_mem_tickets (List.mem_append_right _ hu)
  have hid : u.id ∈ x.history.accepted.map fun a ↦ a.2.id := List.mem_map_of_mem hmem
  rw [h.ids_eq] at hid
  exact List.mem_range.1 hid

theorem find?_nextId (h : Tally api delay x) :
    x.session.unanswered.find? (fun u ↦ u.id == x.session.nextId) = none := by
  refine List.find?_eq_none.2 fun u hu ↦ ?_
  simpa using Nat.ne_of_lt (h.id_lt hu)

/-- What is in the inbox can be shown, and no request is sent for it. -/
theorem step_drain (h : Tally api delay x) (hnow' : now'.after delay = .ok t') (o : Operation) :
    ∃ y, x.step (.drain now') = .ok y ∧ y.history.requests = x.history.requests ∧
      (x.session.pane o).status.After (x.session.inbox.filterMap (Session.messageFor o))
        (y.session.pane o).status := by
  obtain ⟨d, hd⟩ := Session.exists_applyAll_eq_ok hnow' x.session.inbox
    (s := { x.session with inbox := [] }) h.delay_eq
  have hdrain : x.session.drain now' = .ok d := hd
  refine ⟨⟨d.session, x.history ++ x.history.unshown.map fun a ↦ .shown a.1 a.2⟩, ?_, ?_,
    Session.after_applyAll hd o⟩
  · rw [Recorded.step, Session.step, hdrain]
    rfl
  · rw [History.requests_append, History.requests_shown, List.append_nil]

/-- What waits can be sent, a reply can be taken, and what has come can be shown.  The outcome of
the reply is shown last, if there is a ticket for it. -/
theorem run_reply (h : Tally api delay x) (hnow' : now'.after delay = .ok t') (o : Operation)
    (id : Nat) (r : Reply) :
    ∃ y, x.run [.send, .answer id r, .drain now'] = .ok y ∧
      y.history.requests = x.history.requests ++ x.session.dispatch.2.1 ∧
      (x.session.pane o).status.After
        ((x.session.inbox ++ ((x.session.unanswered.find? fun u ↦ u.id == id).map fun u ↦
          Session.completion u r).toList).filterMap (Session.messageFor o))
        (y.session.pane o).status := by
  let z : Recorded := ⟨x.session.dispatch.1, x.history ++ x.session.dispatch.2.1.map .sent⟩
  have hsend : x.step .send = .ok z := rfl
  have hz : Tally api delay z := h.sent
  have hrequests : z.history.requests = x.history.requests ++ x.session.dispatch.2.1 := by
    rw [History.requests_append, History.requests_sent]
  cases hfind : x.session.unanswered.find? fun u ↦ u.id == id with
  | none =>
    have habsent : ∀ u ∈ x.session.unanswered, u.id ≠ id := by simpa using hfind
    have hanswer : z.step (.answer id r) = .ok z := Recorded.step_answer_of_forall_ne habsent r
    obtain ⟨y, hdrain, hy, hafter⟩ := hz.step_drain hnow' o
    refine ⟨y, ?_, hy.trans hrequests, ?_⟩
    · rw [Recorded.run_of_step hsend, Recorded.run_of_step hanswer, Recorded.run_of_step hdrain,
        Recorded.run]
    · rw [Option.map_none, Option.toList_none, List.append_nil]
      exact hafter
  | some u =>
    have hid : u.id = id := by simpa using List.find?_some hfind
    subst hid
    have hanswer := Recorded.step_answer_of_find? (x := z) hfind r
    have hanswered := hz.answered (r := r) (List.mem_of_find?_eq_some hfind)
    obtain ⟨y, hdrain, hy, hafter⟩ := hanswered.step_drain hnow' o
    refine ⟨y, ?_, hy.trans ?_, hafter⟩
    · rw [Recorded.run_of_step hsend, Recorded.run_of_step hanswer, Recorded.run_of_step hdrain,
        Recorded.run]
    · rw [History.requests_append, hrequests]
      exact List.append_nil _

/-- **A submission comes to what running it comes to**, whatever else is under way, if no outcome of
its pane waits to be shown. -/
theorem run_once (h : Tally api delay x) (hinbox : x.session.undrainedOf o = 0)
    (hnow : now.after delay = .ok t) (hnow' : now'.after delay = .ok t') {send : Transport}
    {r : Reply}
    (hr : ∀ q ∈ (api.execute (x.session.submission o) send).sent, (send q).reply = r) :
    ∃ y, x.run (x.once o now r now') = .ok y ∧
      x.Concludes o (api.execute (x.session.submission o) send) y := by
  have hnone : x.session.inbox.filterMap (Session.messageFor o) = [] :=
    List.filterMap_eq_nil_iff.2 fun c hc ↦
      if_neg (by simpa using List.countP_eq_zero.1 hinbox c hc)
  cases hcheck : (x.session.submission o).check with
  | error e =>
    obtain ⟨status, hstatus⟩ := StatusArea.exists_apply_eq_ok
      (a := (x.session.pane o).status) ((h.delay_eq o).symm ▸ hnow)
      (Outcome.ofFailure e.failure).update
    have hsubmit := Recorded.step_submit_of_check_error hcheck hstatus
    obtain ⟨y, hy, hrequests, hafter⟩ :=
      (h.rejected (r := e) hstatus).run_reply hnow' o x.session.nextId r
    -- the number that an accepted submission would have got is nobody's
    have hfind : (x.session.reject o status).unanswered.find? (fun u ↦ u.id == x.session.nextId) =
        none := h.find?_nextId
    rw [hfind, Option.map_none, Option.toList_none, List.append_nil,
      show (x.session.reject o status).inbox = x.session.inbox from rfl, hnone] at hafter
    refine ⟨y, (Recorded.run_of_step hsubmit _).trans hy, ?_, ?_⟩
    · rw [hrequests, Api.execute_of_check_error hcheck, List.append_nil, History.requests_append]
      exact congrArg (· ++ _) (List.append_nil _)
    · rw [hafter.update_eq, Api.execute_of_check_error hcheck, Session.pane_reject, if_pos rfl]
      exact StatusArea.update_of_apply hstatus
  | ok call =>
    obtain ⟨status, hstatus⟩ := (x.session.pane o).status.exists_apply_pending_eq_ok o now
    have hsubmit := Recorded.step_submit_of_check_ok hcheck hstatus
    obtain ⟨y, hy, hrequests, hafter⟩ :=
      (h.accepted hcheck hstatus).run_reply hnow' o x.session.nextId r
    have hunanswered : (x.session.accept o status).unanswered =
        x.session.unanswered ++ [x.session.ticket o] := (List.append_assoc ..).symm
    have hfind : (x.session.accept o status).unanswered.find? (fun u ↦ u.id == x.session.nextId) =
        some (x.session.ticket o) := by
      rw [hunanswered, List.find?_append, h.find?_nextId]
      simp [Session.ticket]
    have hoperation : (x.session.submission o).operation = o :=
      (Form.operation_submission _).trans (h.operation_eq o)
    have hreply : (send (api.request call)).reply = r :=
      hr _ (by rw [Api.execute_of_check_ok hcheck]; exact List.mem_singleton_self _)
    rw [hfind, Option.map_some, Option.toList_some,
      show (x.session.accept o status).inbox = x.session.inbox from rfl, List.filterMap_append,
      hnone] at hafter
    refine ⟨y, (Recorded.run_of_step hsubmit _).trans hy, ?_, ?_⟩
    · have hdispatch : (x.session.accept o status).dispatch.2.1 =
          x.session.dispatch.2.1 ++ [api.request call] := by
        rw [← h.api_eq]
        simp [Session.dispatch, Session.accept, Session.setPane, Session.requestOf,
          Session.ticket, hcheck]
      rw [hrequests, Api.execute_of_check_ok hcheck, History.requests_append, hdispatch,
        ← List.append_assoc]
      exact congrArg (· ++ _ ++ _) (List.append_nil _)
    · rw [hafter.update_eq, Api.execute_of_check_ok hcheck, hreply]
      simp [Session.messageFor, Session.completion, Session.ticket, hoperation]

end Tally
end ClusterConsole
