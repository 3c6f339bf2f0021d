import ClusterConsole.Proofs.StatusArea
import ClusterConsole.Session

/-!
# Checking and running agree

Inputs are looked at twice.  A session checks a submission before it hands it on
(`Submission.check`), and each operation checks its own inputs before it makes its call
(`Api.createCluster` and the others).  The two go different ways, but come to the same:
`Api.execute_of_check_ok` and `Api.execute_of_check_error` say what running a submission does, by
what its check gives, and `Session.handed_of_submit` says that a session hands on just what running
it would send.
-/

set_option autoImplicit false

namespace ClusterConsole

open Http (Request Reply)

/-! ## Attempts -/

namespace Attempt

variable {α β : Type}

theorem andThen_ofCheck_ok (x : α) (log : Log) (next : α → Attempt β) :
    (ofCheck (.ok x) log).andThen next = { next x with log := log ++ (next x).log } := rfl

theorem andThen_ofCheck_error (r : Rejection) (log : Log) (next : α → Attempt β) :
    (ofCheck (.error r) log).andThen next = ⟨.error r.failure, [], log⟩ := rfl

end Attempt

/-! ## Running a submission -/

namespace Api

variable {api : Api} {s : Submission} {send : Transport}

/-- A submission that passes its check is one request, concluded by the reply to it. -/
theorem execute_of_check_ok {call : Call} (h : s.check = .ok call) :
    api.execute s send = ⟨s.conclude (send (api.request call)).reply, [api.request call],
      s.checkLog ++ (send (api.request call)).log⟩ := by
  cases s with
  | create f =>
    obtain ⟨spec, hspec, rfl⟩ := Except.map_eq_ok_iff.1 h
    rw [execute, createCluster, hspec, Attempt.andThen_ofCheck_ok]
    rfl
  | delete ns =>
    obtain ⟨ns', hns, rfl⟩ := Except.map_eq_ok_iff.1 h
    rw [execute, deleteCluster, hns, Attempt.andThen_ofCheck_ok]
    rfl
  | list =>
    cases h
    rfl
  | details ns =>
    obtain ⟨ns', hns, rfl⟩ := Except.map_eq_ok_iff.1 h
    rw [execute, clusterDetails, hns, Attempt.andThen_ofCheck_ok]
    rfl
  | scale ns replicas =>
    obtain ⟨p, hp, rfl⟩ := Except.map_eq_ok_iff.1 h
    rw [execute, scaleCluster, hp, Attempt.andThen_ofCheck_ok]
    rfl

/-- A submission that fails its check comes to its rejection, and sends nothing. -/
theorem execute_of_check_error {r : Rejection} (h : s.check = .error r) :
    api.execute s send = ⟨.ofFailure r.failure, [], s.checkLog⟩ := by
  cases s with
  | create f =>
    have hfields := Except.map_eq_error_iff.1 h
    rw [execute, createCluster, hfields, Attempt.andThen_ofCheck_error]
    rfl
  | delete ns =>
    have hns := Except.map_eq_error_iff.1 h
    rw [execute, deleteCluster, hns, Attempt.andThen_ofCheck_error]
    rfl
  | list => exact nomatch h
  | details ns =>
    have hns := Except.map_eq_error_iff.1 h
    rw [execute, clusterDetails, hns, Attempt.andThen_ofCheck_error]
    rfl
  | scale ns replicas =>
    have hscale := Except.map_eq_error_iff.1 h
    rw [execute, scaleCluster, hscale, Attempt.andThen_ofCheck_error]
    rfl

end Api

/-! ## Submitting -/

namespace Session

variable {t : Session} {o : Operation}

/-- A submission that passes its check is handed on to be sent, and always shown as pending. -/
theorem submit_of_check_ok (now : Instant) {call : Call}
    (h : (t.pane o).form.submission.check = .ok call) :
    ∃ t' log, t.submit o now = .ok (t', log) ∧
      t'.waiting = t.waiting ++ [⟨t.nextId, (t.pane o).form.submission⟩] ∧
      (t'.pane o).status.update = .pending o ∧
      (t'.pane o).inFlight = (t.pane o).inFlight + 1 := by
  obtain ⟨status, hstatus⟩ := (t.pane o).status.exists_apply_pending_eq_ok o now
  rw [submit, h, hstatus]
  refine ⟨_, _, rfl, rfl, ?_, ?_⟩
  · change (Panes.get (Panes.set ..) o).status.update = _
    rw [Panes.get_set, if_pos rfl]
    exact StatusArea.update_of_apply hstatus
  · change (Panes.get (Panes.set ..) o).inFlight = _
    rw [Panes.get_set, if_pos rfl]

/-- A submission that fails its check changes nothing but what its pane shows. -/
theorem submit_of_check_error (now : Instant) {r : Rejection}
    (h : (t.pane o).form.submission.check = .error r) :
    t.submit o now =
      ((t.pane o).status.apply (Outcome.ofFailure r.failure).update now).map fun status ↦
        (t.setPane o { t.pane o with status },
          (t.pane o).form.submission.checkLog ++ [rejectionEntry o r]) := by
  rw [submit, h]

/-- What a session hands on is sent as running the submission sends it. -/
theorem handed_of_submit {now : Instant} {t' : Session} {log : Log} (api : Api) (send : Transport)
    (h : t.submit o now = .ok (t', log)) :
    ∃ handed : List Ticket, t'.waiting = t.waiting ++ handed ∧
      (∀ u ∈ handed, u.submission = (t.pane o).form.submission) ∧
      handed.map (requestOf api) =
        (api.execute (t.pane o).form.submission send).sent.map some := by
  cases hcheck : (t.pane o).form.submission.check with
  | ok call =>
    obtain ⟨t'', log', hsubmit, hwaiting, -, -⟩ := submit_of_check_ok now hcheck
    cases hsubmit.symm.trans h
    refine ⟨[⟨t.nextId, (t.pane o).form.submission⟩], hwaiting, ?_, ?_⟩
    · intro u hu
      rw [List.mem_singleton.1 hu]
    · rw [Api.execute_of_check_ok hcheck, List.map_singleton, requestOf, hcheck]
      rfl
  | error r =>
    rw [submit_of_check_error now hcheck] at h
    obtain ⟨status, -, heq⟩ := Except.exists_of_map_eq_ok h
    cases heq
    refine ⟨[], (List.append_nil _).symm, nofun, ?_⟩
    rw [Api.execute_of_check_error hcheck]
    rfl

end Session

/-- **Checking and running agree.**  Running a submission sends one request if it passes its check,
and else none, and then comes to its rejection.  A session shows that same rejection, and hands on
exactly the submissions for which running them sends a request. -/
theorem check_decides_requests (api : Api) (send : Transport) :
    (∀ s : Submission,
      (∀ call, s.check = .ok call → (api.execute s send).sent = [api.request call]) ∧
      ∀ r, s.check = .error r →
        (api.execute s send).sent = [] ∧
        r.failure.isRejection = true ∧
        (api.execute s send).outcome = .ofFailure r.failure ∧
        (api.execute s send).outcome.resetForm = false) ∧
    ∀ (t : Session) (o : Operation) (now : Instant),
      (∀ call, (t.pane o).form.submission.check = .ok call →
        ∃ t' log, t.submit o now = .ok (t', log) ∧
          t'.waiting = t.waiting ++ [⟨t.nextId, (t.pane o).form.submission⟩]) ∧
      (∀ r, (t.pane o).form.submission.check = .error r →
        t.submit o now =
          ((t.pane o).status.apply
            (api.execute (t.pane o).form.submission send).outcome.update now).map fun status ↦
          (t.setPane o { t.pane o with status },
            (t.pane o).form.submission.checkLog ++ [Session.rejectionEntry o r])) ∧
      ∀ t' log, t.submit o now = .ok (t', log) →
        ∃ handed : List Ticket, t'.waiting = t.waiting ++ handed ∧
          (∀ u ∈ handed, u.submission = (t.pane o).form.submission) ∧
          handed.map (Session.requestOf api) =
            (api.execute (t.pane o).form.submission send).sent.map some := by
  refine ⟨fun s ↦ ⟨fun call h ↦ ?_, fun r h ↦ ?_⟩,
    fun t o now ↦ ⟨fun call h ↦ ?_, fun r h ↦ ?_, ?_⟩⟩
  · rw [Api.execute_of_check_ok h]
  · rw [Api.execute_of_check_error h]
    exact ⟨rfl, rfl, rfl, rfl⟩
  · obtain ⟨t', log, hsubmit, hwaiting, -, -⟩ := Session.submit_of_check_ok now h
    exact ⟨t', log, hsubmit, hwaiting⟩
  · rw [Api.execute_of_check_error h]
    exact Session.submit_of_check_error now h
  · exact fun t' log ↦ Session.handed_of_submit api send

/-- A namespace that is missing is rejected by both, and one that is there is sent by both. -/
theorem check_decides_requests_delete :
    let api : Api := ⟨"http://api.test"⟩
    let send := Transport.always (.error "refused")
    let start := Session.start api (Duration.ofSeconds 5)
    (Submission.delete "").check = .error .namespaceMissing ∧
    (api.execute (.delete "") send).sent = [] ∧
    (Submission.delete "a").check = .ok (.delete "a") ∧
    (api.execute (.delete "a") send).sent = [api.request (.delete "a")] ∧
    ∃ t log, start.submit .list 0 = .ok (t, log) ∧
      t.waiting = [⟨0, .list⟩] ∧
      ∃ handed : List Ticket, t.waiting = handed ∧
        handed.map (Session.requestOf api) = [some (api.request .list)] := by
  intro api send start
  have hmain := check_decides_requests api send
  refine ⟨rfl, ((hmain.1 _).2 _ rfl).1, rfl, (hmain.1 _).1 _ rfl, ?_⟩
  obtain ⟨t, log, hsubmit, hwaiting⟩ := (hmain.2 start .list 0).1 _ rfl
  obtain ⟨handed, hhanded, -, hrequests⟩ := (hmain.2 start .list 0).2.2 t log hsubmit
  exact ⟨t, log, hsubmit, hwaiting, handed, hhanded, hrequests⟩

end ClusterConsole
