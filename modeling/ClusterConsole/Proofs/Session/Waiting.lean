import ClusterConsole.Proofs.Execution
import ClusterConsole.Proofs.Session.Tally
import ClusterConsole.Proofs.StatusArea.AutoHide

/-!
# A pane never waits for nothing

The area of a pane says that a request is under way, and the counter of the pane says how many are;
the two are changed in different places.  A pane that waited although nothing can come any more
would wait for ever, since a message that is not final has no deadline.

Only accepted submissions bring such a message, and each of them counts a request
(`Pane.Moves.requested`).  Everything else that is shown is final: what is wrong with a submission,
and the outcome of every reply (`Submission.isFinal_conclude`).  So a pane that waits has had no
outcome since its last accepted submission, and the request of that one is still counted.

`Tally.moves_of_change` says what an event can do to a pane as far as this is concerned, and
`waits_of_run` follows by induction on the run.
-/

set_option autoImplicit false

namespace ClusterConsole

/-! ## Results are final -/

theorem Outcome.isFinal_ofWrite (w : Write) (result : Except Failure String) :
    (ofWrite w result).update.kind.isFinal = true := by
  cases result with
  | ok body => rfl
  | error f => cases f <;> rfl

theorem Outcome.isFinal_ofReadFailure (f : Failure) :
    (ofReadFailure f).update.kind.isFinal = true := by
  cases f <;> rfl

/-- A reply is never concluded by saying that a request is under way. -/
theorem Submission.isFinal_conclude (s : Submission) (r : Http.Reply) :
    (s.conclude r).update.kind.isFinal = true := by
  cases s with
  | create f => exact Outcome.isFinal_ofWrite ..
  | delete ns => exact Outcome.isFinal_ofWrite ..
  | scale ns replicas => exact Outcome.isFinal_ofWrite ..
  | list =>
    rw [conclude]
    cases Api.readList r with
    | ok items => rfl
    | error f => exact Outcome.isFinal_ofReadFailure f
  | details ns =>
    rw [conclude]
    cases Api.readDetails r with
    | ok v => rfl
    | error f => exact Outcome.isFinal_ofReadFailure f

/-- Neither is a submission, whatever the transport answers. -/
theorem Api.isFinal_execute (api : Api) (s : Submission) (send : Transport) :
    (api.execute s send).outcome.update.kind.isFinal = true := by
  cases hcheck : s.check with
  | error r =>
    rw [execute_of_check_error hcheck]
    rfl
  | ok call =>
    rw [execute_of_check_ok hcheck]
    exact s.isFinal_conclude _

/-! ## Messages that stay -/

/-- A message that is not final has no deadline, and so it stays visible once it was shown. -/
structure StatusArea.Lasting (a : StatusArea) : Prop where
  hideAt_eq : a.kind = .info → a.hideAt = none
  visible_iff : a.kind = .info → (a.visible = true ↔ a.shownAt ≠ none)

namespace StatusArea

variable {a b : StatusArea}

theorem isPending_iff : a.isPending = true ↔ a.visible = true ∧ a.kind = .info := by
  rw [isPending, Bool.and_eq_true, beq_iff_eq]

theorem isPending_of_isFinal (h : a.kind.isFinal = true) : a.isPending = false := by
  rw [isPending, Bool.and_eq_false_iff]
  cases hkind : a.kind with
  | info =>
    rw [hkind] at h
    cases h
  | success => exact .inr rfl
  | error => exact .inr rfl

namespace Lasting

theorem hidden (delay : Duration) : (StatusArea.hidden delay).Lasting :=
  ⟨fun _ ↦ rfl, fun _ ↦ iff_of_false nofun fun h ↦ h rfl⟩

theorem of_isFinal (h : a.kind.isFinal = true) : a.Lasting := by
  have hkind : a.kind ≠ .info := fun hinfo ↦ by
    rw [hinfo] at h
    cases h
  exact ⟨fun hinfo ↦ absurd hinfo hkind, fun hinfo ↦ absurd hinfo hkind⟩

theorem of_apply_pending {o : Operation} {now : Instant}
    (h : a.apply (.pending o) now = .ok b) : b.Lasting := by
  cases h
  exact ⟨fun _ ↦ rfl, fun _ ↦ iff_of_true rfl nofun⟩

theorem tick (h : a.Lasting) (now : Instant) : (a.tick now).Lasting := by
  rw [StatusArea.tick]
  split
  · next hdue =>
    obtain ⟨d, hd, -⟩ := isDue_eq_true_iff.1 hdue
    exact of_isFinal <| by
      cases hkind : a.kind with
      | info => cases hd.symm.trans (h.hideAt_eq hkind)
      | success => rfl
      | error => rfl
  · exact h

/-- A pane waits if a message came and the last one was not final. -/
theorem isPending_iff (h : a.Lasting) :
    a.isPending = true ↔ a.kind = .info ∧ a.shownAt ≠ none := by
  rw [StatusArea.isPending_iff, and_comm]
  exact and_congr_right h.visible_iff

end Lasting

theorem isPending_of_tick {now : Instant} (h : (a.tick now).isPending = true) :
    a.isPending = true := by
  obtain ⟨hvisible, hkind⟩ := isPending_iff.1 h
  have hupdate := congrArg Update.kind (a.update_tick now)
  exact isPending_iff.2 ⟨visible_of_tick hvisible, hupdate.symm.trans hkind⟩

end StatusArea

/-! ## What an event does to a pane -/

/-- What becomes of a pane with an event: it ends up with a final message, a request is added and
shown to be under way, or nothing is shown. -/
inductive Pane.Moves (p : Pane) : Pane → Prop
  | final {p' : Pane} (h : p'.status.kind.isFinal = true) : p.Moves p'
  | requested {p' : Pane} {o : Operation} {now : Instant} (hcount : p'.inFlight = p.inFlight + 1)
      (hstatus : p.status.apply (.pending o) now = .ok p'.status) : p.Moves p'
  | quiet {p' : Pane} (h : p.Quiet p') : p.Moves p'

namespace Pane

variable {p p' : Pane}

theorem Quiet.lasting (h : p.Quiet p') (hlasting : p.status.Lasting) : p'.status.Lasting := by
  cases h with
  | ticked now => exact hlasting.tick now
  | _ => exact ⟨hlasting.hideAt_eq, hlasting.visible_iff⟩

theorem Quiet.isPending (h : p.Quiet p') (hpending : p'.status.isPending = true) :
    p.status.isPending = true := by
  cases h with
  | ticked now => exact StatusArea.isPending_of_tick hpending
  | _ => exact hpending

namespace Moves

theorem lasting (h : p.Moves p') (hlasting : p.status.Lasting) : p'.status.Lasting := by
  cases h with
  | final hfinal => exact .of_isFinal hfinal
  | requested _ hstatus => exact .of_apply_pending hstatus
  | quiet hquiet => exact hquiet.lasting hlasting

/-- A pane that waits after an event has one more request by it, or has waited before. -/
theorem of_isPending (h : p.Moves p') (hpending : p'.status.isPending = true) :
    p'.inFlight = p.inFlight + 1 ∨ p.status.isPending = true ∧ p'.inFlight = p.inFlight ∧
      p'.status.update = p.status.update := by
  cases h with
  | final hfinal => cases (StatusArea.isPending_of_isFinal hfinal).symm.trans hpending
  | requested hcount _ => exact .inl hcount
  | quiet hquiet =>
    exact .inr ⟨hquiet.isPending hpending, hquiet.inFlight_eq, hquiet.after.update_eq⟩

end Moves
end Pane

/-- Where final outcomes are shown, a pane has the last of them or is what it was. -/
theorem Session.final_or_eq_applyAll {s : Session} {now : Instant} {cs : List Completion}
    {d : Drained} (h : applyAll s now cs = .ok d)
    (hcs : ∀ c ∈ cs, c.outcome.update.kind.isFinal = true) (k : Operation) :
    (d.session.pane k).status.kind.isFinal = true ∨ d.session.pane k = s.pane k := by
  have hboth : (∀ c ∈ ([] : List Completion), c.outcome.update.kind.isFinal = true) ∧
      ((d.session.pane k).status.kind.isFinal = true ∨ d.session.pane k = s.pane k) := by
    refine applyAll_induction
      (P := fun t rest ↦ (∀ c ∈ rest, c.outcome.update.kind.isFinal = true) ∧
        ((t.pane k).status.kind.isFinal = true ∨ t.pane k = s.pane k))
      (fun t c rest status ht hstatus ↦ ?_) ⟨hcs, .inr rfl⟩ h
    obtain ⟨hfinal, hpane⟩ := ht
    refine ⟨fun e he ↦ hfinal e (List.mem_cons_of_mem c he), ?_⟩
    rw [reveal, pane_setPane]
    split
    · have hkind := congrArg Update.kind (StatusArea.update_of_apply hstatus)
      refine .inl ?_
      rw [show status.kind = c.outcome.update.kind from hkind]
      exact hfinal c (List.mem_cons_self ..)
    · exact hpane
  exact hboth.2

namespace Tally

variable {api : Api} {delay : Duration} {x y : Recorded}

/-- All outcomes in the inbox are final. -/
theorem isFinal_inbox (h : Tally api delay x) :
    ∀ c ∈ x.session.inbox, c.outcome.update.kind.isFinal = true := by
  intro c hc
  rw [h.inbox_eq] at hc
  obtain ⟨a, -, rfl⟩ := List.mem_map.1 hc
  exact a.1.submission.isFinal_conclude a.2

theorem moves_of_change (h : Tally api delay x) (hxy : Change x y) (k : Operation) :
    (x.session.pane k).Moves (y.session.pane k) := by
  cases hxy with
  | quiet hs => exact .quiet (hs.pane_quiet k)
  | accepted _ hstatus =>
    rw [Session.pane_accept]
    split
    · next hk =>
      subst hk
      exact .requested rfl hstatus
    · exact .quiet .same
  | rejected _ hstatus =>
    rw [Session.pane_reject]
    split
    · have hkind := congrArg Update.kind (StatusArea.update_of_apply hstatus)
      exact .final (congrArg Kind.isFinal hkind)
    · exact .quiet .same
  | sent => exact .quiet .same
  | answered _ => exact .quiet .same
  | shown hdrain =>
    rcases Session.final_or_eq_applyAll hdrain h.isFinal_inbox k with hfinal | heq
    · exact .final hfinal
    · have hquiet : (x.session.pane k).Quiet (x.session.pane k) := .same
      exact .quiet (heq ▸ hquiet)

/-- A pane that counts a request has one without reply, or an outcome in the inbox. -/
theorem exists_of_inFlight (h : Tally api delay x) {k : Operation}
    (hcount : 1 ≤ (x.session.pane k).inFlight) :
    (∃ t ∈ x.session.unanswered, t.submission.operation = k) ∨
      ∃ c ∈ x.session.inbox, c.operation = k := by
  have hsum := h.inFlight_eq k
  have hor : 0 < x.session.unansweredOf k ∨ 0 < x.session.undrainedOf k := by omega
  rcases hor with hpos | hpos
  · obtain ⟨t, ht, hop⟩ := List.countP_pos_iff.1 hpos
    exact .inl ⟨t, ht, of_decide_eq_true hop⟩
  · obtain ⟨c, hc, hop⟩ := List.countP_pos_iff.1 hpos
    exact .inr ⟨c, hc, of_decide_eq_true hop⟩

/-- **What a pane shows lasts, and a pane that waits counts a request.** -/
theorem lasting_of_run {events : List Event}
    (h : (Recorded.start api delay).run events = .ok x) (k : Operation) :
    (x.session.pane k).status.Lasting ∧
      ((x.session.pane k).status.isPending = true → 1 ≤ (x.session.pane k).inFlight) := by
  have hboth : Tally api delay x ∧ (x.session.pane k).status.Lasting ∧
      ((x.session.pane k).status.isPending = true → 1 ≤ (x.session.pane k).inFlight) := by
    refine Recorded.run_induction_change (P := fun x ↦ Tally api delay x ∧
      (x.session.pane k).status.Lasting ∧
      ((x.session.pane k).status.isPending = true → 1 ≤ (x.session.pane k).inFlight)) ?_ ?_ h
    · refine ⟨.start api delay, ?_, ?_⟩
      · cases k <;> exact .hidden delay
      · cases k <;> exact nofun
    · rintro x y ⟨htally, hlasting, hcount⟩ hxy
      have hmoves := htally.moves_of_change hxy k
      refine ⟨htally.change hxy, hmoves.lasting hlasting, fun hpending ↦ ?_⟩
      rcases hmoves.of_isPending hpending with hmore | ⟨hbefore, hsame, -⟩
      · omega
      · exact hsame ▸ hcount hbefore
  exact hboth.2

end Tally

/-! ## Waiting -/

/-- The panes of a session wait for requests only. -/
structure WaitsForRequests (api : Api) (x : Recorded) : Prop where
  /-- A pane waits if something was shown, and the last was that a request is under way. -/
  isPending_iff : ∀ k, (x.session.pane k).status.isPending = true ↔
    (x.session.pane k).status.kind = .info ∧ (x.session.pane k).status.shownAt ≠ none
  /-- A pane that waits counts a request. -/
  one_le_inFlight : ∀ k, (x.session.pane k).status.isPending = true →
    1 ≤ (x.session.pane k).inFlight
  /-- A request that it counts has no reply yet, or its outcome is still to be shown. -/
  exists_request : ∀ k, (x.session.pane k).status.isPending = true →
    (∃ t ∈ x.session.unanswered, t.submission.operation = k) ∨
      ∃ c ∈ x.session.inbox, c.operation = k
  /-- When all requests of a pane have come back and their outcomes were shown, then the last thing
  that was shown is a result, if there is any. -/
  settled : ∀ k, (x.session.pane k).inFlight = 0 → (x.session.pane k).status.shownAt ≠ none →
    (x.session.pane k).status.kind = .success ∨ (x.session.pane k).status.kind = .error
  /-- An event after which a pane waits adds a request to it, or leaves it waiting as it was. -/
  step : ∀ e y k, x.step e = .ok y → (y.session.pane k).status.isPending = true →
    (y.session.pane k).inFlight = (x.session.pane k).inFlight + 1 ∨
      (x.session.pane k).status.isPending = true ∧
        (y.session.pane k).inFlight = (x.session.pane k).inFlight ∧
        (y.session.pane k).status.update = (x.session.pane k).status.update
  /-- Whatever is submitted and whatever the transport answers, a result is shown for it. -/
  execute_ne_info : ∀ s send, (api.execute s send).outcome.update.kind ≠ .info

/-- **A pane never waits for nothing, in every run.** -/
theorem waits_of_run {api : Api} {delay : Duration} {events : List Event} {x : Recorded}
    (h : (Recorded.start api delay).run events = .ok x) : WaitsForRequests api x := by
  have htally := Tally.of_run h
  have hlasting := Tally.lasting_of_run h
  refine
    { isPending_iff := fun k ↦ (hlasting k).1.isPending_iff
      one_le_inFlight := fun k ↦ (hlasting k).2
      exists_request := fun k hpending ↦ htally.exists_of_inFlight ((hlasting k).2 hpending)
      settled := fun k hcount hshown ↦ ?_
      step := fun e y k hy ↦ (htally.moves_of_change (Recorded.change_of_step hy) k).of_isPending
      execute_ne_info := fun s send hinfo ↦ ?_ }
  · cases hfinal : (x.session.pane k).status.kind.isFinal with
    | true => exact Kind.isFinal_iff.1 hfinal
    | false =>
      have hinfo := Kind.isFinal_eq_false_iff.1 hfinal
      have hpos := (hlasting k).2 ((hlasting k).1.isPending_iff.2 ⟨hinfo, hshown⟩)
      omega
  · exact nomatch (Kind.isFinal_eq_false_iff.2 hinfo).symm.trans (api.isFinal_execute s send)

/-- A request is under way, its form is emptied and rejected, and the pane is submitted again:
it waits for the later request although the earlier one is answered. -/
def waitingAgain : List Event :=
  [.edit .delete (.set .ns "a"), .submit .delete 0, .send, .edit .delete .reset,
    .submit .delete 1, .edit .delete (.set .ns "b"), .answer 0 (.error "refused"), .drain 2,
    .submit .delete 3]

theorem waits_of_run_waitingAgain : ∃ x,
    (Recorded.start ⟨"http://api.test"⟩ (Duration.ofSeconds 5)).run waitingAgain = .ok x ∧
      WaitsForRequests ⟨"http://api.test"⟩ x ∧
      (x.session.pane .delete).status.isPending = true ∧ (x.session.pane .delete).inFlight = 1 :=
  ⟨_, rfl, @waits_of_run _ (Duration.ofSeconds 5) waitingAgain _ rfl, rfl, rfl⟩

end ClusterConsole
