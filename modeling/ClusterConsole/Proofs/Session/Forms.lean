import ClusterConsole.Proofs.Form
import ClusterConsole.Proofs.Outcome
import ClusterConsole.Proofs.Session.Solo

/-!
# Forms survive every failure

A form changes for two reasons only: the user edits it, or the outcome of a change to a cluster is
shown, which empties the form that the change came from.  `Recorded.edits` is what an event does to
a form in these terms; it looks at replies and not at outcomes, so it knows nothing of how an
outcome is made from a reply.

A pane on its own (`Solo`) already tells apart what concerns the pane, so what an event does to the
form is read off what it does there (`Solo.form_of_step`).  `forms_of_run` is the main result: after
every run, each form is what its edits make of the blank form.
-/

set_option autoImplicit false

namespace ClusterConsole

open Http (Reply)

/-! ## What changes a form -/

/-- The edit that an action makes in the form at the front, if it makes one. -/
def Action.edit? : Action → Option Edit
  | .focusNext => some .focusNext
  | .focusPrevious => some .focusPrevious
  | .reset => some .reset
  | .clear => some .clear
  | .insert c => some (.insert c)
  | .backspace => some .backspace
  | .quit | .nothing | .nextPane | .previousPane | .scrollDown | .scrollUp | .submit
  | .openHelp | .closeHelp => none

/-- The edit that the user makes by an event in the form of an operation, if any. -/
def Session.edit? (s : Session) (k : Operation) : Event → Option Edit
  | .key kc m _ => if s.active = k then (kc.action m s.mode s.active).edit? else none
  | .edit o e => if o = k then some e else none
  | .scrollDown .. | .scrollUp .. | .choose _ | .submit .. | .send | .answer .. | .drain _
  | .tick _ => none

/-- Does a reply report success? -/
def reportsSuccess : Reply → Bool
  | .ok resp => 200 ≤ resp.status && resp.status < 300
  | .error _ => false

/-- Does a reply report that a submission changed a cluster? -/
def reportsChange (s : Submission) (r : Reply) : Bool :=
  [Operation.create, .delete, .scale].contains s.operation && reportsSuccess r

/-- Is it the reply to a submission from the pane of an operation, and does it report a change? -/
def changedFrom (k : Operation) (a : Ticket × Reply) : Bool :=
  a.1.submission.operation = k && reportsChange a.1.submission a.2

namespace Recorded

/-- What an event does to the form of an operation: the edit that the user makes, or a reset for
each change to a cluster whose outcome is shown. -/
def edits (x : Recorded) (k : Operation) : Event → List Edit
  | .drain _ => (x.history.unshown.filter (changedFrom k)).map fun _ ↦ .reset
  | e => (x.session.edit? k e).toList

/-- What several events do to the form of an operation. -/
def allEdits (x : Recorded) (k : Operation) : List Event → List Edit
  | [] => []
  | e :: rest =>
    match x.step e with
    | .error _ => []
    | .ok y => x.edits k e ++ y.allEdits k rest

end Recorded

/-! ## The form of a pane on its own -/

/-- What happens to the form of a pane, when `inbox` holds its outcomes. -/
def PaneEvent.edits (inbox : List Outcome) : PaneEvent → List Edit
  | .edited e => [e]
  | .drained _ => (inbox.filter Outcome.resetForm).map fun _ ↦ .reset
  | .scrolledDown _ | .scrolledUp _ | .submitted _ | .answered .. | .ticked _ => []

theorem Pane.form_of_revealAll {now : Instant} {cs : List Outcome} :
    ∀ {p q : Pane}, p.revealAll now cs = .ok q →
      q.form = p.form.replay ((cs.filter Outcome.resetForm).map fun _ ↦ .reset) := by
  induction cs with
  | nil =>
    rintro p q ⟨⟩
    rfl
  | cons c rest ih =>
    intro p q h
    rw [revealAll] at h
    split at h
    · cases h
    · next p' hp' =>
      obtain ⟨status, -, rfl⟩ := Except.exists_of_map_eq_ok hp'
      rw [ih h, List.filter_cons]
      by_cases hreset : c.resetForm = true
      · simp only [if_pos hreset]
        rfl
      · simp only [if_neg hreset]

/-- A submission leaves the form as it is, whether it is accepted or not. -/
theorem Solo.form_of_submit {x y : Solo} {k : Operation} {now : Instant}
    (h : x.submit k now = .ok y) : y.pane.form = x.pane.form := by
  rw [submit] at h
  split at h
  · obtain ⟨status, -, rfl⟩ := Except.exists_of_map_eq_ok h
    rfl
  · obtain ⟨status, -, rfl⟩ := Except.exists_of_map_eq_ok h
    rfl

theorem Solo.form_answer (x : Solo) (n : Nat) (r : Reply) :
    (x.answer n r).pane.form = x.pane.form := by
  rw [answer]
  split <;> rfl

theorem Solo.form_of_step {x y : Solo} {k : Operation} {e : PaneEvent}
    (h : x.step k e = .ok y) : y.pane.form = x.pane.form.replay (e.edits x.inbox) := by
  cases e with
  | submitted now => exact form_of_submit h
  | answered n r =>
    cases h
    exact x.form_answer n r
  | drained now =>
    obtain ⟨p, hp, rfl⟩ := Except.exists_of_map_eq_ok h
    exact Pane.form_of_revealAll hp
  | _ =>
    cases h
    rfl

/-! ## One event -/

/-- An outcome empties the form if the reply reports a change, and else leaves it. -/
theorem Submission.resetForm_conclude (s : Submission) (r : Reply) :
    (s.conclude r).resetForm = reportsChange s r := by
  have hwrite : ∀ w, (Outcome.ofWrite w (Api.accept r)).resetForm = reportsSuccess r := by
    intro w
    cases r with
    | error cause => rfl
    | ok resp =>
      have hiff : reportsSuccess (.ok resp) = true ↔ resp.Succeeds := by
        simp [reportsSuccess, Http.Response.Succeeds]
      by_cases hresp : resp.Succeeds
      · rw [Api.accept_of_succeeds hresp, hiff.2 hresp]
        rfl
      · rw [Api.accept_of_not_succeeds hresp, Bool.eq_false_iff.2 (mt hiff.1 hresp)]
        rfl
  have hread : ∀ f, (Outcome.ofReadFailure f).resetForm = false := by
    intro f
    cases f <;> rfl
  cases s with
  | create f => exact hwrite .create
  | delete ns => exact hwrite .delete
  | scale ns replicas => exact hwrite .scale
  | list =>
    rw [conclude]
    cases Api.readList r with
    | ok items => rfl
    | error f => exact hread f
  | details ns =>
    rw [conclude]
    cases Api.readDetails r with
    | ok v => rfl
    | error f => exact hread f

/-- The actions that edit a form are those that a pane sees as edits. -/
theorem Action.edit?_eq (a : Action) (now : Instant) (inbox : List Outcome) :
    a.edit?.toList = (a.paneEvent? now).toList.flatMap (PaneEvent.edits inbox) := by
  cases a <;> rfl

namespace Tally

variable {api : Api} {delay : Duration} {x y : Recorded}

/-- The outcomes of a pane that empty its form are those of the changes made from it. -/
theorem filter_resetForm (h : Tally api delay x) (k : Operation) :
    ((x.solo k).inbox.filter Outcome.resetForm).map (fun _ ↦ Edit.reset) =
      (x.history.unshown.filter (changedFrom k)).map fun _ ↦ .reset := by
  have hpick : ∀ a : Ticket × Reply,
      (decide ((Session.completion a.1 a.2).operation = k) &&
        (Session.completion a.1 a.2).outcome.resetForm) = changedFrom k a :=
    fun a ↦ congrArg _ (a.1.submission.resetForm_conclude a.2)
  simp only [Recorded.solo, outcomesOf, h.inbox_eq, List.filter_map, List.map_map,
    List.filter_filter, Function.comp_def]
  exact congrArg _ (List.filter_congr fun a _ ↦ (Bool.and_comm ..).trans (hpick a))

/-- What an event does to a form is what the pane sees of it. -/
theorem edits_eq (h : Tally api delay x) (k : Operation) (e : Event) :
    x.edits k e = (x.paneEvent? k e).toList.flatMap (PaneEvent.edits (x.solo k).inbox) := by
  cases e with
  | key kc m now =>
    change (x.session.edit? k (.key kc m now)).toList = _
    rw [Session.edit?, Recorded.paneEvent?]
    split
    · exact Action.edit?_eq _ _ _
    · rfl
  | edit o e =>
    change (x.session.edit? k (.edit o e)).toList = _
    rw [Session.edit?, Recorded.paneEvent?]
    split <;> rfl
  | scrollDown o amount | scrollUp o amount | submit o now =>
    rw [Recorded.paneEvent?]
    split <;> rfl
  | answer id r =>
    rw [Recorded.paneEvent?]
    split
    · rfl
    · split <;> rfl
  | drain now => exact (h.filter_resetForm k).symm.trans (List.append_nil _).symm
  | choose o | send | tick now => rfl

/-- **An event makes no more of a form than its edits do.** -/
theorem form_of_step (h : Tally api delay x) {e : Event} (hy : x.step e = .ok y) (k : Operation) :
    (y.session.pane k).form = (x.session.pane k).form.replay (x.edits k e) := by
  have hsolo := h.run_solo_step hy k
  rw [h.edits_eq]
  cases hpane : x.paneEvent? k e with
  | none =>
    rw [hpane] at hsolo
    exact congrArg (fun z : Solo ↦ z.pane.form) (Except.ok.inj hsolo).symm
  | some pe =>
    rw [hpane, Option.toList, Solo.run] at hsolo
    split at hsolo
    · cases hsolo
    · next z hz =>
      cases hsolo
      rw [Option.toList, List.flatMap_singleton]
      exact Solo.form_of_step hz

/-- After a run, a form is what its edits make of the form at the beginning. -/
theorem form_of_run {events : List Event} :
    ∀ {x : Recorded}, Tally api delay x → x.run events = .ok y → ∀ k,
      (y.session.pane k).form = (x.session.pane k).form.replay (x.allEdits k events) := by
  induction events with
  | nil =>
    rintro x - ⟨⟩ k
    rfl
  | cons e rest ih =>
    intro x hx h k
    rw [Recorded.run] at h
    split at h
    · cases h
    · next z hz =>
      rw [Recorded.allEdits, hz, Form.replay_append, ← hx.form_of_step hz k]
      exact ih (hx.change (Recorded.change_of_step hz)) h k

end Tally

/-! ## Every run -/

namespace Recorded

variable {api : Api} {delay : Duration} {events : List Event} {x : Recorded}

/-- After a run, a form is what its edits make of the blank form. -/
theorem form_of_run (h : (start api delay).run events = .ok x) (k : Operation) :
    (x.session.pane k).form = (Form.blank k).replay ((start api delay).allEdits k events) := by
  have hblank : ((start api delay).session.pane k).form = .blank k := by cases k <;> rfl
  rw [(Tally.start api delay).form_of_run h k, hblank]

/-- After a run, a form has the inputs of its operation. -/
theorem inputs_of_run (h : (start api delay).run events = .ok x) (k : Operation) :
    (x.session.pane k).form.inputs = k.inputs := by
  rw [form_of_run h, Form.inputs_replay, Form.inputs_blank]

end Recorded

/-- What has become of the forms of a session, by the run that led to it. -/
structure FormsSurvive (api : Api) (delay : Duration) (events : List Event) (x : Recorded) :
    Prop where
  /-- A form is what the edits in it make of the blank form, with a reset for each change to a
  cluster whose outcome was shown. -/
  form_eq : ∀ k, (x.session.pane k).form =
    (Form.blank k).replay ((Recorded.start api delay).allEdits k events)
  /-- Each further event does to a form what its edits do. -/
  form_step : ∀ e y k, x.step e = .ok y →
    (y.session.pane k).form = (x.session.pane k).form.replay (x.edits k e)
  /-- Nothing that is no edit and shows no outcome touches a form: no submission, whether it is
  rejected or accepted, no reply, no tick, no other pane and no help. -/
  form_kept : ∀ e y k, x.step e = .ok y → x.session.edit? k e = none →
    (∀ now, e ≠ .drain now) → (y.session.pane k).form = (x.session.pane k).form
  /-- A reset empties a form and moves its focus to the front, as in the beginning. -/
  reset_eq : ∀ k, (x.session.pane k).form.reset = .blank k
  /-- Showing outcomes empties the forms from which a cluster was changed, and no other. -/
  form_drain : ∀ now d k, x.session.drain now = .ok d →
    (d.session.pane k).form =
      if x.history.unshown.any (changedFrom k) then .blank k else (x.session.pane k).form

/-- **Forms survive every failure, in every run.** -/
theorem forms_of_run {api : Api} {delay : Duration} {events : List Event} {x : Recorded}
    (h : (Recorded.start api delay).run events = .ok x) : FormsSurvive api delay events x := by
  have htally := Tally.of_run h
  have hreset : ∀ k, (x.session.pane k).form.reset = .blank k :=
    fun k ↦ Form.reset_eq_blank (htally.operation_eq k) (Recorded.inputs_of_run h k)
  refine
    { form_eq := Recorded.form_of_run h
      form_step := fun e y k hy ↦ htally.form_of_step hy k
      form_kept := fun e y k hy hnone hdrain ↦ ?_
      reset_eq := hreset
      form_drain := fun now d k hd ↦ ?_ }
  · have hedits : x.edits k e = (x.session.edit? k e).toList := by
      cases e with
      | drain now => exact absurd rfl (hdrain now)
      | _ => rfl
    rw [htally.form_of_step hy k, hedits, hnone]
    rfl
  · have hstep : x.step (.drain now) =
        .ok ⟨d.session, x.history ++ x.session.notes x.history (.drain now)⟩ := by
      rw [Recorded.step, Session.step, hd]
      rfl
    rw [show (d.session.pane k).form = (x.session.pane k).form.replay (x.edits k (.drain now)) from
      htally.form_of_step hstep k, Recorded.edits]
    split
    · next hany =>
      obtain ⟨a, ha, hchanged⟩ := List.any_eq_true.1 hany
      exact Form.replay_resets (hreset k) (List.ne_nil_of_mem (List.mem_filter.2 ⟨ha, hchanged⟩))
    · next hany =>
      have hnone : x.history.unshown.filter (changedFrom k) = [] := by
        simpa [List.filter_eq_nil_iff] using hany
      rw [hnone]
      rfl

/-- A cluster is deleted while another one cannot be found and a third submission is rejected; then
a letter is typed before the outcomes are shown. -/
def deleteAmongFailures : List Event :=
  [.edit .delete (.set .ns "a"), .edit .details (.set .ns "b"), .submit .delete 0,
    .submit .details 1, .submit .scale 2, .send, .answer 1 (.ok ⟨404, "Not Found", ""⟩),
    .answer 0 (.ok ⟨200, "OK", "gone"⟩), .choose .delete, .key (.char 'c') .none 3, .drain 4,
    .tick 5]

theorem forms_of_run_deleteAmongFailures : ∃ x,
    (Recorded.start ⟨"http://api.test"⟩ (Duration.ofSeconds 5)).run deleteAmongFailures = .ok x ∧
      FormsSurvive ⟨"http://api.test"⟩ (Duration.ofSeconds 5) deleteAmongFailures x ∧
      (x.session.pane .delete).form = .blank .delete ∧
      (x.session.pane .details).form.value .ns = "b" :=
  ⟨_, rfl, @forms_of_run _ _ deleteAmongFailures _ rfl, rfl, rfl⟩

end ClusterConsole
