import ClusterConsole.Proofs.Session.Forms
import ClusterConsole.Proofs.Session.Once

/-!
# Commands do what forms do

There are two ways to have an operation done: to fill its form in a session, or to give its inputs
on the command line.  The two are read in different ways and run in different ways, one by way of
tickets and an inbox, the other straight to its end; but they come to the same.

* `Command.Gives` says which texts a command gives for the inputs of an operation.
* `Command.Gives.submission?_eq` says that such a command makes the submission of a form that holds
  these texts, so both are checked, sent and concluded alike.
* `command_does_as_form` is the main result: the same requests are sent, what the pane shows is
  printed, and the exit code says whether it is an error.
-/

set_option autoImplicit false

namespace ClusterConsole

open Http (Reply)

/-! ## The same inputs -/

/-- The texts that a command gives for the inputs of an operation.  What is not given is empty. -/
inductive Command.Gives : Command → Operation → (Key → String) → Prop
  | create {inputs : Creation} {texts : Key → String}
      (h : ∀ k, (inputs.given k).getD "" = texts k) : Gives (.create inputs) .create texts
  | delete (texts : Key → String) : Gives (.delete (texts .ns)) .delete texts
  | list (texts : Key → String) : Gives .list .list texts
  | get (texts : Key → String) : Gives (.get (texts .ns)) .details texts
  | scale (texts : Key → String) : Gives (.scale (texts .ns) (texts .replicas)) .scale texts

namespace Command

variable {c : Command} {o : Operation} {texts : Key → String} {f : Form}

/-- There is a command for every operation and all texts. -/
theorem exists_gives (o : Operation) (texts : Key → String) : ∃ c : Command, c.Gives o texts := by
  cases o with
  | create => exact ⟨.create ⟨fun k ↦ some (texts k), fun _ _ ↦ rfl⟩, .create fun _ ↦ rfl⟩
  | delete => exact ⟨_, .delete texts⟩
  | list => exact ⟨_, .list texts⟩
  | details => exact ⟨_, .get texts⟩
  | scale => exact ⟨_, .scale texts⟩

/-- The form for a new cluster has an input for every key. -/
theorem mem_inputs_create (k : Key) : k ∈ Operation.create.inputs.map Input.key := by
  cases k <;> decide

/-- The inputs for a new cluster are the same, key by key. -/
theorem fields_eq {inputs : Creation} (h : (Command.create inputs).Gives o texts)
    (hf : f.Holds o texts) : inputs.fields = f.clusterFields := by
  cases h with
  | create hgiven =>
    refine Fields.ext (funext fun k ↦ ?_)
    exact (hgiven k).trans (hf.value_eq (mem_inputs_create k)).symm

/-- **A command submits what a form with the same texts submits.** -/
theorem Gives.submission?_eq (h : c.Gives o texts) (hf : f.Holds o texts) :
    c.submission? = some f.submission := by
  rw [Form.submission, hf.operation_eq]
  cases h with
  | create hgiven => exact congrArg (some ∘ Submission.create) (fields_eq (.create hgiven) hf)
  | delete => rw [hf.value_eq (by decide), submission?]
  | list => rfl
  | get => rw [hf.value_eq (by decide), submission?]
  | scale => rw [hf.value_eq (by decide), hf.value_eq (by decide), submission?]

end Command

/-! ## The same run -/

/-- A command that makes a submission runs it against the server. -/
theorem Program.runAgainst_of_submission? {c : Command} {s : Submission}
    (h : c.submission? = some s) (limit : Option Level) (api : Api) :
    runAgainst limit api (some c) = runSubmission limit api s := by
  cases c with
  | health => cases h
  | config apiUrl hideAfter => cases h
  | _ =>
    cases h
    rfl

/-- Editing a form concerns no request. -/
theorem Recorded.run_edits (o : Operation) (es : List Edit) :
    ∀ x : Recorded, ∃ y, x.run (es.map (.edit o)) = .ok y ∧ y.history = x.history ∧
      x.session.SameQueues y.session ∧
      (y.session.pane o).form = (x.session.pane o).form.replay es := by
  induction es with
  | nil => exact fun x ↦ ⟨x, rfl, rfl, ⟨rfl, rfl, rfl, rfl, rfl⟩, rfl⟩
  | cons e rest ih =>
    intro x
    have hstep : x.step (.edit o e) =
        .ok ⟨x.session.editForm o e.apply, x.history ++ []⟩ := rfl
    obtain ⟨y, hy, hhistory, hqueues, hform⟩ := ih ⟨x.session.editForm o e.apply, x.history ++ []⟩
    refine ⟨y, (run_of_step hstep _).trans hy, hhistory.trans (List.append_nil _),
      (Session.sameQueues_setPane ..).trans hqueues, ?_⟩
    rw [hform, Session.editForm, Session.pane_setPane, if_pos rfl]
    rfl

/-- What a session has done from `x` to `y` is what a run of the program did with the result given:
the same requests were sent, after those that were waiting, and what the pane of the operation shows
was printed, with an exit code that tells whether it is an error. -/
structure Recorded.Matches (x y : Recorded) (o : Operation) (result : Result) : Prop where
  requests_eq : y.history.requests = x.history.requests ++ x.session.dispatch.2.1 ++ result.sent
  printed_eq :
    let status := (y.session.pane o).status
    result.printed = status.kind.icon ++ " " ++ status.message ++ "\n" ++
      match status.detail with
      | some detail => detail ++ "\n"
      | none => ""
  code_eq : result.code = if (y.session.pane o).status.kind = .error then 1 else 0

/-- A submission that has gone to its end in a session matches its run. -/
theorem Recorded.Concludes.matches {x y : Recorded} {o : Operation} {api : Api} {s : Submission}
    {w : World} (h : x.Concludes o (api.execute s w.send) y) (limit : Option Level) :
    x.Matches y o ((Program.runSubmission limit api s).result w) := by
  obtain ⟨hprinted, hcode, hsent⟩ := Program.result_runSubmission w limit api s
  have hkind : (y.session.pane o).status.kind = (api.execute s w.send).outcome.update.kind :=
    congrArg Update.kind h.update_eq
  refine ⟨hsent.symm ▸ h.requests_eq, ?_, ?_⟩
  · rw [hprinted, Execution.printed, Outcome.printed, ← h.update_eq]
    rfl
  · rw [hcode, hkind, Execution.ok]
    cases (api.execute s w.send).outcome.update.kind <;> rfl

/-- A command does what a form of an operation does that holds the same texts. -/
structure SameOperation (api : Api) (delay : Duration) (c : Command) (o : Operation)
    (texts : Key → String) : Prop where
  submission?_eq : ∀ f : Form, f.Holds o texts → c.submission? = some f.submission
  fields_eq : ∀ (inputs : Creation) (f : Form), c = .create inputs → f.Holds o texts →
    inputs.fields = f.clusterFields
  /-- Whatever has happened, the form can be filled with the texts. -/
  holds_filling : ∀ events x, (Recorded.start api delay).run events = .ok x →
    ((x.session.pane o).form.replay (Form.filling o texts)).Holds o texts
  /-- Whatever has happened, if no outcome of the pane is still to be shown, then edits that make
  the form hold the texts and a submission of it that goes to its end do what the command does. -/
  run : ∀ events x es now t r now' t' limit w,
    (Recorded.start api delay).run events = .ok x → x.session.undrainedOf o = 0 →
    ((x.session.pane o).form.replay es).Holds o texts →
    Instant.after now delay = .ok t → Instant.after now' delay = .ok t' →
    let result := (Program.runAgainst limit api (some c)).result w
    (∀ q ∈ result.sent, (w.send q).reply = r) →
    ∃ y, x.run (es.map (.edit o) ++ x.once o now r now') = .ok y ∧ x.Matches y o result

/-- **Commands do what forms do.** -/
theorem command_does_as_form (api : Api) (delay : Duration) :
    (∀ o texts, ∃ c : Command, c.Gives o texts) ∧
    ∀ (c : Command) (o : Operation) (texts : Key → String), c.Gives o texts →
      SameOperation api delay c o texts := by
  refine ⟨Command.exists_gives, fun c o texts h ↦ ?_⟩
  refine
    { submission?_eq := fun f ↦ h.submission?_eq
      fields_eq := fun inputs f hc hf ↦ ?_
      holds_filling := fun events x hx ↦ ?_
      run := fun events x es now t r now' t' limit w hx hinbox hholds hnow hnow' ↦ ?_ }
  · subst hc
    exact Command.fields_eq h hf
  · exact Form.holds_filling ((Tally.of_run hx).operation_eq o) (Recorded.inputs_of_run hx o) texts
  · obtain ⟨z, hz, hhistory, hqueues, hform⟩ := x.run_edits o es
    have htally : Tally api delay z := Tally.of_run ((Recorded.run_append hx _).trans hz)
    have hsubmission : c.submission? = some (z.session.submission o) :=
      h.submission?_eq (hform ▸ hholds)
    rw [Program.runAgainst_of_submission? hsubmission]
    intro result hr
    have hsent : result.sent = (api.execute (z.session.submission o) w.send).sent :=
      (Program.result_runSubmission w limit api _).2.2
    have hundrained : z.session.undrainedOf o = 0 := by
      rw [Session.undrainedOf, hqueues.inbox_eq]
      exact hinbox
    obtain ⟨y, hy, hconcludes⟩ := htally.run_once hundrained hnow hnow' (hsent ▸ hr)
    have hmatches : z.Matches y o result := hconcludes.matches limit
    refine ⟨y, ?_, ?_, hmatches.printed_eq, hmatches.code_eq⟩
    · rw [Recorded.run_append hz, ← hy, Recorded.once, Recorded.once, hqueues.nextId_eq]
    · rw [hmatches.requests_eq, hhistory, Session.dispatch, Session.dispatch, hqueues.api_eq,
        hqueues.waiting_eq]

/-- A cluster is scaled from its form, and from the command line. -/
theorem command_does_as_form_scale :
    let api : Api := ⟨"http://api.test"⟩
    let start := Recorded.start api (Duration.ofSeconds 5)
    let texts : Key → String := fun k ↦ if k = .ns then "a" else "2"
    let reply : Reply := .ok ⟨200, "OK", "done"⟩
    let world : World := ⟨none, none, none, .always reply⟩
    let result := (Program.runAgainst none api (some (.scale "a" "2"))).result world
    (Command.scale "a" "2").Gives .scale texts ∧
    result.sent = [api.request (.scale "a" 2)] ∧
    result.printed = "✓ cluster scaled\ndone\n" ∧
    ∃ y, start.run ((Form.filling .scale texts).map (.edit .scale) ++
        start.once .scale 0 reply 1) = .ok y ∧
      start.Matches y .scale result := by
  intro api start texts reply world result
  have hgives : (Command.scale "a" "2").Gives .scale texts := .scale texts
  have hsame := (command_does_as_form api (Duration.ofSeconds 5)).2 _ _ _ hgives
  have hfilled := hsame.holds_filling [] start rfl
  refine ⟨hgives, rfl, by decide, ?_⟩
  exact hsame.run [] start _ 0 _ reply 1 _ none world rfl rfl hfilled rfl rfl fun _ _ ↦ rfl

end ClusterConsole
