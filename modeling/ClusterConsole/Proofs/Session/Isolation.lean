import ClusterConsole.Proofs.Request
import ClusterConsole.Proofs.Session.Solo

/-!
# Panes do not interfere

Five panes share one inbox, one line of waiting requests and one keyboard.  Still, what a pane shows
and what is sent for it depend on nothing but what happens to that pane: two runs that look the same
to a pane (`Recorded.happenings`) leave it the same, however different they are for the others.
This holds because a pane can be followed on its own (`Recorded.run_solo_start`), and `Solo.run` is
a function of what happens.

Which pane a key reaches is decided by the session.  `KeyLocal` says that no other pane notices it,
and that no pane notices anything while the help is read.

`panes_isolated` is the main result.
-/

set_option autoImplicit false

namespace ClusterConsole

open Http (Request)

/-! ## The requests of a pane -/

/-- The requests of an operation among several to the same server. -/
def requestsTo (api : Api) (k : Operation) (qs : List Request) : List Request :=
  qs.filter fun q ↦ operationOf api.base q = some k

/-- The requests of a session that were not sent yet. -/
def Session.unsent (s : Session) : List Request := s.waiting.filterMap (requestOf s.api)

/-- The request of a submission, if nothing is wrong with it. -/
def Submission.request? (s : Submission) (api : Api) : Option Request :=
  match s.check with
  | .ok call => some (api.request call)
  | .error _ => none

theorem Session.requestOf_eq (api : Api) (t : Ticket) :
    requestOf api t = t.submission.request? api := rfl

/-- A request is one of the operation that was submitted. -/
theorem Submission.operationOf_of_request? {api : Api} {s : Submission} {q : Request}
    (h : s.request? api = some q) : operationOf api.base q = some s.operation := by
  rw [request?] at h
  split at h
  · next call hcall =>
    cases h
    exact (passes_of_check hcall).operationOf_request api
  · exact nomatch h

namespace Tally

variable {api : Api} {delay : Duration} {x : Recorded}

/-- The requests of a pane, sent or not, are those of its accepted submissions. -/
theorem requestsTo_eq (h : Tally api delay x) (k : Operation) :
    requestsTo api k (x.history.requests ++ x.session.unsent) =
      (x.solo k).submissions.filterMap fun s ↦ s.request? api := by
  have hpick : ∀ a ∈ x.history.accepted,
      ((Session.requestOf api a.2).filter fun q ↦ operationOf api.base q = some k) =
        if a.1 = k then Session.requestOf api a.2 else none := by
    intro a ha
    rw [Session.requestOf_eq]
    cases hq : a.2.submission.request? api with
    | none => simp
    | some q => simp [Option.filter, Submission.operationOf_of_request? hq, (h.checked a ha).1]
  calc requestsTo api k (x.history.requests ++ x.session.unsent)
    _ = requestsTo api k ((x.history.accepted.map Prod.snd).filterMap (Session.requestOf api)) := by
      rw [Session.unsent, h.api_eq, h.requests_eq]
    _ = x.history.accepted.filterMap fun a ↦
          (Session.requestOf api a.2).filter fun q ↦ operationOf api.base q = some k := by
      rw [requestsTo, List.filter_filterMap, List.filterMap_map]
      rfl
    _ = x.history.accepted.filterMap fun a ↦
          if a.1 = k then Session.requestOf api a.2 else none := List.filterMap_congr hpick
    _ = (x.solo k).submissions.filterMap fun s ↦ s.request? api := by
      simp only [Recorded.solo, History.ticketsOf, List.filterMap_map, List.filterMap_filter,
        Function.comp_def, Session.requestOf_eq, decide_eq_true_eq]

end Tally

/-! ## Two runs -/

/-- The pane of an operation is the same in two sessions, and so is what was sent for it. -/
structure SamePane (api : Api) (k : Operation) (x y : Recorded) : Prop where
  /-- Its form, its status area and its counter are the same. -/
  pane_eq : x.session.pane k = y.session.pane k
  /-- The outcomes that it will show next are the same. -/
  inbox_eq : outcomesOf k x.session.inbox = outcomesOf k y.session.inbox
  /-- The requests that it made are the same, in the same order. -/
  requests_eq : requestsTo api k (x.history.requests ++ x.session.unsent) =
    requestsTo api k (y.history.requests ++ y.session.unsent)
  /-- Those that were sent are the same, too, once none of them waits to be sent. -/
  sent_eq : requestsTo api k x.session.unsent = [] → requestsTo api k y.session.unsent = [] →
    requestsTo api k x.history.requests = requestsTo api k y.history.requests

/-- Two runs that look the same to a pane leave it the same. -/
theorem SamePane.of_happenings {api : Api} {delay : Duration} {k : Operation}
    {events events' : List Event} {x y : Recorded}
    (hx : (Recorded.start api delay).run events = .ok x)
    (hy : (Recorded.start api delay).run events' = .ok y)
    (hsame : (Recorded.start api delay).happenings k events =
      (Recorded.start api delay).happenings k events') : SamePane api k x y := by
  have hsolo : x.solo k = y.solo k := by
    have hrun := Recorded.run_solo_start hx k
    rw [hsame, Recorded.run_solo_start hy k] at hrun
    exact (Except.ok.inj hrun).symm
  have hrequests : requestsTo api k (x.history.requests ++ x.session.unsent) =
      requestsTo api k (y.history.requests ++ y.session.unsent) := by
    rw [(Tally.of_run hx).requestsTo_eq, (Tally.of_run hy).requestsTo_eq, hsolo]
  refine ⟨congrArg Solo.pane hsolo, congrArg Solo.inbox hsolo, hrequests, fun hnone hnone' ↦ ?_⟩
  simpa only [requestsTo, List.filter_append, show x.session.unsent.filter _ = [] from hnone,
    show y.session.unsent.filter _ = [] from hnone', List.append_nil] using hrequests

/-! ## Keys -/

/-- While the help is read, a key does no more than close it. -/
theorem KeyCode.helpAction_cases (kc : KeyCode) :
    kc.helpAction = .closeHelp ∨ kc.helpAction = .nothing := by
  unfold helpAction
  split
  all_goals simp

/-- What a key leaves alone. -/
structure KeyLocal (s : Session) (kc : KeyCode) (m : Modifiers) (now : Instant) : Prop where
  /-- Only the pane at the front notices it. -/
  pane_eq : ∀ p, s.press kc m now = .ok p → ∀ o, o ≠ s.active → p.session.pane o = s.pane o
  /-- While the help is read, no pane notices it, the same pane stays at the front, nothing is sent,
  and only Ctrl+C quits. -/
  of_help : s.mode = .help → ∃ p, s.press kc m now = .ok p ∧ p.session.panes = s.panes ∧
    p.session.active = s.active ∧ s.SameQueues p.session ∧
    (p.quit = true ↔ kc = .char 'c' ∧ m.control = true)

theorem keyLocal (s : Session) (kc : KeyCode) (m : Modifiers) (now : Instant) :
    KeyLocal s kc m now where
  pane_eq p hp o ho := by
    have hsolo := @Recorded.run_solo_act ⟨s, []⟩ _ _ _ hp o
    rw [if_neg (Ne.symm ho)] at hsolo
    exact (congrArg Solo.pane (Except.ok.inj hsolo)).symm
  of_help hmode := by
    rw [Session.press, hmode, KeyCode.action]
    by_cases hquit : kc = .char 'c' ∧ m.control = true
    · rw [if_pos hquit]
      exact ⟨_, rfl, rfl, rfl, ⟨rfl, rfl, rfl, rfl, rfl⟩, iff_of_true rfl hquit⟩
    · rw [if_neg hquit]
      rcases kc.helpAction_cases with hclose | hnothing
      · simp only [hclose]
        exact ⟨_, rfl, rfl, rfl, ⟨rfl, rfl, rfl, rfl, rfl⟩, iff_of_false nofun hquit⟩
      · simp only [hnothing]
        exact ⟨_, rfl, rfl, rfl, ⟨rfl, rfl, rfl, rfl, rfl⟩, iff_of_false nofun hquit⟩

/-! ## Isolation -/

/-- **Panes do not interfere.**  In every run a pane goes the way it goes on its own; so two runs
that look the same to a pane leave it the same, whatever happens to the others.  And a key reaches
no pane but the one at the front. -/
theorem panes_isolated (api : Api) (delay : Duration) :
    (∀ (k : Operation) (events : List Event) (x : Recorded),
      (Recorded.start api delay).run events = .ok x →
      (Solo.start delay k).run k ((Recorded.start api delay).happenings k events) =
        .ok (x.solo k)) ∧
    (∀ (k : Operation) (events events' : List Event) (x y : Recorded),
      (Recorded.start api delay).run events = .ok x →
      (Recorded.start api delay).run events' = .ok y →
      (Recorded.start api delay).happenings k events =
        (Recorded.start api delay).happenings k events' →
      SamePane api k x y) ∧
    ∀ (s : Session) (kc : KeyCode) (m : Modifiers) (now : Instant), KeyLocal s kc m now :=
  ⟨fun k _ _ h ↦ Recorded.run_solo_start h k, fun _ _ _ _ _ ↦ SamePane.of_happenings, keyLocal⟩

/-- A namespace is deleted while clusters are listed: the list is asked for first, and its reply
comes last. -/
def deleteAmongLists : List Event :=
  [.submit .list 0, .choose .delete, .key (.char 'a') .none 1, .submit .list 1,
    .key .enter .none 2, .send, .answer 2 (.error "refused"), .answer 0 (.error "late"), .drain 3,
    .answer 1 (.error "later"), .tick 4]

/-- The same namespace is deleted, and nothing else is done. -/
def deleteAlone : List Event :=
  [.edit .delete (.insert 'a'), .submit .delete 2, .send, .answer 0 (.error "refused"), .drain 3,
    .tick 4]

theorem panes_isolated_delete :
    (Recorded.start ⟨"http://api.test"⟩ (Duration.ofSeconds 5)).happenings .delete
      deleteAmongLists =
    (Recorded.start ⟨"http://api.test"⟩ (Duration.ofSeconds 5)).happenings .delete deleteAlone ∧
    ∃ x y, (Recorded.start ⟨"http://api.test"⟩ (Duration.ofSeconds 5)).run deleteAmongLists =
        .ok x ∧
      (Recorded.start ⟨"http://api.test"⟩ (Duration.ofSeconds 5)).run deleteAlone = .ok y ∧
      SamePane ⟨"http://api.test"⟩ .delete x y ∧ x.history.requests.length = 3 ∧
      y.history.requests.length = 1 := by
  have hlists : (Recorded.start ⟨"http://api.test"⟩ (Duration.ofSeconds 5)).happenings .delete
      deleteAmongLists = [.edited (.insert 'a'), .submitted 2, .answered 0 (.error "refused"),
        .drained 3, .ticked 4] := rfl
  have halone : (Recorded.start ⟨"http://api.test"⟩ (Duration.ofSeconds 5)).happenings .delete
      deleteAlone = [.edited (.insert 'a'), .submitted 2, .answered 0 (.error "refused"),
        .drained 3, .ticked 4] := rfl
  have hsame := hlists.trans halone.symm
  have hisolated := (panes_isolated ⟨"http://api.test"⟩ (Duration.ofSeconds 5)).2.1 .delete
    deleteAmongLists deleteAlone _ _ rfl rfl hsame
  exact ⟨hsame, _, _, rfl, rfl, hisolated, rfl, rfl⟩

end ClusterConsole
