import ClusterConsole.Proofs.Screen.Heading
import ClusterConsole.Proofs.Session.Tally

/-!
# Requests are conserved

The counter of a pane is changed in two places, by an accepted submission and by an outcome that is
shown, and it never goes below zero.  `Conserved` says what the counters then mean in every state
that a session can reach, however many requests are under way and in whichever order their replies
come: a pane counts its requests without reply together with its outcomes in the inbox, which is the
number of its accepted submissions less that of its outcomes shown.

`conserved_of_run` is the main result.  It reads the counts off the places of the tickets (`Tally`),
and goes as far as the line of the header in which their sum stands on the screen.
-/

set_option autoImplicit false

namespace ClusterConsole

open Http (Request Reply)

/-! ## Counting by operation -/

namespace History

/-- The number of submissions that were accepted from the pane of an operation. -/
def acceptedOf (h : History) (k : Operation) : Nat := h.accepted.countP fun a ↦ a.1 = k

/-- The number of outcomes of an operation that were shown. -/
def shownOf (h : History) (k : Operation) : Nat :=
  h.shown.countP fun a ↦ a.1.submission.operation = k

end History

/-- Counting things for every operation counts each of them once. -/
theorem sum_countP_operation {α : Type} (f : α → Operation) (l : List α) :
    Operation.all.foldr (fun k n ↦ (l.countP fun a ↦ f a = k) + n) 0 = l.length := by
  induction l with
  | nil => rfl
  | cons a rest ih =>
    simp only [Operation.all, List.foldr_cons, List.foldr_nil, List.countP_cons,
      decide_eq_true_eq, List.length_cons] at ih ⊢
    cases f a <;> simp <;> omega

namespace Tally

variable {api : Api} {delay : Duration} {x : Recorded}

/-- The outcomes in the inbox are those of the replies that are still to be shown. -/
theorem undrainedOf_eq (h : Tally api delay x) (k : Operation) :
    x.session.undrainedOf k = x.history.unshown.countP fun a ↦ a.1.submission.operation = k := by
  rw [Session.undrainedOf, h.inbox_eq, List.countP_map]
  rfl

/-- An accepted submission is unanswered, or its outcome is in the inbox, or it was shown. -/
theorem acceptedOf_eq (h : Tally api delay x) (k : Operation) :
    x.history.acceptedOf k =
      x.session.unansweredOf k + x.session.undrainedOf k + x.history.shownOf k := by
  have hown : x.history.acceptedOf k =
      (x.history.accepted.map Prod.snd).countP fun t ↦ t.submission.operation = k := by
    rw [History.acceptedOf, List.countP_map]
    refine List.countP_congr fun a ha ↦ ?_
    simp [(h.checked a ha).1]
  have hanswers : (x.history.answers.map Prod.fst).countP (fun t ↦ t.submission.operation = k) =
      x.history.shownOf k + x.session.undrainedOf k := by
    rw [h.undrainedOf_eq, ← h.shown_append_unshown, List.countP_map, List.countP_append]
    rfl
  rw [hown, ← h.tickets_perm.countP_eq, List.countP_append, hanswers, Session.unansweredOf]
  omega

/-- Whenever an outcome is shown, its pane counts at least one request. -/
theorem one_le_inFlight (h : Tally api delay x) {now : Instant}
    {before after : List Completion} {c : Completion} {d : Session.Drained}
    (hinbox : x.session.inbox = before ++ c :: after)
    (hbefore : Session.applyAll { x.session with inbox := [] } now before = .ok d) :
    1 ≤ (d.session.pane c.operation).inFlight := by
  have hcount : x.session.undrainedOf c.operation =
      (c :: after).countP (fun e ↦ e.operation = c.operation) +
        before.countP fun e ↦ e.operation = c.operation := by
    rw [Session.undrainedOf, hinbox, List.countP_append]
    omega
  have hleft := Session.inFlight_applyAll hbefore (k := c.operation)
    (n := x.session.unansweredOf c.operation +
      (c :: after).countP fun e ↦ e.operation = c.operation)
    (by
      have hall := h.inFlight_eq c.operation
      change (x.session.pane c.operation).inFlight = _
      omega)
  rw [hleft, List.countP_cons]
  simp
  omega

/-- Each accepted submission has one request, which was sent or waits to be. -/
theorem map_requestOf (h : Tally api delay x) :
    x.history.accepted.map (fun a ↦ Session.requestOf api a.2) =
      (x.history.requests ++ x.session.waiting.filterMap (Session.requestOf api)).map some := by
  have hsome : ∀ q ∈ x.history.accepted.map (fun a ↦ Session.requestOf api a.2), q.isSome := by
    intro q hq
    obtain ⟨a, ha, rfl⟩ := List.mem_map.1 hq
    obtain ⟨-, call, hcall⟩ := h.checked a ha
    rw [Session.requestOf, hcall]
    rfl
  rw [h.requests_eq, List.filterMap_map, List.map_filterMap_some_eq_filter_map_isSome]
  exact (List.filter_eq_self.2 hsome).symm

/-- No outcome is shown twice. -/
theorem nodup_shown (h : Tally api delay x) : (x.history.shown.map fun a ↦ a.1.id).Nodup := by
  have hall := h.nodup_tickets
  rw [← h.shown_append_unshown] at hall
  simp only [List.map_append, List.map_map, List.append_assoc] at hall
  exact (List.nodup_append.1 hall).1

/-- Only outcomes of accepted submissions are shown, on the panes they came from. -/
theorem mem_accepted_of_mem_answers (h : Tally api delay x) {a : Ticket × Reply}
    (ha : a ∈ x.history.answers) :
    (a.1.submission.operation, a.1) ∈ x.history.accepted :=
  h.mem_accepted_of_mem_tickets (List.mem_append_left _ (List.mem_map_of_mem ha))

theorem mem_answers_of_mem_shown (h : Tally api delay x) {a : Ticket × Reply}
    (ha : a ∈ x.history.shown) : a ∈ x.history.answers :=
  h.shown_prefix.subset ha

/-- The header counts all requests without an outcome shown. -/
theorem requests_view (h : Tally api delay x) :
    (Screen.View.of x.session).requests =
      x.session.unanswered.length + x.session.inbox.length := by
  have hsum : (Screen.View.of x.session).requests = Operation.all.foldr (fun k n ↦
      (x.session.unansweredOf k + x.session.undrainedOf k) + n) 0 :=
    congrArg (fun f : Operation → Nat ↦ Operation.all.foldr (fun k n ↦ f k + n) 0)
      (funext h.inFlight_eq)
  have hunanswered := sum_countP_operation (fun t : Ticket ↦ t.submission.operation)
    x.session.unanswered
  have hinbox := sum_countP_operation Completion.operation x.session.inbox
  simp only [Operation.all, List.foldr_cons, List.foldr_nil] at hsum hunanswered hinbox
  simp only [Session.unansweredOf, Session.undrainedOf] at hsum
  omega

end Tally

/-! ## Conservation -/

/-- What the counters of a session mean, by its history. -/
structure Conserved (api : Api) (delay : Duration) (x : Recorded) : Prop where
  /-- A pane counts its requests without reply and its outcomes in the inbox. -/
  inFlight_eq : ∀ k,
    (x.session.pane k).inFlight = x.session.unansweredOf k + x.session.undrainedOf k
  /-- That is its accepted submissions less its outcomes shown. -/
  acceptedOf_eq : ∀ k,
    x.history.acceptedOf k = (x.session.pane k).inFlight + x.history.shownOf k
  /-- Whenever an outcome is shown, the counter of its pane is not zero. -/
  one_le_inFlight : ∀ (now : Instant) (before after : List Completion) (c : Completion)
    (d : Session.Drained), x.session.inbox = before ++ c :: after →
    Session.applyAll { x.session with inbox := [] } now before = .ok d →
    1 ≤ (d.session.pane c.operation).inFlight
  /-- The ticket of each accepted submission is answered, outstanding or waiting to be sent. -/
  tickets_perm : (x.history.answers.map Prod.fst ++ x.session.unanswered).Perm
    (x.history.accepted.map Prod.snd)
  /-- Each accepted submission has exactly one request, which was sent or waits to be. -/
  map_requestOf : x.history.accepted.map (fun a ↦ Session.requestOf api a.2) =
    (x.history.requests ++ x.session.waiting.filterMap (Session.requestOf api)).map some
  /-- The tickets are told apart by their numbers. -/
  nodup_accepted : (x.history.accepted.map fun a ↦ a.2.id).Nodup
  /-- Each accepted submission has at most one outcome shown. -/
  nodup_shown : (x.history.shown.map fun a ↦ a.1.id).Nodup
  /-- An outcome that was shown is that of an accepted submission, and of the pane it came from. -/
  mem_accepted : ∀ a ∈ x.history.shown,
    ((Session.completion a.1 a.2).operation, a.1) ∈ x.history.accepted
  /-- The inbox holds the outcomes of the replies that are still to be shown, in the order in which
  they came. -/
  inbox_eq : x.session.inbox = x.history.unshown.map fun a ↦ Session.completion a.1 a.2
  /-- Emptying the inbox shows all of them in that order, and tells how many there were. -/
  drain_eq : ∀ (now : Instant) (d : Session.Drained), x.session.drain now = .ok d →
    x.session.inbox.foldlM (fun s c ↦ (s.applyCompletion c now).map fun r ↦ r.1)
      { x.session with inbox := [] } = .ok d.session ∧
    d.session.inbox = [] ∧ d.applied = x.session.inbox.length
  /-- The inbox can be emptied while the clock has room for the deadlines. -/
  drain_isOk : ∀ now t, Instant.after now delay = .ok t → ∃ d, x.session.drain now = .ok d
  /-- The header shows the number of requests without an outcome shown. -/
  requests_view : (Screen.View.of x.session).requests =
    x.session.unanswered.length + x.session.inbox.length
  /-- That is the number of accepted submissions less that of outcomes shown. -/
  length_accepted : x.history.accepted.length =
    (Screen.View.of x.session).requests + x.history.shown.length
  /-- It stands on the screen, in the third row, as far as there are columns for it. -/
  symbol_draw : ∀ (timeOfDay : Instant → String) (w h k : Nat), x.session.mode = .normal →
    5 ≤ h → k + 2 < w →
    ((Screen.draw timeOfDay w h x.session).cell? (k + 1) 2).map Screen.Cell.symbol =
      some [(Screen.requestsText
        (x.session.unanswered.length + x.session.inbox.length)).toList.getD k ' ']

/-- **Requests are conserved in every run.** -/
theorem conserved_of_run {api : Api} {delay : Duration} {events : List Event} {x : Recorded}
    (h : (Recorded.start api delay).run events = .ok x) : Conserved api delay x := by
  have htally := Tally.of_run h
  refine
    { inFlight_eq := htally.inFlight_eq
      acceptedOf_eq := fun k ↦ ?_
      one_le_inFlight := fun now before after c d ↦ htally.one_le_inFlight
      tickets_perm := htally.tickets_perm
      map_requestOf := htally.map_requestOf
      nodup_accepted := htally.ids_eq ▸ List.nodup_range
      nodup_shown := htally.nodup_shown
      mem_accepted := fun a ha ↦
        htally.mem_accepted_of_mem_answers (htally.mem_answers_of_mem_shown ha)
      inbox_eq := htally.inbox_eq
      drain_eq := fun now d hd ↦ ?_
      drain_isOk := fun now t ht ↦ ?_
      requests_view := htally.requests_view
      length_accepted := ?_
      symbol_draw := fun timeOfDay w h k hmode hrows hk ↦ ?_ }
  · rw [htally.acceptedOf_eq, htally.inFlight_eq]
  · exact ⟨Session.foldlM_applyAll hd, (Session.sameQueues_applyAll hd).inbox_eq,
      Session.applied_applyAll hd⟩
  · exact Session.exists_applyAll_eq_ok ht _ htally.delay_eq
  · have hperm := htally.tickets_perm.length_eq
    have hanswers := congrArg List.length htally.shown_append_unshown
    have hinbox := congrArg List.length htally.inbox_eq
    rw [htally.requests_view]
    simp only [List.length_append, List.length_map] at hperm hanswers hinbox
    omega
  · rw [← htally.requests_view]
    exact Screen.symbol_draw_requests timeOfDay hmode hrows hk

/-- Two requests are under way at once, and the later one is answered and shown first. -/
def twoLists : List Event :=
  [.submit .list 0, .submit .list 1, .send, .answer 1 (.error "refused"), .drain 2,
    .answer 0 (.error "refused")]

theorem conserved_of_run_twoLists : ∃ x,
    (Recorded.start ⟨"http://api.test"⟩ (Duration.ofSeconds 5)).run twoLists = .ok x ∧
      Conserved ⟨"http://api.test"⟩ (Duration.ofSeconds 5) x ∧
      (x.session.pane .list).inFlight = 1 ∧ x.session.inbox.length = 1 :=
  ⟨_, rfl, @conserved_of_run _ _ twoLists _ rfl, rfl, rfl⟩

end ClusterConsole
