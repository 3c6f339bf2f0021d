import ClusterConsole.Proofs.Form
import ClusterConsole.Proofs.Session.Inbox

/-!
# Where the requests of a session are

An accepted submission gets a ticket, and from then on its ticket is in exactly one place: it waits
to be sent, it is outstanding, or its reply has come.  The replies that are not shown yet lie in the
inbox, in the order in which they came.  `Tally` says so for a session and its history, and that
every pane counts its tickets until their outcomes are shown.  It is an invariant of every run
(`Tally.of_run`), by one lemma for each thing an event can do.

The history has no counters and the session no history, so `Tally` is what ties the two together.
-/

set_option autoImplicit false

namespace ClusterConsole

open Http (Request Reply)

/-! ## What is noted -/

namespace History

@[simp] theorem accepted_append (h g : History) :
    History.accepted (h ++ g) = h.accepted ++ g.accepted := List.filterMap_append ..

@[simp] theorem requests_append (h g : History) :
    History.requests (h ++ g) = h.requests ++ g.requests := List.filterMap_append ..

@[simp] theorem answers_append (h g : History) :
    History.answers (h ++ g) = h.answers ++ g.answers := List.filterMap_append ..

@[simp] theorem shown_append (h g : History) :
    History.shown (h ++ g) = h.shown ++ g.shown := List.filterMap_append ..

section

variable (qs : List Request)

@[simp] theorem accepted_sent : accepted (qs.map .sent) = [] := by simp [accepted]

@[simp] theorem requests_sent : requests (qs.map .sent) = qs := by
  induction qs with
  | nil => rfl
  | cons q rest ih => exact congrArg (q :: ·) ih

@[simp] theorem answers_sent : answers (qs.map .sent) = [] := by simp [answers]
@[simp] theorem shown_sent : shown (qs.map .sent) = [] := by simp [shown]

end

section

variable (as : List (Ticket × Reply))

@[simp] theorem accepted_shown : accepted (as.map fun a ↦ .shown a.1 a.2) = [] := by
  simp [accepted]

@[simp] theorem requests_shown : requests (as.map fun a ↦ .shown a.1 a.2) = [] := by
  simp [requests]

@[simp] theorem answers_shown : answers (as.map fun a ↦ .shown a.1 a.2) = [] := by
  simp [answers]

@[simp] theorem shown_shown : shown (as.map fun a ↦ .shown a.1 a.2) = as := by
  induction as with
  | nil => rfl
  | cons a rest ih => exact congrArg (a :: ·) ih

end

end History

/-! ## Tickets -/

namespace Session

/-- The tickets whose replies have not come: those that were sent, and those that wait to be. -/
def unanswered (s : Session) : List Ticket := s.outstanding ++ s.waiting

/-- The number of requests of an operation whose replies have not come. -/
def unansweredOf (s : Session) (k : Operation) : Nat :=
  s.unanswered.countP fun t ↦ t.submission.operation = k

/-- The number of outcomes of an operation in the inbox. -/
def undrainedOf (s : Session) (k : Operation) : Nat :=
  s.inbox.countP fun c ↦ c.operation = k

theorem SameQueues.unanswered_eq {s s' : Session} (h : s.SameQueues s') :
    s'.unanswered = s.unanswered := by
  rw [unanswered, unanswered, h.outstanding_eq, h.waiting_eq]

end Session

/-- With distinct numbers, dropping a number drops one ticket. -/
theorem perm_cons_filter_id {ts : List Ticket} (hts : (ts.map Ticket.id).Nodup) {t : Ticket}
    (ht : t ∈ ts) : ts.Perm (t :: ts.filter fun u ↦ u.id != t.id) := by
  induction ts with
  | nil => simp at ht
  | cons u rest ih =>
    rw [List.map_cons, List.nodup_cons] at hts
    rcases List.mem_cons.1 ht with rfl | ht
    · have hrest : rest.filter (fun v ↦ v.id != t.id) = rest := by
        refine List.filter_eq_self.2 fun v hv ↦ ?_
        have hne : v.id ≠ t.id := fun h ↦ hts.1 (h ▸ List.mem_map_of_mem hv)
        simpa using hne
      simp [hrest]
    · have hne : u.id ≠ t.id := fun h ↦ hts.1 (h ▸ List.mem_map_of_mem ht)
      rw [List.filter_cons_of_pos (by simpa using hne)]
      exact ((ih hts.2 ht).cons u).trans (.swap t u _)

theorem Form.operation_submission (f : Form) : f.submission.operation = f.operation := by
  rw [submission]
  cases f.operation <;> rfl

namespace Pane.Quiet

variable {p p' : Pane}

theorem inFlight_eq (h : p.Quiet p') : p'.inFlight = p.inFlight := by cases h <;> rfl

theorem operation_eq (h : p.Quiet p') : p'.form.operation = p.form.operation := by
  cases h with
  | edited e => exact e.operation_apply p.form
  | _ => rfl

theorem delay_eq (h : p.Quiet p') : p'.status.delay = p.status.delay := by
  cases h with
  | ticked now => exact p.status.delay_tick now
  | _ => rfl

theorem after (h : p.Quiet p') : p.status.After [] p'.status := by
  cases h with
  | ticked now => exact .tick p.status now
  | _ => exact ⟨rfl, (and_iff_left rfl).symm⟩

end Pane.Quiet

/-! ## The invariant -/

/-- Where the tickets of a session are, as its history tells. -/
structure Tally (api : Api) (delay : Duration) (x : Recorded) : Prop where
  api_eq : x.session.api = api
  /-- Every pane keeps its delay. -/
  delay_eq : ∀ k, (x.session.pane k).status.delay = delay
  /-- Every pane keeps the form of its operation. -/
  operation_eq : ∀ k, (x.session.pane k).form.operation = k
  /-- The tickets are numbered in the order in which they were given. -/
  ids_eq : x.history.accepted.map (fun a ↦ a.2.id) = List.range x.session.nextId
  /-- Tickets are given for submissions of the pane's operation that pass their check. -/
  checked : ∀ a ∈ x.history.accepted,
    a.2.submission.operation = a.1 ∧ ∃ call, a.2.submission.check = .ok call
  /-- A ticket is answered, outstanding or waiting. -/
  tickets_perm : (x.history.answers.map Prod.fst ++ x.session.unanswered).Perm
    (x.history.accepted.map Prod.snd)
  /-- Tickets are sent in the order in which they were given. -/
  requests_eq : x.history.requests ++ x.session.waiting.filterMap (Session.requestOf api) =
    (x.history.accepted.map Prod.snd).filterMap (Session.requestOf api)
  /-- Replies are shown in the order in which they came. -/
  shown_prefix : x.history.shown <+: x.history.answers
  /-- The inbox holds what is still to be shown. -/
  inbox_eq : x.session.inbox = x.history.unshown.map fun a ↦ Session.completion a.1 a.2
  /-- A pane counts its tickets until their outcomes are shown. -/
  inFlight_eq : ∀ k,
    (x.session.pane k).inFlight = x.session.unansweredOf k + x.session.undrainedOf k

namespace Tally

variable {api : Api} {delay : Duration} {x y : Recorded}

/-- All tickets have distinct numbers. -/
theorem nodup_tickets (h : Tally api delay x) :
    ((x.history.answers.map Prod.fst ++ x.session.unanswered).map Ticket.id).Nodup := by
  refine (h.tickets_perm.map Ticket.id).nodup_iff.2 ?_
  rw [List.map_map]
  exact h.ids_eq ▸ List.nodup_range

theorem nodup_unanswered (h : Tally api delay x) :
    (x.session.unanswered.map Ticket.id).Nodup := by
  have hall := h.nodup_tickets
  rw [List.map_append] at hall
  exact (List.nodup_append.1 hall).2.1

/-- A ticket was given for an accepted submission of its operation. -/
theorem mem_accepted_of_mem_tickets (h : Tally api delay x) {t : Ticket}
    (ht : t ∈ x.history.answers.map Prod.fst ++ x.session.unanswered) :
    (t.submission.operation, t) ∈ x.history.accepted := by
  obtain ⟨a, ha, rfl⟩ := List.mem_map.1 (h.tickets_perm.mem_iff.1 ht)
  rw [(h.checked a ha).1]
  exact ha

/-- Every reply was shown or is still to be shown. -/
theorem shown_append_unshown (h : Tally api delay x) :
    x.history.shown ++ x.history.unshown = x.history.answers :=
  List.prefix_iff_eq_append.1 h.shown_prefix

theorem start (api : Api) (delay : Duration) : Tally api delay (.start api delay) where
  api_eq := rfl
  delay_eq k := by cases k <;> rfl
  operation_eq k := by cases k <;> rfl
  ids_eq := rfl
  checked a ha := by simp [Recorded.start, History.accepted] at ha
  tickets_perm := .nil
  requests_eq := rfl
  shown_prefix := List.nil_prefix
  inbox_eq := rfl
  inFlight_eq k := by cases k <;> rfl

/-- Nothing that is quiet moves a ticket. -/
theorem quiet {s : Session} (h : Tally api delay x) (hs : x.session.Quiet s) :
    Tally api delay ⟨s, x.history⟩ where
  api_eq := hs.api_eq.trans h.api_eq
  delay_eq k := (hs.pane_quiet k).delay_eq.trans (h.delay_eq k)
  operation_eq k := (hs.pane_quiet k).operation_eq.trans (h.operation_eq k)
  ids_eq := hs.nextId_eq.symm ▸ h.ids_eq
  checked := h.checked
  tickets_perm := hs.unanswered_eq.symm ▸ h.tickets_perm
  requests_eq := hs.waiting_eq.symm ▸ h.requests_eq
  shown_prefix := h.shown_prefix
  inbox_eq := hs.inbox_eq.trans h.inbox_eq
  inFlight_eq k := by
    rw [(hs.pane_quiet k).inFlight_eq, h.inFlight_eq k, Session.unansweredOf, Session.undrainedOf,
      ← hs.unanswered_eq, ← hs.inbox_eq]
    rfl

/-- An accepted submission gets the next ticket, and its pane counts it. -/
theorem accepted {o : Operation} {call : Call} {now : Instant} {status : StatusArea}
    (h : Tally api delay x) (hcheck : (x.session.submission o).check = .ok call)
    (hstatus : (x.session.pane o).status.apply (.pending o) now = .ok status) :
    Tally api delay
      ⟨x.session.accept o status, x.history ++ [.accepted o (x.session.ticket o)]⟩ := by
  have hoperation : (x.session.submission o).operation = o :=
    (Form.operation_submission _).trans (h.operation_eq o)
  have haccepted : History.accepted (x.history ++ [.accepted o (x.session.ticket o)]) =
      x.history.accepted ++ [(o, x.session.ticket o)] := History.accepted_append ..
  have hunanswered : (x.session.accept o status).unanswered =
      x.session.unanswered ++ [x.session.ticket o] := (List.append_assoc ..).symm
  refine ⟨h.api_eq, fun k ↦ ?_, fun k ↦ ?_, ?_, fun a ha ↦ ?_, ?_, ?_, ?_, ?_, fun k ↦ ?_⟩
  · rw [Session.pane_accept]
    split
    · next hk => exact (StatusArea.delay_of_apply hstatus).trans (h.delay_eq o)
    · exact h.delay_eq k
  · rw [Session.pane_accept]
    split
    · next hk => exact hk ▸ h.operation_eq o
    · exact h.operation_eq k
  · rw [haccepted, List.map_append, h.ids_eq]
    exact List.range_succ.symm
  · rw [haccepted, List.mem_append, List.mem_singleton] at ha
    rcases ha with ha | rfl
    · exact h.checked a ha
    · exact ⟨hoperation, call, hcheck⟩
  · rw [haccepted, hunanswered, History.answers_append, List.map_append]
    simpa [History.answers] using h.tickets_perm.append_right [x.session.ticket o]
  · rw [haccepted, History.requests_append, List.map_append, List.filterMap_append,
      ← h.requests_eq]
    simp [History.requests, Session.accept]
  · simpa [History.shown, History.answers] using h.shown_prefix
  · simpa [History.unshown, History.shown, History.answers] using h.inbox_eq
  · have hcount : (x.session.accept o status).unansweredOf k =
        x.session.unansweredOf k + if o = k then 1 else 0 := by
      rw [Session.unansweredOf, hunanswered, List.countP_append, List.countP_singleton]
      simp [Session.unansweredOf, Session.ticket, hoperation]
    have hinbox : (x.session.accept o status).undrainedOf k = x.session.undrainedOf k := rfl
    rw [Session.pane_accept, hcount, hinbox]
    have hinFlight := h.inFlight_eq k
    by_cases hk : k = o
    · subst hk
      simp only [if_true]
      omega
    · simp only [hk, Ne.symm hk, if_false]
      omega

/-- A rejected submission gets no ticket. -/
theorem rejected {o : Operation} {r : Rejection} {u : Update} {now : Instant}
    {status : StatusArea} (h : Tally api delay x)
    (hstatus : (x.session.pane o).status.apply u now = .ok status) :
    Tally api delay ⟨x.session.reject o status, x.history ++ [.rejected o r]⟩ := by
  have hsame : x.session.SameQueues (x.session.reject o status) := Session.sameQueues_setPane ..
  refine ⟨h.api_eq, fun k ↦ ?_, fun k ↦ ?_, ?_, fun a ha ↦ ?_, ?_, ?_, ?_, ?_, fun k ↦ ?_⟩
  · rw [Session.pane_reject]
    split
    · exact (StatusArea.delay_of_apply hstatus).trans (h.delay_eq o)
    · exact h.delay_eq k
  · rw [Session.pane_reject]
    split
    · next hk => exact hk ▸ h.operation_eq o
    · exact h.operation_eq k
  · simpa [hsame.nextId_eq, History.accepted] using h.ids_eq
  · exact h.checked a (by simpa [History.accepted] using ha)
  · simpa [hsame.unanswered_eq, History.accepted, History.answers] using h.tickets_perm
  · simpa [hsame.waiting_eq, History.accepted, History.requests] using h.requests_eq
  · simpa [History.shown, History.answers] using h.shown_prefix
  · simpa [hsame.inbox_eq, History.unshown, History.shown, History.answers] using h.inbox_eq
  · rw [Session.pane_reject]
    split
    · next hk => exact hk ▸ h.inFlight_eq o
    · exact h.inFlight_eq k

/-- What waits is sent; it stays unanswered. -/
theorem sent (h : Tally api delay x) : Tally api delay
    ⟨x.session.dispatch.1, x.history ++ x.session.dispatch.2.1.map .sent⟩ := by
  have hunanswered : x.session.dispatch.1.unanswered = x.session.unanswered := List.append_nil _
  refine ⟨h.api_eq, h.delay_eq, h.operation_eq, ?_, fun a ha ↦ ?_, ?_, ?_, ?_, ?_, fun k ↦ ?_⟩
  · simpa using h.ids_eq
  · exact h.checked a (by simpa using ha)
  · simpa [hunanswered] using h.tickets_perm
  · simpa [Session.dispatch, h.api_eq] using h.requests_eq
  · simpa using h.shown_prefix
  · simpa [History.unshown] using h.inbox_eq
  · rw [Session.unansweredOf, hunanswered]
    exact h.inFlight_eq k

/-- The ticket of an answered request leaves the outstanding ones, and its outcome comes last in
the inbox. -/
theorem answered {t : Ticket} {r : Reply} (h : Tally api delay x)
    (ht : t ∈ x.session.outstanding) :
    Tally api delay ⟨x.session.answer t r, x.history ++ [.answered t r]⟩ := by
  have hnodup : (x.session.outstanding.map Ticket.id).Nodup := by
    have hall := h.nodup_unanswered
    rw [Session.unanswered, List.map_append] at hall
    exact (List.nodup_append.1 hall).1
  have hperm : x.session.unanswered.Perm (t :: (x.session.answer t r).unanswered) :=
    (perm_cons_filter_id hnodup ht).append_right _
  have hanswers : History.answers (x.history ++ [.answered t r]) =
      x.history.answers ++ [(t, r)] := History.answers_append ..
  refine ⟨h.api_eq, h.delay_eq, h.operation_eq, ?_, fun a ha ↦ ?_, ?_, ?_, ?_, ?_, fun k ↦ ?_⟩
  · simpa [History.accepted] using h.ids_eq
  · exact h.checked a (by simpa [History.accepted] using ha)
  · have hmove : (x.history.answers.map Prod.fst ++ t :: (x.session.answer t r).unanswered).Perm
        (x.history.accepted.map Prod.snd) :=
      (hperm.symm.append_left _).trans h.tickets_perm
    simpa [hanswers, History.accepted] using hmove
  · simpa [History.accepted, History.requests] using h.requests_eq
  · rw [hanswers]
    simpa [History.shown] using h.shown_prefix.trans (List.prefix_append _ [(t, r)])
  · have hunshown : History.unshown (x.history ++ [.answered t r]) =
        x.history.unshown ++ [(t, r)] := by
      have hshown : History.shown (x.history ++ [.answered t r]) = x.history.shown :=
        (History.shown_append ..).trans (List.append_nil _)
      rw [History.unshown, hanswers, hshown,
        List.drop_append_of_le_length h.shown_prefix.length_le, History.unshown]
    rw [hunshown, List.map_append, ← h.inbox_eq]
    rfl
  · have hcount : x.session.unansweredOf k = (x.session.answer t r).unansweredOf k +
        if t.submission.operation = k then 1 else 0 := by
      rw [Session.unansweredOf, hperm.countP_eq, List.countP_cons]
      simp [Session.unansweredOf]
    have hinbox : (x.session.answer t r).undrainedOf k = x.session.undrainedOf k +
        if t.submission.operation = k then 1 else 0 := by
      simp [Session.undrainedOf, Session.answer, Session.completion, List.countP_append,
        List.countP_singleton]
    have hinFlight := h.inFlight_eq k
    change (x.session.pane k).inFlight =
      (x.session.answer t r).unansweredOf k + (x.session.answer t r).undrainedOf k
    omega

/-- All outcomes in the inbox are shown, and their panes count down. -/
theorem shown {now : Instant} {d : Session.Drained} (h : Tally api delay x)
    (hdrain : x.session.drain now = .ok d) : Tally api delay
      ⟨d.session, x.history ++ x.history.unshown.map fun a ↦ .shown a.1 a.2⟩ := by
  have hsame := Session.sameQueues_applyAll hdrain
  have hunanswered : d.session.unanswered = x.session.unanswered := hsame.unanswered_eq
  have hempty : d.session.inbox = [] := hsame.inbox_eq
  refine ⟨hsame.api_eq.trans h.api_eq, fun k ↦ ?_, fun k ↦ ?_, ?_, fun a ha ↦ ?_, ?_, ?_, ?_, ?_,
    fun k ↦ ?_⟩
  · exact (Session.delay_applyAll hdrain k).trans (h.delay_eq k)
  · exact (Session.operation_applyAll hdrain k).trans (h.operation_eq k)
  · simpa [hsame.nextId_eq] using h.ids_eq
  · exact h.checked a (by simpa using ha)
  · simpa [hunanswered] using h.tickets_perm
  · simpa [hsame.waiting_eq] using h.requests_eq
  · simp [h.shown_append_unshown]
  · rw [hempty, History.unshown]
    simp [h.shown_append_unshown]
  · rw [Session.unansweredOf, hunanswered, Session.undrainedOf, hempty]
    exact Session.inFlight_applyAll hdrain (h.inFlight_eq k)

/-- **Tickets are never lost or counted twice.** -/
theorem change (h : Tally api delay x) (hxy : Change x y) : Tally api delay y := by
  cases hxy with
  | quiet hs => exact h.quiet hs
  | accepted hcheck hstatus => exact h.accepted hcheck hstatus
  | rejected _ hstatus => exact h.rejected hstatus
  | sent => exact h.sent
  | answered ht => exact h.answered ht
  | shown hdrain => exact h.shown hdrain

/-- The tally is right after every run. -/
theorem of_run {events : List Event} (h : (Recorded.start api delay).run events = .ok x) :
    Tally api delay x :=
  Recorded.run_induction_change (.start api delay) (fun _ _ ↦ change) h

end Tally
end ClusterConsole
