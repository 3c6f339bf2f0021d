import ClusterConsole.Proofs.Execution
import ClusterConsole.Proofs.Session.Conservation
import Mathlib.Data.List.Basic

/-!
# The last arrival decides what a pane shows

A pane does not keep what came before, and replies may come in any order.  So what it shows can only
be told from the whole history: it is the last message for the pane, where a submission brings one
(`Update.pending`, or what is wrong with it) and every outcome brings one when it is shown.

`Note.message?` reads the message off an entry of the history.  The message of an outcome is that of
running the submission of the ticket, which is the form as it was when it was submitted, against the
reply that came.  `Tally.notes_of_change` says what a single event does to a pane, and
`Tally.after_messages` follows by induction on the run.
-/

set_option autoImplicit false

namespace ClusterConsole

open Http (Request Reply)

/-! ## The messages of a history -/

/-- The message that an entry of a history brings to the pane of an operation, if it brings one. -/
def Note.message? (api : Api) (k : Operation) : Note → Option Update
  | .accepted o _ => if o = k then some (.pending o) else none
  | .rejected o r => if o = k then some (Outcome.ofFailure r.failure).update else none
  | .shown t r =>
    if t.submission.operation = k then
      some (api.execute t.submission (.always r)).outcome.update
    else none
  | .sent _ => none
  | .answered _ _ => none

/-- The messages for the pane of an operation, in the order in which they came. -/
def History.messages (h : History) (api : Api) (k : Operation) : List Update :=
  h.filterMap (Note.message? api k)

/-- What a status area has when no message has come. -/
def Update.blank : Update := ⟨.info, "", none⟩

namespace History

variable (api : Api) (k : Operation)

@[simp] theorem messages_append (h g : History) :
    History.messages (h ++ g) api k = h.messages api k ++ g.messages api k :=
  List.filterMap_append ..

theorem messages_singleton (n : Note) : History.messages [n] api k = (n.message? api k).toList := by
  rw [messages, List.filterMap_cons]
  cases n.message? api k <;> rfl

@[simp] theorem messages_sent (qs : List Request) :
    History.messages (qs.map .sent) api k = [] := by
  simp [messages, Note.message?]

end History

/-! ## What one event does to a pane -/

namespace Tally

variable {api : Api} {delay : Duration} {x y : Recorded}

/-- Showing the outcome of an answered ticket shows what running its submission comes to. -/
theorem messageFor_completion (h : Tally api delay x) {a : Ticket × Reply}
    (ha : a ∈ x.history.answers) (k : Operation) :
    Session.messageFor k (Session.completion a.1 a.2) = Note.message? api k (.shown a.1 a.2) := by
  obtain ⟨-, call, hcall⟩ := h.checked _ (h.mem_accepted_of_mem_answers ha)
  rw [Note.message?, Api.execute_of_check_ok hcall]
  rfl

/-- The outcomes in the inbox bring the messages of the replies that are still to be shown. -/
theorem filterMap_inbox (h : Tally api delay x) (k : Operation) :
    x.session.inbox.filterMap (Session.messageFor k) =
      History.messages (x.history.unshown.map fun a ↦ .shown a.1 a.2) api k := by
  rw [h.inbox_eq, History.messages, List.filterMap_map, List.filterMap_map]
  refine List.filterMap_congr fun a ha ↦ ?_
  exact h.messageFor_completion (List.mem_of_mem_drop ha) k

/-- What becomes of a pane with an event are the messages that are noted for it. -/
theorem notes_of_change (h : Tally api delay x) (hxy : Change x y) (k : Operation) :
    ∃ notes : History, y.history = x.history ++ notes ∧
      (x.session.pane k).status.After (notes.messages api k) (y.session.pane k).status := by
  cases hxy with
  | quiet hs => exact ⟨[], (List.append_nil _).symm, (hs.pane_quiet k).after⟩
  | @accepted o call now status hcheck hstatus =>
    refine ⟨_, rfl, ?_⟩
    rw [History.messages_singleton]
    refine Session.after_of_apply hstatus (fun k ↦ ?_) k
    rw [Session.pane_accept]
    split <;> rfl
  | @rejected o r now status hcheck hstatus =>
    refine ⟨_, rfl, ?_⟩
    rw [History.messages_singleton]
    refine Session.after_of_apply hstatus (fun k ↦ ?_) k
    rw [Session.pane_reject]
    split <;> rfl
  | sent =>
    refine ⟨_, rfl, ?_⟩
    rw [History.messages_sent]
    exact .refl _
  | answered ht => exact ⟨_, rfl, .refl _⟩
  | shown hdrain =>
    have hafter := Session.after_applyAll hdrain k
    rw [h.filterMap_inbox] at hafter
    exact ⟨_, rfl, hafter⟩

/-- **The last message of a pane is the one it shows.** -/
theorem after_messages {events : List Event}
    (h : (Recorded.start api delay).run events = .ok x) (k : Operation) :
    (StatusArea.hidden delay).After (x.history.messages api k) (x.session.pane k).status := by
  have hboth : Tally api delay x ∧ (StatusArea.hidden delay).After (x.history.messages api k)
      (x.session.pane k).status := by
    refine Recorded.run_induction_change (P := fun x ↦ Tally api delay x ∧
      (StatusArea.hidden delay).After (x.history.messages api k) (x.session.pane k).status) ?_ ?_ h
    · refine ⟨.start api delay, ?_⟩
      cases k <;> exact .refl _
    · rintro x y ⟨htally, hafter⟩ hxy
      obtain ⟨notes, hnotes, hafter'⟩ := htally.notes_of_change hxy k
      refine ⟨htally.change hxy, ?_⟩
      rw [hnotes, History.messages_append]
      exact hafter.append hafter'
  exact hboth.2

end Tally

/-! ## Where the entries of a history come from -/

/-- In the run of some events, an entry `n` is made for an event that happens to the session `s`. -/
def Recorded.NotedAt (x : Recorded) (events : List Event) (n : Note) (s : Session) (e : Event) :
    Prop :=
  ∃ before after h, events = before ++ e :: after ∧ x.run before = .ok ⟨s, h⟩ ∧ n ∈ s.notes h e

/-- Every entry is made for some event. -/
theorem Recorded.exists_notedAt {events : List Event} {n : Note} :
    ∀ {x y : Recorded}, x.run events = .ok y → n ∈ y.history → n ∉ x.history →
      ∃ s e, x.NotedAt events n s e := by
  induction events with
  | nil =>
    rintro x y ⟨⟩ hn hnot
    exact absurd hn hnot
  | cons e rest ih =>
    intro x y h hn hnot
    rw [run] at h
    split at h
    · cases h
    · next z hz =>
      by_cases hmem : n ∈ z.history
      · obtain ⟨s, -, rfl⟩ := Except.exists_of_map_eq_ok hz
        have hnew : n ∈ x.session.notes x.history e := (List.mem_append.1 hmem).resolve_left hnot
        exact ⟨x.session, e, [], rest, x.history, rfl, rfl, hnew⟩
      · obtain ⟨s, e', before, after, h', rfl, hrun, hnew⟩ := ih h hn hmem
        refine ⟨s, e', e :: before, after, h', rfl, ?_, hnew⟩
        rw [run, hz]
        exact hrun

/-- What is noted about a submission is what checking the form finds at that moment. -/
theorem Session.mem_submitNotes {s : Session} {o : Operation} {n : Note}
    (hn : n ∈ s.submitNotes o) :
    (∃ call, n = .accepted o (s.ticket o) ∧ (s.submission o).check = .ok call) ∨
      ∃ r, n = .rejected o r ∧ (s.submission o).check = .error r := by
  rw [submitNotes] at hn
  split at hn
  · next call hcall => exact .inl ⟨call, List.mem_singleton.1 hn, hcall⟩
  · next r hr => exact .inr ⟨r, List.mem_singleton.1 hn, hr⟩

/-- An entry is made for a submission, for a request that is sent, for a reply or for an outcome
that is shown. -/
theorem Session.mem_notes {s : Session} {h : History} {e : Event} {n : Note}
    (hn : n ∈ s.notes h e) :
    (∃ o, n ∈ s.submitNotes o) ∨ (∃ q, n = .sent q) ∨
      (∃ t r, n = .answered t r ∧ e = .answer t.id r) ∨ ∃ t r, n = .shown t r := by
  cases e with
  | key k m now =>
    rw [notes] at hn
    split at hn
    · exact .inl ⟨_, hn⟩
    · exact absurd hn List.not_mem_nil
  | submit o now => exact .inl ⟨o, hn⟩
  | send =>
    obtain ⟨q, -, rfl⟩ := List.mem_map.1 hn
    exact .inr (.inl ⟨q, rfl⟩)
  | answer id r =>
    rw [notes] at hn
    split at hn
    · next t ht =>
      have hid : t.id = id := by simpa using List.find?_some ht
      exact .inr (.inr (.inl ⟨t, r, List.mem_singleton.1 hn, hid ▸ rfl⟩))
    · exact absurd hn List.not_mem_nil
  | drain now =>
    obtain ⟨a, -, rfl⟩ := List.mem_map.1 hn
    exact .inr (.inr (.inr ⟨a.1, a.2, rfl⟩))
  | edit | scrollDown | scrollUp | choose | tick => exact absurd hn List.not_mem_nil

namespace Recorded.NotedAt

variable {x : Recorded} {events : List Event} {s : Session} {e : Event} {o : Operation}

/-- An accepted submission is that of the form at that moment, and passes its check. -/
theorem accepted {t : Ticket} (h : x.NotedAt events (.accepted o t) s e) :
    t.submission = (s.pane o).form.submission ∧ ∃ call, t.submission.check = .ok call := by
  obtain ⟨before, after, g, -, -, hn⟩ := h
  obtain ⟨k, hk⟩ | ⟨q, ⟨⟩⟩ | ⟨u, r, ⟨⟩, -⟩ | ⟨u, r, ⟨⟩⟩ := Session.mem_notes hn
  obtain ⟨call, heq, hcall⟩ | ⟨r, ⟨⟩, -⟩ := Session.mem_submitNotes hk
  cases heq
  exact ⟨rfl, call, hcall⟩

/-- A rejected submission is rejected for what is wrong with the form at that moment. -/
theorem rejected {r : Rejection} (h : x.NotedAt events (.rejected o r) s e) :
    (s.pane o).form.submission.check = .error r := by
  obtain ⟨before, after, g, -, -, hn⟩ := h
  obtain ⟨k, hk⟩ | ⟨q, ⟨⟩⟩ | ⟨u, r, ⟨⟩, -⟩ | ⟨u, r, ⟨⟩⟩ := Session.mem_notes hn
  obtain ⟨call, ⟨⟩, -⟩ | ⟨r', heq, hr⟩ := Session.mem_submitNotes hk
  cases heq
  exact hr

/-- A reply that is noted is one that came. -/
theorem answered {t : Ticket} {r : Reply} (h : x.NotedAt events (.answered t r) s e) :
    Event.answer t.id r ∈ events := by
  obtain ⟨before, after, g, rfl, -, hn⟩ := h
  obtain ⟨k, hk⟩ | ⟨q, ⟨⟩⟩ | ⟨u, r', heq, rfl⟩ | ⟨u, r, ⟨⟩⟩ := Session.mem_notes hn
  · obtain ⟨call, ⟨⟩, -⟩ | ⟨r', ⟨⟩, -⟩ := Session.mem_submitNotes hk
  · cases heq
    exact List.mem_append_right _ (List.mem_cons_self ..)

end Recorded.NotedAt

namespace History

variable {h : History} {t : Ticket} {r : Reply}

/-- What is picked out of a history are the entries it is picked out of. -/
theorem mem_filterMap {α : Type} {pick : Note → Option α} (note : α → Note)
    (hpick : ∀ n a, pick n = some a ↔ n = note a) {a : α} :
    a ∈ h.filterMap pick ↔ note a ∈ h := by
  rw [List.mem_filterMap]
  constructor
  · rintro ⟨n, hn, heq⟩
    exact (hpick n a).1 heq ▸ hn
  · exact fun hn ↦ ⟨note a, hn, (hpick _ a).2 rfl⟩

theorem mem_accepted {o : Operation} : (o, t) ∈ h.accepted ↔ Note.accepted o t ∈ h := by
  refine mem_filterMap (fun a : Operation × Ticket ↦ .accepted a.1 a.2) fun n a ↦ ?_
  cases n <;> simp [Prod.ext_iff]

theorem mem_answers : (t, r) ∈ h.answers ↔ Note.answered t r ∈ h := by
  refine mem_filterMap (fun a : Ticket × Reply ↦ .answered a.1 a.2) fun n a ↦ ?_
  cases n <;> simp [Prod.ext_iff]

theorem mem_shown : (t, r) ∈ h.shown ↔ Note.shown t r ∈ h := by
  refine mem_filterMap (fun a : Ticket × Reply ↦ .shown a.1 a.2) fun n a ↦ ?_
  cases n <;> simp [Prod.ext_iff]

end History

/-! ## The last arrival -/

/-- What the panes of a session show, by the history of the run that led to it. -/
structure LastArrival (api : Api) (delay : Duration) (events : List Event) (x : Recorded) :
    Prop where
  /-- A pane shows the last of its messages. -/
  update_eq : ∀ k,
    (x.session.pane k).status.update = ((x.history.messages api k).getLast?).getD .blank
  /-- If it has none, then its area was never set. -/
  shownAt_eq_none : ∀ k,
    (x.session.pane k).status.shownAt = none ↔ x.history.messages api k = []
  /-- The submission of a ticket is the form as it was when it was submitted. -/
  accepted_snapshot : ∀ o t, Note.accepted o t ∈ x.history →
    ∃ s e, (Recorded.start api delay).NotedAt events (.accepted o t) s e ∧
      t.submission = (s.pane o).form.submission ∧ ∃ call, t.submission.check = .ok call
  /-- A submission is rejected for what was wrong with the form when it was submitted. -/
  rejected_snapshot : ∀ o r, Note.rejected o r ∈ x.history →
    ∃ s e, (Recorded.start api delay).NotedAt events (.rejected o r) s e ∧
      (s.pane o).form.submission.check = .error r
  /-- The tickets are told apart by their numbers. -/
  nodup_accepted : (x.history.accepted.map fun a ↦ a.2.id).Nodup
  /-- The requests are those of the tickets. -/
  map_requestOf : x.history.accepted.map (fun a ↦ Session.requestOf api a.2) =
    (x.history.requests ++ x.session.waiting.filterMap (Session.requestOf api)).map some
  /-- An outcome is shown for the ticket of a submission, and for the reply that came to it. -/
  shown_reply : ∀ t r, Note.shown t r ∈ x.history →
    Note.accepted t.submission.operation t ∈ x.history ∧ Note.answered t r ∈ x.history ∧
      Event.answer t.id r ∈ events
  /-- Of several replies it is the last to come that is shown, whichever was asked for first. -/
  update_drain : ∀ now d before t r after, x.session.drain now = .ok d →
    x.history.unshown = before ++ (t, r) :: after →
    (∀ a ∈ after, a.1.submission.operation ≠ t.submission.operation) →
    (d.session.pane t.submission.operation).status.update =
      (api.execute t.submission (.always r)).outcome.update
  /-- An event that brings no message to a pane leaves the message it shows. -/
  update_step : ∀ e y k, x.step e = .ok y →
    (∀ n ∈ x.session.notes x.history e, n.message? api k = none) →
    (y.session.pane k).status.update = (x.session.pane k).status.update
  /-- In particular, time does. -/
  update_tick : ∀ now k,
    ((x.session.tick now).pane k).status.update = (x.session.pane k).status.update

/-- **The last arrival wins, with the inputs as they were submitted, in every run.** -/
theorem last_arrival_of_run {api : Api} {delay : Duration} {events : List Event} {x : Recorded}
    (h : (Recorded.start api delay).run events = .ok x) : LastArrival api delay events x := by
  have htally := Tally.of_run h
  have hnoted : ∀ n ∈ x.history, ∃ s e, (Recorded.start api delay).NotedAt events n s e :=
    fun n hn ↦ Recorded.exists_notedAt h hn List.not_mem_nil
  have hstep : ∀ e y k, x.step e = .ok y →
      (∀ n ∈ x.session.notes x.history e, n.message? api k = none) →
      (y.session.pane k).status.update = (x.session.pane k).status.update := by
    intro e y k hy hnone
    obtain ⟨notes, hnotes, hafter⟩ := htally.notes_of_change (Recorded.change_of_step hy) k
    obtain ⟨s, -, rfl⟩ := Except.exists_of_map_eq_ok hy
    rw [hafter.update_eq, ← List.append_cancel_left hnotes, History.messages,
      List.filterMap_eq_nil_iff.2 hnone]
    rfl
  refine
    { update_eq := fun k ↦ (Tally.after_messages h k).update_eq
      shownAt_eq_none := fun k ↦
        (Tally.after_messages h k).shownAt_eq_none.trans (and_iff_right rfl)
      accepted_snapshot := fun o t hn ↦ ?_
      rejected_snapshot := fun o r hn ↦ ?_
      nodup_accepted := htally.ids_eq ▸ List.nodup_range
      map_requestOf := htally.map_requestOf
      shown_reply := fun t r hn ↦ ?_
      update_drain := fun now d before t r after hd hunshown hafter ↦ ?_
      update_step := hstep
      update_tick := fun now k ↦ hstep (.tick now) _ k rfl nofun }
  · obtain ⟨s, e, hs⟩ := hnoted _ hn
    exact ⟨s, e, hs, hs.accepted⟩
  · obtain ⟨s, e, hs⟩ := hnoted _ hn
    exact ⟨s, e, hs, hs.rejected⟩
  · have hanswers := htally.mem_answers_of_mem_shown (History.mem_shown.2 hn)
    obtain ⟨s, e, hs⟩ := hnoted _ (History.mem_answers.1 hanswers)
    exact ⟨History.mem_accepted.1 (htally.mem_accepted_of_mem_answers hanswers),
      History.mem_answers.1 hanswers, hs.answered⟩
  · have hmessages : (History.messages (x.history.unshown.map fun a ↦ .shown a.1 a.2) api
        t.submission.operation).getLast? =
        some (api.execute t.submission (.always r)).outcome.update := by
      have hrest : after.filterMap (fun a ↦ Note.message? api t.submission.operation
          (.shown a.1 a.2)) = [] :=
        List.filterMap_eq_nil_iff.2 fun a ha ↦ if_neg (hafter a ha)
      rw [hunshown, History.messages, List.filterMap_map, List.filterMap_append]
      simp only [Function.comp_def, List.filterMap_cons, hrest]
      simp [Note.message?]
    have hafter := Session.after_applyAll hd t.submission.operation
    rw [htally.filterMap_inbox] at hafter
    rw [hafter.update_eq, hmessages]
    rfl

/-- A form is submitted, edited and submitted again, and the earlier request is answered last. -/
def overtaken : List Event :=
  [.edit .delete (.set .ns "a"), .submit .delete 0, .send, .edit .delete (.set .ns "b"),
    .submit .delete 1, .send, .answer 1 (.error "refused"), .answer 0 (.error "too late"), .drain 2]

theorem last_arrival_of_run_overtaken : ∃ x,
    (Recorded.start ⟨"http://api.test"⟩ (Duration.ofSeconds 5)).run overtaken = .ok x ∧
      LastArrival ⟨"http://api.test"⟩ (Duration.ofSeconds 5) overtaken x ∧
      x.history.accepted = [(.delete, ⟨0, .delete "a"⟩), (.delete, ⟨1, .delete "b"⟩)] ∧
      (x.session.pane .delete).status.update =
        (Outcome.ofFailure (.unanswered "too late")).update :=
  ⟨_, rfl, last_arrival_of_run rfl, rfl, rfl⟩

end ClusterConsole
