import ClusterConsole.Proofs.Session.Change

/-!
# Emptying the inbox

Outcomes are shown one after the other, so what emptying the inbox does follows from what showing
one outcome does (`Session.reveal`).  `Session.applyAll_induction` carries a property of the session
and the outcomes that are left through to the end, and the facts below are instances of it: the
requests stay as they are, each pane counts down once for each of its outcomes, and it ends up with
the message of the last of them.
-/

set_option autoImplicit false

namespace ClusterConsole
namespace Session

/-- The session after an outcome was shown, when its pane shows the given status. -/
def reveal (s : Session) (c : Completion) (status : StatusArea) : Session :=
  let pane := s.pane c.operation
  s.setPane c.operation
    { form := if c.outcome.resetForm then pane.form.reset else pane.form
      status := status
      inFlight := pane.inFlight - 1 }

theorem eq_reveal_of_applyCompletion {s : Session} {c : Completion} {now : Instant}
    {r : Session × Log} (h : s.applyCompletion c now = .ok r) :
    ∃ status, (s.pane c.operation).status.apply c.outcome.update now = .ok status ∧
      r.1 = s.reveal c status := by
  obtain ⟨status, hstatus, rfl⟩ := Except.exists_of_map_eq_ok h
  exact ⟨status, hstatus, rfl⟩

variable {now : Instant}

/-- What holds of a session and the outcomes that are left, and is kept when one is shown, holds
when all have been shown. -/
theorem applyAll_induction {P : Session → List Completion → Prop}
    (hreveal : ∀ s c rest status, P s (c :: rest) →
      (s.pane c.operation).status.apply c.outcome.update now = .ok status →
      P (s.reveal c status) rest) :
    ∀ {cs : List Completion} {s : Session} {d : Drained}, P s cs → applyAll s now cs = .ok d →
      P d.session [] := by
  intro cs
  induction cs with
  | nil =>
    rintro s d hP ⟨⟩
    exact hP
  | cons c rest ih =>
    intro s d hP h
    rw [applyAll] at h
    split at h
    · exact nomatch h
    · next t log ht =>
      obtain ⟨status, hstatus, htr⟩ := eq_reveal_of_applyCompletion ht
      obtain ⟨e, he, rfl⟩ := Except.exists_of_map_eq_ok h
      have hnext : P t rest := by
        rw [show t = s.reveal c status from htr]
        exact hreveal s c rest status hP hstatus
      exact ih (d := e) hnext he

/-- The outcomes are counted. -/
theorem applied_applyAll {cs : List Completion} :
    ∀ {s : Session} {d : Drained}, applyAll s now cs = .ok d → d.applied = cs.length := by
  induction cs with
  | nil =>
    rintro s d ⟨⟩
    rfl
  | cons c rest ih =>
    intro s d h
    rw [applyAll] at h
    split at h
    · exact nomatch h
    · obtain ⟨e, he, rfl⟩ := Except.exists_of_map_eq_ok h
      rw [List.length_cons, ← ih he]

/-- The outcomes are shown in their order. -/
theorem foldlM_applyAll {cs : List Completion} :
    ∀ {s : Session} {d : Drained}, applyAll s now cs = .ok d →
      cs.foldlM (fun s c ↦ (s.applyCompletion c now).map fun r ↦ r.1) s = .ok d.session := by
  induction cs with
  | nil =>
    rintro s d ⟨⟩
    rfl
  | cons c rest ih =>
    intro s d h
    rw [applyAll] at h
    split at h
    · exact nomatch h
    · next t log ht =>
      obtain ⟨e, he, rfl⟩ := Except.exists_of_map_eq_ok h
      have hrest := ih he
      rw [List.foldlM_cons, ht]
      exact hrest

/-! ## What showing outcomes leaves alone -/

theorem sameQueues_applyAll {cs : List Completion} {s : Session} {d : Drained}
    (h : applyAll s now cs = .ok d) : s.SameQueues d.session :=
  applyAll_induction (P := fun t _ ↦ s.SameQueues t)
    (fun _ _ _ _ ht _ ↦ ht.trans (sameQueues_setPane ..)) ⟨rfl, rfl, rfl, rfl, rfl⟩ h

/-- The forms may be emptied, but stay the forms of their operations. -/
theorem operation_reveal (s : Session) (c : Completion) (status : StatusArea) (k : Operation) :
    ((s.reveal c status).pane k).form.operation = (s.pane k).form.operation := by
  rw [reveal, pane_setPane]
  split
  · next hk =>
    subst hk
    split <;> rfl
  · rfl

theorem operation_applyAll {cs : List Completion} {s : Session} {d : Drained}
    (h : applyAll s now cs = .ok d) (k : Operation) :
    (d.session.pane k).form.operation = (s.pane k).form.operation :=
  applyAll_induction (P := fun t _ ↦ (t.pane k).form.operation = (s.pane k).form.operation)
    (fun t c _ status ht _ ↦ (operation_reveal t c status k).trans ht) rfl h

theorem delay_reveal {s : Session} {c : Completion} {status : StatusArea}
    (h : (s.pane c.operation).status.apply c.outcome.update now = .ok status) (k : Operation) :
    ((s.reveal c status).pane k).status.delay = (s.pane k).status.delay := by
  rw [reveal, pane_setPane]
  split
  · next hk =>
    subst hk
    exact StatusArea.delay_of_apply h
  · rfl

theorem delay_applyAll {cs : List Completion} {s : Session} {d : Drained}
    (h : applyAll s now cs = .ok d) (k : Operation) :
    (d.session.pane k).status.delay = (s.pane k).status.delay :=
  applyAll_induction (P := fun t _ ↦ (t.pane k).status.delay = (s.pane k).status.delay)
    (fun _ _ _ _ ht hstatus ↦ (delay_reveal hstatus k).trans ht) rfl h

/-- All outcomes can be shown while the clock has room for their deadlines. -/
theorem exists_applyAll_eq_ok {delay : Duration} {t : Instant} (ht : now.after delay = .ok t) :
    ∀ (cs : List Completion) {s : Session}, (∀ k, (s.pane k).status.delay = delay) →
      ∃ d, applyAll s now cs = .ok d
  | [], s, _ => ⟨⟨s, 0, []⟩, rfl⟩
  | c :: rest, s, hs => by
    obtain ⟨status, hstatus⟩ := StatusArea.exists_apply_eq_ok
      (a := (s.pane c.operation).status) ((hs c.operation).symm ▸ ht) c.outcome.update
    have hreveal : s.applyCompletion c now = .ok (s.reveal c status, [completionEntry c]) := by
      rw [applyCompletion, hstatus]
      rfl
    obtain ⟨d, hd⟩ := exists_applyAll_eq_ok ht rest (s := s.reveal c status)
      fun k ↦ (delay_reveal hstatus k).trans (hs k)
    refine ⟨⟨d.session, d.applied + 1, [completionEntry c] ++ d.log⟩, ?_⟩
    rw [applyAll, hreveal]
    exact congrArg (Except.map _) hd

/-! ## Counting down -/

theorem inFlight_reveal (s : Session) (c : Completion) (status : StatusArea) (k : Operation) :
    ((s.reveal c status).pane k).inFlight =
      if k = c.operation then (s.pane k).inFlight - 1 else (s.pane k).inFlight := by
  rw [reveal, pane_setPane]
  split
  · next hk => rw [hk]
  · rfl

/-- A pane that counts enough requests counts down once for each of its outcomes. -/
theorem inFlight_applyAll {cs : List Completion} {s : Session} {d : Drained} {k : Operation}
    {n : Nat} (h : applyAll s now cs = .ok d)
    (hn : (s.pane k).inFlight = n + cs.countP fun c ↦ c.operation = k) :
    (d.session.pane k).inFlight = n := by
  refine applyAll_induction
    (P := fun t rest ↦ (t.pane k).inFlight = n + rest.countP fun c ↦ c.operation = k)
    (fun t c rest status ht _ ↦ ?_) hn h
  rw [List.countP_cons] at ht
  rw [inFlight_reveal, ht]
  by_cases hk : k = c.operation
  · simp [hk]
  · simp [hk, Ne.symm hk]

/-! ## The last message -/

/-- The message of an outcome, if it is one of the given operation. -/
def messageFor (k : Operation) (c : Completion) : Option Update :=
  if c.operation = k then some c.outcome.update else none

theorem after_reveal {s : Session} {c : Completion} {status : StatusArea}
    (h : (s.pane c.operation).status.apply c.outcome.update now = .ok status) (k : Operation) :
    (s.pane k).status.After (messageFor k c).toList ((s.reveal c status).pane k).status := by
  refine after_of_apply h (fun k ↦ ?_) k
  rw [reveal, pane_setPane]
  split <;> rfl

/-- When all outcomes have been shown, the panes have had their messages. -/
theorem after_applyAll {cs : List Completion} {s : Session} {d : Drained}
    (h : applyAll s now cs = .ok d) (k : Operation) :
    (s.pane k).status.After (cs.filterMap (messageFor k)) (d.session.pane k).status := by
  have hall : ∃ us, us ++ [] = cs.filterMap (messageFor k) ∧
      (s.pane k).status.After us (d.session.pane k).status := by
    refine applyAll_induction
      (P := fun t rest ↦ ∃ us, us ++ rest.filterMap (messageFor k) = cs.filterMap (messageFor k) ∧
        (s.pane k).status.After us (t.pane k).status)
      (fun t c rest status ht hstatus ↦ ?_) ⟨[], rfl, .refl _⟩ h
    obtain ⟨us, hus, hafter⟩ := ht
    refine ⟨us ++ (messageFor k c).toList, ?_, hafter.append (after_reveal hstatus k)⟩
    rw [← hus, List.append_assoc, List.filterMap_cons]
    cases messageFor k c <;> rfl
  obtain ⟨us, hus, hafter⟩ := hall
  rw [← hus, List.append_nil]
  exact hafter

end Session
end ClusterConsole
