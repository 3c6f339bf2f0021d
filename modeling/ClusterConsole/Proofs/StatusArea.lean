import ClusterConsole.Proofs.Except
import ClusterConsole.StatusArea

/-!
# What a status area shows

`StatusArea.update` is the message of an area with its details, whether it is visible or not.
Showing a message sets it, and nothing else changes it: time and scrolling concern only whether and
from where it is seen.  Showing fails only if the clock has no room for a deadline.

`StatusArea.After` says the same of any number of messages, which is how a history is read.
-/

set_option autoImplicit false

namespace ClusterConsole

namespace StatusArea

/-- The message of the area, with its details. -/
def update (a : StatusArea) : Update := ⟨a.kind, a.message, a.detail⟩

/-- The area that shows a message, with its deadline if it has one. -/
def showing (a : StatusArea) (u : Update) (now : Instant) (hideAt : Option Instant) : StatusArea :=
  ⟨u.kind, u.message, u.detail, true, some now, 0, hideAt, a.delay⟩

/-- What showing a message does, when it succeeds. -/
theorem eq_showing_of_apply {a b : StatusArea} {u : Update} {now : Instant}
    (h : a.apply u now = .ok b) :
    ∃ hideAt, a.deadline u.kind now = .ok hideAt ∧ b = a.showing u now hideAt := by
  obtain ⟨hideAt, hdeadline, rfl⟩ := Except.exists_of_map_eq_ok h
  exact ⟨hideAt, hdeadline, rfl⟩

theorem update_of_apply {a b : StatusArea} {u : Update} {now : Instant}
    (h : a.apply u now = .ok b) : b.update = u := by
  obtain ⟨hideAt, -, rfl⟩ := eq_showing_of_apply h
  rfl

theorem shownAt_of_apply {a b : StatusArea} {u : Update} {now : Instant}
    (h : a.apply u now = .ok b) : b.shownAt = some now := by
  obtain ⟨hideAt, -, rfl⟩ := eq_showing_of_apply h
  rfl

theorem delay_of_apply {a b : StatusArea} {u : Update} {now : Instant}
    (h : a.apply u now = .ok b) : b.delay = a.delay := by
  obtain ⟨hideAt, -, rfl⟩ := eq_showing_of_apply h
  rfl

/-- Every message can be shown while the clock has room for its deadline. -/
theorem exists_apply_eq_ok {a : StatusArea} {now t : Instant} (h : now.after a.delay = .ok t)
    (u : Update) : ∃ b, a.apply u now = .ok b := by
  have hdeadline : ∃ hideAt, a.deadline u.kind now = .ok hideAt := by
    rw [deadline, h]
    split
    · exact ⟨some t, rfl⟩
    · exact ⟨none, rfl⟩
  obtain ⟨hideAt, hdeadline⟩ := hdeadline
  refine ⟨a.showing u now hideAt, ?_⟩
  rw [apply, hdeadline]
  rfl

/-- A message without deadline can always be shown. -/
theorem exists_apply_pending_eq_ok (a : StatusArea) (o : Operation) (now : Instant) :
    ∃ b, a.apply (.pending o) now = .ok b := ⟨a.showing (.pending o) now none, rfl⟩

/-! ## Time and scrolling -/

@[simp] theorem update_tick (a : StatusArea) (now : Instant) : (a.tick now).update = a.update := by
  rw [tick]
  split <;> rfl

@[simp] theorem shownAt_tick (a : StatusArea) (now : Instant) :
    (a.tick now).shownAt = a.shownAt := by
  rw [tick]
  split <;> rfl

@[simp] theorem delay_tick (a : StatusArea) (now : Instant) : (a.tick now).delay = a.delay := by
  rw [tick]
  split <;> rfl

/-! ## Several messages -/

/-- The area `b` is what has become of `a` after the messages `us`: it shows the last of them, and
what `a` shows if there are none. -/
structure After (a : StatusArea) (us : List Update) (b : StatusArea) : Prop where
  update_eq : b.update = us.getLast?.getD a.update
  shownAt_eq_none : b.shownAt = none ↔ a.shownAt = none ∧ us = []

namespace After

variable {a b c : StatusArea} {us vs : List Update}

theorem refl (a : StatusArea) : a.After [] a := ⟨rfl, (and_iff_left rfl).symm⟩

theorem of_apply {u : Update} {now : Instant} (h : a.apply u now = .ok b) : a.After [u] b where
  update_eq := update_of_apply h
  shownAt_eq_none := by simp [shownAt_of_apply h]

theorem tick (a : StatusArea) (now : Instant) : a.After [] (a.tick now) where
  update_eq := a.update_tick now
  shownAt_eq_none := by simp

/-- Messages that come later come last. -/
theorem append (h : a.After us b) (h' : b.After vs c) : a.After (us ++ vs) c where
  update_eq := by
    rw [h'.update_eq, h.update_eq, List.getLast?_append]
    cases vs.getLast? <;> rfl
  shownAt_eq_none := by
    rw [h'.shownAt_eq_none, h.shownAt_eq_none, List.append_eq_nil_iff, and_assoc]

end After
end StatusArea
end ClusterConsole
