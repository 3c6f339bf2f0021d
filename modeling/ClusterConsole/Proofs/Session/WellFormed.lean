import ClusterConsole.Proofs.Form.WellFormed
import ClusterConsole.Proofs.Session.Forms

/-!
# Every form is fit for use, in every state

The panes are found by the places of their operations, and keys act on the input that has the focus.
If a pane stood in another's place, or the focus on no input, then keys would be lost or would go to
another form, without any sign of it.

`Session.Reachable` are the states that a session can get into: by any event that does not put the
focus on an input given by its number, and by showing the outcome of any request, whether or not
one was sent.  Whatever happens then, forms only change by edits (`Session.edited_of_step`), so they
stay well-formed.  `wellFormed_of_reachable` is the main result.
-/

set_option autoImplicit false

namespace ClusterConsole

/-! ## Panes by their places -/

namespace Panes

/-- The panes as they stand side by side. -/
def inOrder (p : Panes) : List Pane := [p.create, p.delete, p.list, p.details, p.scale]

theorem inOrder_eq_map (p : Panes) : p.inOrder = Operation.all.map p.get := rfl

/-- A pane stands in the place of its operation. -/
theorem getElem?_inOrder (p : Panes) (o : Operation) : p.inOrder[o.index]? = some (p.get o) := by
  cases o <;> rfl

theorem inOrder_set (p : Panes) (o : Operation) (pane : Pane) :
    (p.set o pane).inOrder = p.inOrder.set o.index pane := by
  cases o <;> rfl

end Panes

theorem Operation.getElem?_all (o : Operation) : all[o.index]? = some o := by cases o <;> rfl

theorem Operation.inputs_ne_nil_iff (o : Operation) : o.inputs ≠ [] ↔ o ≠ .list := by
  cases o <;> decide

/-! ## What can happen to the forms -/

namespace Session

/-- The states that a session can get into. -/
inductive Reachable (api : Api) (delay : Duration) : Session → Prop
  | start : Reachable api delay (.start api delay)
  | step {s t : Session} {e : Event} (hs : Reachable api delay s)
      (he : ∀ o n, e ≠ .edit o (.focus n)) (ht : s.step e = .ok t) : Reachable api delay t
  | completed {s : Session} {c : Completion} {now : Instant} {r : Session × Log}
      (hs : Reachable api delay s) (hr : s.applyCompletion c now = .ok r) :
      Reachable api delay r.1

/-- Forms have only been edited, and no edit put the focus on an input given by its number. -/
def Edited (s t : Session) : Prop :=
  ∀ k, ∃ es : List Edit, (∀ e ∈ es, ¬e.IsJump) ∧ (t.pane k).form = (s.pane k).form.replay es

theorem edited_of_forms {s t : Session} (h : ∀ k, (t.pane k).form = (s.pane k).form) :
    s.Edited t := fun k ↦ ⟨[], List.forall_mem_nil _, h k⟩

theorem Edited.trans {s t u : Session} (h : s.Edited t) (h' : t.Edited u) : s.Edited u := by
  intro k
  obtain ⟨es, hes, hform⟩ := h k
  obtain ⟨es', hes', hform'⟩ := h' k
  refine ⟨es ++ es', ?_, by rw [hform', hform, Form.replay_append]⟩
  simpa [or_imp, forall_and] using ⟨hes, hes'⟩

/-- Giving a pane a form that was edited edits that form and no other. -/
theorem edited_setPane {s : Session} {o : Operation} {p : Pane} {l : List Edit}
    (hl : ∀ e ∈ l, ¬e.IsJump) (hp : p.form = (s.pane o).form.replay l) :
    s.Edited (s.setPane o p) := by
  intro k
  rw [pane_setPane]
  split
  · next hk =>
    subst hk
    exact ⟨l, hl, hp⟩
  · exact ⟨[], List.forall_mem_nil _, rfl⟩

theorem edited_editForm (s : Session) (o : Operation) {e : Edit} (he : ¬e.IsJump) :
    s.Edited (s.editForm o e.apply) :=
  edited_setPane (l := [e]) (List.forall_mem_singleton.2 he) rfl

theorem edited_editStatus (s : Session) (o : Operation) (change : StatusArea → StatusArea) :
    s.Edited (s.editStatus o change) := edited_setPane (l := []) (List.forall_mem_nil _) rfl

theorem edited_tick (s : Session) (now : Instant) : s.Edited (s.tick now) :=
  edited_of_forms fun k ↦ by cases k <;> rfl

/-- A submission edits no form, whether it is accepted or not. -/
theorem edited_of_submit {s : Session} {o : Operation} {now : Instant} {r : Session × Log}
    (h : s.submit o now = .ok r) : s.Edited r.1 := by
  rcases cases_of_submit h with ⟨_, status, -, -, hr⟩ | ⟨_, status, -, -, hr⟩
  · rw [hr]
    exact edited_setPane (s := s) (l := []) (List.forall_mem_nil _) rfl
  · rw [hr]
    exact edited_setPane (l := []) (List.forall_mem_nil _) rfl

/-- Showing an outcome empties a form, or leaves all as they are. -/
theorem edited_reveal (s : Session) (c : Completion) (status : StatusArea) :
    s.Edited (s.reveal c status) := by
  cases hreset : c.outcome.resetForm with
  | true =>
    refine edited_setPane (l := [.reset]) (List.forall_mem_singleton.2 nofun) ?_
    simp only [hreset]
    rfl
  | false =>
    refine edited_setPane (l := []) (List.forall_mem_nil _) ?_
    simp only [hreset]
    rfl

theorem edited_applyAll {s : Session} {now : Instant} {cs : List Completion} {d : Drained}
    (h : s.applyAll now cs = .ok d) : s.Edited d.session :=
  applyAll_induction (P := fun t _ ↦ s.Edited t)
    (fun _ c _ status ht _ ↦ ht.trans (edited_reveal _ c status)) (edited_of_forms fun _ ↦ rfl) h

/-- An action that makes an edit makes it in the form at the front. -/
theorem act_of_edit? (s : Session) {a : Action} {e : Edit} (h : a.edit? = some e) (now : Instant) :
    s.act a now = .ok ⟨s.editForm s.active e.apply, false, []⟩ := by
  cases a <;> cases h <;> rfl

/-- No key puts the focus on an input given by its number. -/
theorem not_isJump_of_edit? {a : Action} {e : Edit} (h : a.edit? = some e) : ¬e.IsJump := by
  cases a <;> cases h <;> nofun

theorem edited_of_act {s : Session} {a : Action} {now : Instant} {p : Pressed}
    (h : s.act a now = .ok p) : s.Edited p.session := by
  cases hedit : a.edit? with
  | some e =>
    rw [s.act_of_edit? hedit] at h
    cases h
    exact s.edited_editForm s.active (not_isJump_of_edit? hedit)
  | none =>
    cases a with
    | submit =>
      obtain ⟨r, hr, rfl⟩ := Except.exists_of_map_eq_ok h
      exact edited_of_submit hr
    | quit | nothing | nextPane | previousPane | openHelp | closeHelp =>
      cases h
      exact edited_of_forms fun _ ↦ rfl
    | scrollDown | scrollUp =>
      cases h
      exact edited_editStatus _ _ _
    | focusNext | focusPrevious | reset | clear | insert | backspace => cases hedit

/-- **Whatever happens, forms only change by edits.** -/
theorem edited_of_step {s t : Session} {e : Event} (he : ∀ o n, e ≠ .edit o (.focus n))
    (h : s.step e = .ok t) : s.Edited t := by
  cases e with
  | key k m now =>
    obtain ⟨p, hp, rfl⟩ := Except.exists_of_map_eq_ok h
    exact edited_of_act hp
  | edit o e =>
    cases h
    refine s.edited_editForm o ?_
    rintro ⟨n, rfl⟩
    exact he o n rfl
  | submit o now =>
    obtain ⟨r, hr, rfl⟩ := Except.exists_of_map_eq_ok h
    exact edited_of_submit hr
  | drain now =>
    obtain ⟨d, hd, rfl⟩ := Except.exists_of_map_eq_ok h
    exact edited_applyAll (s := { s with inbox := [] }) hd
  | answer id r =>
    cases h
    rw [finish]
    split <;> exact edited_of_forms fun _ ↦ rfl
  | scrollDown o amount | scrollUp o amount =>
    cases h
    exact edited_editStatus _ _ _
  | choose o | send =>
    cases h
    exact edited_of_forms fun _ ↦ rfl
  | tick now =>
    cases h
    exact s.edited_tick now

/-! ## Every state -/

section

variable {api : Api} {delay : Duration} {s : Session}

/-- In every state, each pane has a well-formed form of its operation. -/
theorem Reachable.form_wellFormed (h : Reachable api delay s) (o : Operation) :
    (s.pane o).form.WellFormed o := by
  have hkeep : ∀ {s t : Session}, (s.pane o).form.WellFormed o → s.Edited t →
      (t.pane o).form.WellFormed o := by
    intro s t hs ht
    obtain ⟨es, hes, hform⟩ := ht o
    rw [hform]
    exact hs.replay hes
  induction h with
  | start =>
    have hblank : ((Session.start api delay).pane o).form = .blank o := by cases o <;> rfl
    rw [hblank]
    exact Form.wellFormed_blank o
  | step _ he ht ih => exact hkeep ih (edited_of_step he ht)
  | completed _ hr ih =>
    obtain ⟨status, -, hreveal⟩ := eq_reveal_of_applyCompletion hr
    rw [hreveal]
    exact hkeep ih (edited_reveal _ _ status)

end

/-- The panes of a session stand in their places, and their forms are fit for use. -/
structure WellFormed (s : Session) : Prop where
  /-- There is one pane for each operation, in the order of the operations. -/
  operations_eq : s.panes.inOrder.map (fun p ↦ p.form.operation) = Operation.all
  /-- The pane of an operation stands in the place of the operation, and is replaced there. -/
  pane_eq : ∀ o, Operation.all[o.index]? = some o ∧ s.panes.inOrder[o.index]? = some (s.pane o) ∧
    (s.pane o).form.operation = o
  setPane_eq : ∀ o p, (s.setPane o p).panes.inOrder = s.panes.inOrder.set o.index p
  /-- A form has the inputs it had in the beginning, in their order. -/
  inputs_eq : ∀ o, (s.pane o).form.inputs = (Form.blank o).inputs
  /-- The focus is on an input; only listing has none, and there it stays at the beginning. -/
  hasFields_iff : ∀ o, (s.pane o).form.hasFields = true ↔ o ≠ .list
  focus_lt : ∀ o, o ≠ .list → (s.pane o).form.focus < (s.pane o).form.fields.length
  focus_list : (s.pane .list).form.focus = 0
  /-- So every edit of a form does what it should. -/
  editable : ∀ o, (s.pane o).form.Editable

end Session

/-- **In every state all forms are fit for use.** -/
theorem wellFormed_of_reachable {api : Api} {delay : Duration} {s : Session}
    (h : Session.Reachable api delay s) : s.WellFormed := by
  have hform : ∀ o, (s.pane o).form.WellFormed o := h.form_wellFormed
  have hfields : ∀ o, (s.pane o).form.fields ≠ [] ↔ o ≠ .list := by
    intro o
    rw [← o.inputs_ne_nil_iff, ← (hform o).inputs_eq, Form.inputs, Ne, Ne, List.map_eq_nil_iff]
  refine
    { operations_eq := ?_
      pane_eq := fun o ↦ ⟨o.getElem?_all, s.panes.getElem?_inOrder o, (hform o).operation_eq⟩
      setPane_eq := s.panes.inOrder_set
      inputs_eq := fun o ↦ (hform o).inputs_eq.trans (Form.inputs_blank o).symm
      hasFields_iff := fun o ↦ Form.hasFields_iff.trans (hfields o)
      focus_lt := fun o ho ↦ (hform o).focus_lt ((hfields o).2 ho)
      focus_list := (hform .list).focus_eq_zero (not_ne_iff.1 (mt (hfields .list).1 (by simp)))
      editable := fun o ↦ (hform o).editable }
  rw [Panes.inOrder_eq_map, List.map_map]
  exact (List.map_congr_left fun o _ ↦ (hform o).operation_eq).trans (List.map_id _)

/-- A letter is typed into the second input of a form, and then the form is emptied by an outcome
for which no request was sent. -/
theorem wellFormed_of_reachable_emptied : ∃ s : Session,
    Session.Reachable ⟨"http://api.test"⟩ (Duration.ofSeconds 5) s ∧ s.WellFormed ∧
      s.active = .scale ∧ (s.pane .scale).form = .blank .scale := by
  have hstart : Session.Reachable ⟨"http://api.test"⟩ (Duration.ofSeconds 5) _ := .start
  have hchosen := hstart.step (e := .choose .scale) nofun rfl
  have hmoved := hchosen.step (e := .key .down .none 0) nofun rfl
  have htyped := hmoved.step (e := .key (.char '3') .none 1) nofun rfl
  have hemptied := @Session.Reachable.completed _ _ _
    ⟨.scale, ⟨⟨.success, "done", none⟩, true⟩⟩ 2 _ htyped rfl
  exact ⟨_, hemptied, wellFormed_of_reachable hemptied, rfl, rfl⟩

end ClusterConsole
