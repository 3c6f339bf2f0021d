import ClusterConsole.Proofs.Session.WellFormed
import ClusterConsole.Screen.View

/-!
# What the screen gives away

Five panes hold what was typed and what came of it, but only one of them is in front, and a message
that has hidden itself is still stored.  None of that may be read off the screen.

* `SameResult` and `SameShown` say when two status areas, and two sessions, agree in what may be
  shown.  Of a hidden message, that is nothing at all; of a pane that is not in front, it is how
  many of its requests are under way.
* `draw_eq_of_sameShown` says that two such sessions look the same, in every cell of a screen of any
  size.  A title or a colour that still came from a hidden message would be a counterexample, so
  each part of a result is looked at on its own (`drawResult_congr`).

A form is told by its values and its focus only if it has the inputs of its operation
(`Session.OwnForms`), as every form has in the states that a session can get into.
`screen_shows_front` is the main result.
-/

set_option autoImplicit false

namespace ClusterConsole

/-- The panes have the forms of their operations. -/
def Session.OwnForms (s : Session) : Prop :=
  ∀ o, (s.pane o).form.operation = o ∧ (s.pane o).form.inputs = o.inputs

theorem Session.Reachable.ownForms {api : Api} {delay : Duration} {s : Session}
    (h : Session.Reachable api delay s) : s.OwnForms := fun o ↦
  ⟨(h.form_wellFormed o).operation_eq, (h.form_wellFormed o).inputs_eq⟩

/-- A pane with the same counter in place of another leaves all counters as they are. -/
theorem Session.inFlight_setPane {s : Session} {o : Operation} {p : Pane}
    (hp : p.inFlight = (s.pane o).inFlight) (k : Operation) :
    ((s.setPane o p).pane k).inFlight = (s.pane k).inFlight := by
  rw [pane_setPane]
  split
  · next hk => rw [hp, hk]
  · rfl

/-- Inputs with the same values are the same fields. -/
theorem Field.eq_of_map_eq {l l' : List Field} (hinput : l.map Field.input = l'.map Field.input)
    (hvalue : l.map Field.value = l'.map Field.value) : l = l' := by
  induction l generalizing l' with
  | nil => exact (List.map_eq_nil_iff.1 hinput.symm).symm
  | cons x l ih =>
    cases l' with
    | nil => cases hinput
    | cons y l' =>
      rw [List.map_cons, List.map_cons, List.cons.injEq] at hinput hvalue
      have hxy : x = y := by
        cases x
        cases y
        exact congr (congrArg Field.mk hinput.1) hvalue.1
      rw [hxy, ih hinput.2 hvalue.2]

theorem Form.eq_of_values_eq {f g : Form} (hoperation : f.operation = g.operation)
    (hinputs : f.inputs = g.inputs)
    (hvalues : f.fields.map Field.value = g.fields.map Field.value) (hfocus : f.focus = g.focus) :
    f = g := by
  have hfields := Field.eq_of_map_eq hinputs hvalues
  cases f
  cases g
  exact congr (congr (congrArg mk hoperation) hfields) hfocus

namespace Screen

/-! ## Status areas -/

/-- Two status areas agree in what is shown of them: whether there is a message, and which. -/
structure SameResult (a b : StatusArea) : Prop where
  visible_eq : a.visible = b.visible
  kind_eq : a.visible = true → a.kind = b.kind
  message_eq : a.visible = true → a.message = b.message
  detail_eq : a.visible = true → a.detail = b.detail
  scroll_eq : a.visible = true → a.scroll = b.scroll
  shownAt_eq : a.visible = true → a.shownAt = b.shownAt

theorem SameResult.of_hidden {a b : StatusArea} (ha : a.visible = false) (hb : b.visible = false) :
    SameResult a b := by
  have hnot : ∀ {p : Prop}, a.visible = true → p := fun h ↦ nomatch ha.symm.trans h
  exact ⟨ha.trans hb.symm, hnot, hnot, hnot, hnot, hnot⟩

section

variable {a b : StatusArea}

theorem resultTitle_congr (timeOfDay : Instant → String) (h : SameResult a b) :
    resultTitle timeOfDay a = resultTitle timeOfDay b := by
  cases hvisible : a.visible with
  | false =>
    have hb : b.visible = false := h.visible_eq ▸ hvisible
    simp [resultTitle, hvisible, hb]
  | true =>
    have hb : b.visible = true := h.visible_eq ▸ hvisible
    simp [resultTitle, StatusArea.isPending, hvisible, hb, h.shownAt_eq hvisible,
      h.kind_eq hvisible]

theorem resultFrameStyle_congr (h : SameResult a b) : resultFrameStyle a = resultFrameStyle b := by
  rw [resultFrameStyle, resultFrameStyle, ← h.visible_eq]
  split
  · next hvisible => rw [h.kind_eq hvisible]
  · rfl

/-- Nothing of a status area is drawn but what is shown of it. -/
theorem drawResult_congr (timeOfDay : Instant → String) (c : Canvas) (r : Area)
    (h : SameResult a b) : drawResult timeOfDay c r a = drawResult timeOfDay c r b := by
  rw [drawResult, drawResult, resultTitle_congr timeOfDay h, resultFrameStyle_congr h,
    ← h.visible_eq]
  split
  · next hvisible =>
    have hlines : resultLines a = resultLines b := by
      rw [resultLines, resultLines, h.kind_eq hvisible, h.message_eq hvisible, h.detail_eq hvisible]
    rw [hlines, h.scroll_eq hvisible]
  · rfl

/-- A screen changes only with what is shown of its status area, and with the delay. -/
theorem View.draw_congr (timeOfDay : Instant → String) (w h : Nat) {v v' : View}
    (hstatus : SameResult v.status v'.status) (hdelay : v.status.delay = v'.status.delay)
    (hrest : { v with status := v'.status } = v') :
    v.draw timeOfDay w h = v'.draw timeOfDay w h := by
  rw [← hrest]
  simp only [View.draw, drawMiddle, drawResult_congr _ _ _ hstatus, hdelay]
  rfl

end

/-! ## Sessions -/

/-- Two sessions agree in what concerns the screen. -/
structure SameShown (s t : Session) : Prop where
  base_eq : s.api.base = t.api.base
  mode_eq : s.mode = t.mode
  active_eq : s.active = t.active
  inFlight_eq : ∀ o, (s.pane o).inFlight = (t.pane o).inFlight
  values_eq : s.activePane.form.fields.map Field.value = t.activePane.form.fields.map Field.value
  focus_eq : s.activePane.form.focus = t.activePane.form.focus
  delay_eq : s.activePane.status.delay = t.activePane.status.delay
  status : SameResult s.activePane.status t.activePane.status

/-- What the screen shows of two sessions differs at most in the status areas, if the sessions agree
in what concerns the screen. -/
theorem View.of_eq_of_sameShown {s t : Session} (hs : s.OwnForms) (ht : t.OwnForms)
    (h : SameShown s t) : { View.of s with status := t.activePane.status } = View.of t := by
  have hform : s.activePane.form = t.activePane.form := by
    have hoperation : s.activePane.form.operation = t.activePane.form.operation :=
      (hs s.active).1.trans (h.active_eq.trans (ht t.active).1.symm)
    have hinputs : s.activePane.form.inputs = t.activePane.form.inputs :=
      (hs s.active).2.trans ((congrArg Operation.inputs h.active_eq).trans (ht t.active).2.symm)
    exact Form.eq_of_values_eq hoperation hinputs h.values_eq h.focus_eq
  rw [View.of, View.of, h.base_eq, h.active_eq, h.mode_eq, hform, funext h.inFlight_eq]

theorem draw_eq_of_sameShown (timeOfDay : Instant → String) (w h : Nat) {s t : Session}
    (hs : s.OwnForms) (ht : t.OwnForms) (hshown : SameShown s t) :
    draw timeOfDay w h s = draw timeOfDay w h t :=
  View.draw_congr timeOfDay w h hshown.status hshown.delay_eq (View.of_eq_of_sameShown hs ht hshown)

/-- A screen tells nothing of a session but what is in front. -/
structure ShowsFront (timeOfDay : Instant → String) (w h : Nat) : Prop where
  /-- Sessions that agree in what concerns the screen have the same screen. -/
  draw_eq : ∀ s t : Session, s.OwnForms → t.OwnForms → SameShown s t →
    draw timeOfDay w h s = draw timeOfDay w h t
  /-- Of a pane that is not in front, only the number of its requests under way counts. -/
  draw_setPane : ∀ (s : Session) o p, o ≠ s.active → p.inFlight = (s.pane o).inFlight →
    draw timeOfDay w h (s.setPane o p) = draw timeOfDay w h s
  /-- Of a hidden message, nothing does. -/
  draw_editStatus : ∀ (s : Session) a, s.activePane.status.visible = false → a.visible = false →
    a.delay = s.activePane.status.delay →
    draw timeOfDay w h (s.editStatus s.active fun _ ↦ a) = draw timeOfDay w h s

theorem View.of_setPane {s : Session} {o : Operation} {p : Pane} (ho : o ≠ s.active)
    (hp : p.inFlight = (s.pane o).inFlight) : View.of (s.setPane o p) = View.of s := by
  have hfront : (s.setPane o p).activePane = s.activePane := by
    have hactive : (s.setPane o p).active = s.active := rfl
    rw [Session.activePane, hactive, Session.pane_setPane, if_neg (Ne.symm ho)]
    rfl
  rw [View.of, View.of, hfront, funext (Session.inFlight_setPane hp)]
  rfl

theorem View.of_editStatus (s : Session) (a : StatusArea) :
    View.of (s.editStatus s.active fun _ ↦ a) = { View.of s with status := a } := by
  have hfront :
      (s.editStatus s.active fun _ ↦ a).activePane = { s.activePane with status := a } := by
    have hactive : (s.editStatus s.active fun _ ↦ a).active = s.active := rfl
    rw [Session.activePane, hactive, Session.editStatus, Session.pane_setPane, if_pos rfl]
    rfl
  have hcount : ∀ k, ((s.editStatus s.active fun _ ↦ a).pane k).inFlight = (s.pane k).inFlight :=
    Session.inFlight_setPane (p := { s.pane s.active with status := a }) rfl
  rw [View.of, View.of, hfront, funext hcount]
  rfl

/-- **The screen shows what is in front, and nothing else**, in every state that a session can get
into and at every size. -/
theorem screen_shows_front :
    (∀ api delay s, Session.Reachable api delay s → s.OwnForms) ∧
      ∀ timeOfDay w h, ShowsFront timeOfDay w h := by
  refine ⟨fun _ _ _ ↦ Session.Reachable.ownForms, fun timeOfDay w h ↦ ⟨?_, ?_, ?_⟩⟩
  · exact fun s t ↦ draw_eq_of_sameShown timeOfDay w h
  · intro s o p ho hp
    rw [draw, draw, View.of_setPane ho hp]
  · intro s a hs ha hdelay
    have hsame :
        SameResult (View.of (s.editStatus s.active fun _ ↦ a)).status (View.of s).status := by
      rw [View.of_editStatus]
      exact .of_hidden ha hs
    refine View.draw_congr timeOfDay w h hsame ?_ ?_
    · rw [View.of_editStatus]
      exact hdelay
    · rw [View.of_editStatus]

/-- A rejected submission has hidden itself again, and text stands in a form behind. -/
theorem screen_shows_front_hidden : ∃ s t : Session,
    Session.Reachable ⟨"http://api.test"⟩ (Duration.ofSeconds 5) s ∧
      Session.Reachable ⟨"http://api.test"⟩ (Duration.ofSeconds 5) t ∧ SameShown s t ∧
      s.activePane.status.message = "" ∧ t.activePane.status.message = "namespace required" ∧
      (s.pane .scale).form.value .replicas = "" ∧ (t.pane .scale).form.value .replicas = "3" ∧
      ∀ timeOfDay w h, draw timeOfDay w h s = draw timeOfDay w h t := by
  have hstart : Session.Reachable ⟨"http://api.test"⟩ (Duration.ofSeconds 5) _ := .start
  have hplain := hstart.step (e := .choose .delete) nofun rfl
  have hfilled := hplain.step (e := .edit .scale (.set .replicas "3")) nofun rfl
  have hrejected := hfilled.step (e := .submit .delete 0) nofun rfl
  have hhidden := hrejected.step (e := .tick (Duration.ofSeconds 5)) nofun rfl
  have hforms := screen_shows_front.1
  refine ⟨_, _, hplain, hhidden, ?shown, rfl, rfl, rfl, rfl, fun timeOfDay w h ↦
    (screen_shows_front.2 timeOfDay w h).draw_eq _ _ (hforms _ _ _ hplain) (hforms _ _ _ hhidden)
      ?shown⟩
  exact ⟨rfl, rfl, rfl, fun o ↦ by cases o <;> rfl, rfl, rfl, rfl, .of_hidden rfl rfl⟩

end Screen
end ClusterConsole
