import ClusterConsole.Proofs.Session.Isolation
import ClusterConsole.Proofs.Session.WellFormed
import Mathlib.Data.List.Forall2

/-!
# Typed text arrives as it was typed

Some letters are shortcuts: with Control, and in the pane of the list, which has no input to type
into.  Everywhere else a letter has to arrive as a letter, whichever it is.

* `Session.pressAll` presses keys one after the other, and `Typed` says that they type a text.
* `TypesInto` is what typing does where there are inputs: the text is added to the value of the
  focused input, erasing as many characters brings back the same session, and Control with a letter
  that is no shortcut does nothing.
* `TypesNowhere` is what it does in the pane of the list, where no form can change.

Where there are inputs, typing a character and erasing one both replace the focused value by a
function of it (`Stroke.retype`) and do nothing else.  So one induction says what any number of such
keys does (`pressAll_of_isEditing`), and the rest is about texts.  `typing_of_reachable` is the main
result.
-/

set_option autoImplicit false

namespace ClusterConsole

/-! ## Keys one after the other -/

/-- A key that is pressed, the modifiers held down with it, and the time. -/
structure Stroke where
  key : KeyCode
  modifiers : Modifiers
  now : Instant

/-- The stroke types a character: Control is not held down with it. -/
def Stroke.Types (c : Char) (k : Stroke) : Prop :=
  k.key = .char c ∧ k.modifiers.control = false

theorem Stroke.Types.not_shortcut {c : Char} {k : Stroke} (h : k.Types c) :
    k.modifiers.control = true → c ∉ ['c', 'r', 'u'] := fun hcontrol ↦ by
  rw [h.2] at hcontrol
  cases hcontrol

/-- The strokes type the characters of a text, in their order. -/
def Typed (w : List Char) (ks : List Stroke) : Prop := List.Forall₂ Stroke.Types w ks

/-- The strokes are so many of the key that erases a character. -/
def Erases (n : Nat) (ks : List Stroke) : Prop := ks.length = n ∧ ∀ k ∈ ks, k.key = .backspace

/-- Presses keys one after the other, also after one that asks to quit.  What is told in the end is
whether any of them did. -/
def Session.pressAll (s : Session) : List Stroke → Except Crash Session.Pressed
  | [] => .ok ⟨s, false, []⟩
  | k :: rest =>
    match s.press k.key k.modifiers k.now with
    | .error crash => .error crash
    | .ok p => (p.session.pressAll rest).map fun q ↦ ⟨q.session, p.quit || q.quit, p.log ++ q.log⟩

/-! ## The focused value -/

/-- The key types a character, or erases one. -/
def Stroke.IsEditing (k : Stroke) : Prop := (∃ c, k.Types c) ∨ k.key = .backspace

theorem isEditing_of_typed {w : List Char} {ks : List Stroke} (h : Typed w ks) :
    ∀ k ∈ ks, k.IsEditing := by
  induction h with
  | nil => exact List.forall_mem_nil _
  | cons hk _ ih => exact List.forall_mem_cons.2 ⟨.inl ⟨_, hk⟩, ih⟩

/-- What such a key makes of a value. -/
def Stroke.retype (k : Stroke) (value : String) : String :=
  match k.key with
  | .char c => value.push c
  | .backspace => String.ofList value.toList.dropLast
  | _ => value

theorem Stroke.retype_of_char {k : Stroke} {c : Char} (hk : k.key = .char c) (value : String) :
    k.retype value = value.push c := by
  rw [retype, hk]

theorem Stroke.retype_of_backspace {k : Stroke} (hk : k.key = .backspace) (value : String) :
    k.retype value = String.ofList value.toList.dropLast := by
  rw [retype, hk]

/-- What several keys make of a value. -/
def retypeAll (ks : List Stroke) (value : String) : String := ks.foldl (fun v k ↦ k.retype v) value

theorem retypeAll_of_typed {w : List Char} {ks : List Stroke} (h : Typed w ks) (value : String) :
    retypeAll ks value = value ++ String.ofList w := by
  induction h generalizing value with
  | nil => simp [retypeAll]
  | @cons c k w ks hk _ ih =>
    have hcons : retypeAll (k :: ks) value = retypeAll ks (k.retype value) := rfl
    rw [hcons, Stroke.retype_of_char hk.1, ih]
    exact String.toList_injective (by simp)

theorem retypeAll_of_erases {n : Nat} {ks : List Stroke} (h : Erases n ks) (l : List Char) :
    retypeAll ks (String.ofList l) = String.ofList (l.take (l.length - n)) := by
  obtain ⟨hlength, hkeys⟩ := h
  induction ks generalizing n l with
  | nil =>
    subst hlength
    simp [retypeAll]
  | cons k rest ih =>
    subst hlength
    rw [List.forall_mem_cons] at hkeys
    have hcons : retypeAll (k :: rest) (String.ofList l) =
        retypeAll rest (k.retype (String.ofList l)) := rfl
    rw [hcons, Stroke.retype_of_backspace hkeys.1, String.toList_ofList, ih _ rfl hkeys.2,
      List.dropLast_eq_take, List.take_take, List.length_take, List.length_cons]
    congr 2
    omega

/-- Erasing as many characters as were typed brings back the value. -/
theorem retypeAll_of_typed_erases {w : List Char} {ks ks' : List Stroke} (h : Typed w ks)
    (h' : Erases w.length ks') (value : String) : retypeAll (ks ++ ks') value = value := by
  have happend : retypeAll (ks ++ ks') value = retypeAll ks' (retypeAll ks value) :=
    List.foldl_append
  have hvalue : value ++ String.ofList w = String.ofList (value.toList ++ w) :=
    String.toList_injective (by simp)
  rw [happend, retypeAll_of_typed h, hvalue, retypeAll_of_erases h']
  simp

namespace Session

/-- Changes the value of the focused input of the form at the front. -/
def editFocused (s : Session) (change : String → String) : Session :=
  s.editForm s.active fun f ↦ f.edit change

variable {s : Session}

theorem setPane_pane (s : Session) (o : Operation) : s.setPane o (s.pane o) = s := by
  cases o <;> rfl

theorem setPane_setPane (s : Session) (o : Operation) (p q : Pane) :
    (s.setPane o p).setPane o q = s.setPane o q := by
  cases o <;> rfl

theorem editFocused_editFocused (s : Session) (f g : String → String) :
    (s.editFocused f).editFocused g = s.editFocused fun v ↦ g (f v) := by
  have hform : ∀ x : Form, (x.edit f).edit g = x.edit fun v ↦ g (f v) := fun x ↦ by
    simp only [Form.edit, List.modify_modify_eq]
    rfl
  have hpane : (s.editFocused f).pane s.active =
      { s.activePane with form := s.activePane.form.edit f } := by
    rw [editFocused, editForm, pane_setPane, if_pos rfl]
    rfl
  have hfront : (s.editFocused f).active = s.active := rfl
  rw [editFocused, editForm, hfront, hpane]
  simp only [hform]
  exact setPane_setPane ..

theorem editForm_eq_self {o : Operation} {change : Form → Form}
    (h : change (s.pane o).form = (s.pane o).form) : s.editForm o change = s := by
  rw [editForm, h]
  exact s.setPane_pane o

theorem editFocused_id (s : Session) {change : String → String} (h : ∀ v, change v = v) :
    s.editFocused change = s := by
  refine editForm_eq_self ?_
  simp only [Form.edit, h]
  exact congrArg (Form.mk _ · _) (List.modify_id ..)

/-- A form without inputs cannot be edited. -/
theorem editFocused_of_fields_eq_nil (hfields : s.activePane.form.fields = [])
    (change : String → String) : s.editFocused change = s := by
  refine editForm_eq_self ?_
  rw [Form.edit, show (s.pane s.active).form.fields = [] from hfields, List.modify_nil, ← hfields]
  rfl

/-- The focused value is replaced, and nothing else. -/
theorem editFocused_eq {x : Field}
    (hx : s.activePane.form.fields[s.activePane.form.focus]? = some x) (change : String → String) :
    s.editFocused change =
      s.editForm s.active fun f ↦ f.withValue f.focus x (change x.value) := by
  rw [editFocused, editForm, editForm, Form.edit_eq_withValue (f := (s.pane s.active).form) hx]

/-! ## Where there are inputs -/

theorem press_of_isEditing (hmode : s.mode = .normal) (hactive : s.active ≠ .list) {k : Stroke}
    (hk : k.IsEditing) :
    s.press k.key k.modifiers k.now = .ok ⟨s.editFocused k.retype, false, []⟩ := by
  rcases hk with ⟨c, hkey, hcontrol⟩ | hkey
  · have haction : k.key.action k.modifiers s.mode s.active = .insert c := by
      simp [KeyCode.action, KeyCode.normalAction, hkey, hcontrol, hmode, hactive]
    rw [press, haction, act, editFocused, funext (Stroke.retype_of_char hkey)]
    rfl
  · have haction : k.key.action k.modifiers s.mode s.active = .backspace := by
      simp [KeyCode.action, KeyCode.normalAction, hkey, hmode]
    rw [press, haction, act, editFocused, funext (Stroke.retype_of_backspace hkey)]
    rfl

/-- **Keys that type or erase change the focused value, and nothing else.** -/
theorem pressAll_of_isEditing (hmode : s.mode = .normal) (hactive : s.active ≠ .list)
    {ks : List Stroke} (hks : ∀ k ∈ ks, k.IsEditing) :
    s.pressAll ks = .ok ⟨s.editFocused (retypeAll ks), false, []⟩ := by
  induction ks generalizing s with
  | nil =>
    have hnothing : ∀ v, retypeAll [] v = v := fun _ ↦ rfl
    rw [pressAll, s.editFocused_id hnothing]
  | cons k rest ih =>
    rw [List.forall_mem_cons] at hks
    have hrest : (s.editFocused k.retype).pressAll rest =
        .ok ⟨s.editFocused (retypeAll (k :: rest)), false, []⟩ := by
      rw [ih (s := s.editFocused k.retype) hmode hactive hks.2, editFocused_editFocused]
      rfl
    rw [pressAll, press_of_isEditing hmode hactive hks.1]
    simp only [hrest]
    rfl

/-- With Control, letters that are no shortcuts do nothing. -/
theorem press_of_control (hmode : s.mode = .normal) (hactive : s.active ≠ .list) {c : Char}
    (hc : c ∉ ['c', 'r', 'u']) {m : Modifiers} (hm : m.control = true) (now : Instant) :
    s.press (.char c) m now = .ok ⟨s, false, []⟩ := by
  have haction : (KeyCode.char c).action m s.mode s.active = .nothing := by
    simp only [List.mem_cons, List.not_mem_nil, or_false, not_or] at hc
    simp [KeyCode.action, KeyCode.normalAction, hm, hmode, hactive, hc]
  rw [press, haction, act]

/-! ## Where there are none -/

/-- In the pane of the list two letters are shortcuts, and the others do nothing.  Control makes no
difference but for the three letters that it makes shortcuts everywhere. -/
theorem press_of_list (hmode : s.mode = .normal) (hactive : s.active = .list)
    (hfields : s.activePane.form.fields = []) {c : Char} {m : Modifiers}
    (hm : m.control = true → c ∉ ['c', 'r', 'u']) (now : Instant) : s.press (.char c) m now =
      .ok ⟨if c = '?' then { s with mode := .help } else s, c == 'q', []⟩ := by
  have haction : (KeyCode.char c).action m s.mode s.active =
      if c = '?' then .openHelp else if c = 'q' then .quit
      else if m.control then .nothing else .insert c := by
    cases hcontrol : m.control with
    | false => simp [KeyCode.action, KeyCode.normalAction, hcontrol, hmode, hactive]
    | true =>
      have hc := hm hcontrol
      simp only [List.mem_cons, List.not_mem_nil, or_false, not_or] at hc
      simp [KeyCode.action, KeyCode.normalAction, hcontrol, hmode, hactive, hc]
  rw [press, haction]
  by_cases hhelp : c = '?'
  · subst hhelp
    rfl
  by_cases hquit : c = 'q'
  · subst hquit
    rfl
  rw [if_neg hhelp, if_neg hquit, if_neg hhelp, beq_false_of_ne hquit]
  cases m.control with
  | true => rfl
  | false =>
    exact congrArg (fun t : Session ↦ Except.ok (⟨t, false, []⟩ : Pressed))
      (editFocused_of_fields_eq_nil hfields fun v ↦ v.push c)

/-- Where there is nothing to erase, nothing is erased. -/
theorem press_backspace_of_list (hmode : s.mode = .normal)
    (hfields : s.activePane.form.fields = []) (m : Modifiers) (now : Instant) :
    s.press .backspace m now = .ok ⟨s, false, []⟩ := by
  have haction : KeyCode.backspace.action m s.mode s.active = .backspace := by
    simp [KeyCode.action, KeyCode.normalAction, hmode]
  rw [press, haction]
  exact congrArg (fun t : Session ↦ Except.ok (⟨t, false, []⟩ : Pressed))
    (editFocused_of_fields_eq_nil hfields fun v ↦ String.ofList v.toList.dropLast)

/-- While the help is read, a letter does no more than close it. -/
theorem exists_press_of_help (hmode : s.mode = .help) (c : Char) {m : Modifiers}
    (hm : m.control = false) (now : Instant) :
    ∃ mode, s.press (.char c) m now = .ok ⟨{ s with mode }, false, []⟩ := by
  have haction : (KeyCode.char c).action m s.mode s.active = (KeyCode.char c).helpAction := by
    simp [KeyCode.action, hm, hmode]
  rw [press, haction]
  rcases KeyCode.helpAction_cases (.char c) with hclose | hnothing
  · exact ⟨.normal, by rw [hclose, act]⟩
  · exact ⟨s.mode, by rw [hnothing, act]⟩

/-- In the pane of the list, whatever is typed at most opens and closes the help. -/
theorem exists_pressAll_of_list (hactive : s.active = .list)
    (hfields : s.activePane.form.fields = []) {w : List Char} {ks : List Stroke}
    (h : Typed w ks) :
    ∃ mode quit, s.pressAll ks = .ok ⟨{ s with mode }, quit, []⟩ := by
  induction h generalizing s with
  | nil => exact ⟨s.mode, false, rfl⟩
  | @cons c k w ks hk _ ih =>
    obtain ⟨mode, quit, hpress⟩ : ∃ mode quit,
        s.press k.key k.modifiers k.now = .ok ⟨{ s with mode }, quit, []⟩ := by
      rw [hk.1]
      cases hmode : s.mode with
      | normal =>
        have hpress := press_of_list hmode hactive hfields hk.not_shortcut k.now
        by_cases hc : c = '?'
        · exact ⟨.help, _, hpress.trans (by rw [if_pos hc])⟩
        · exact ⟨s.mode, _, hpress.trans (by rw [if_neg hc])⟩
      | help =>
        obtain ⟨mode, hhelp⟩ := exists_press_of_help hmode c hk.2 k.now
        exact ⟨mode, false, hhelp⟩
    obtain ⟨mode', quit', hrest⟩ := ih (s := { s with mode }) hactive hfields
    refine ⟨mode', quit || quit', ?_⟩
    rw [pressAll, hpress]
    simp only [hrest]
    rfl

/-- Without a question mark, not even the help is opened. -/
theorem pressAll_of_list (hmode : s.mode = .normal) (hactive : s.active = .list)
    (hfields : s.activePane.form.fields = []) {w : List Char} {ks : List Stroke}
    (h : Typed w ks) (hw : '?' ∉ w) : s.pressAll ks = .ok ⟨s, w.contains 'q', []⟩ := by
  induction h with
  | nil => rfl
  | @cons c k w ks hk _ ih =>
    rw [List.mem_cons, not_or] at hw
    have hpress := press_of_list hmode hactive hfields hk.not_shortcut k.now
    rw [if_neg (Ne.symm hw.1)] at hpress
    rw [pressAll, hk.1, hpress]
    simp only [ih hw.2]
    rw [List.contains_cons, Bool.beq_comm]
    rfl

end Session

/-! ## In every state -/

/-- Where there are inputs, what is typed goes into the one that has the focus. -/
structure TypesInto (s : Session) : Prop where
  /-- Every text is added to the value of that input as it is.  Nothing else changes, nothing is
  logged, and no character of it quits. -/
  typed : ∃ x, s.activePane.form.fields[s.activePane.form.focus]? = some x ∧
    ∀ w ks, Typed w ks → s.pressAll ks = .ok
      ⟨s.editForm s.active fun f ↦ f.withValue f.focus x (x.value ++ String.ofList w), false, []⟩
  /-- Erasing as many characters brings back the session as it was. -/
  erased : ∀ w ks ks', Typed w ks → Erases w.length ks' →
    s.pressAll (ks ++ ks') = .ok ⟨s, false, []⟩
  /-- With Control, three letters are shortcuts, and no other character does anything. -/
  control : ∀ c ∉ ['c', 'r', 'u'], ∀ m now, m.control = true →
    s.press (.char c) m now = .ok ⟨s, false, []⟩

/-- In the pane of the list, what is typed goes nowhere. -/
structure TypesNowhere (s : Session) : Prop where
  /-- The question mark opens the help, `q` quits, and no other character does anything.  Control
  makes no difference, but for three letters. -/
  press_char : ∀ c m now, (m.control = true → c ∉ ['c', 'r', 'u']) → s.press (.char c) m now =
    .ok ⟨if c = '?' then { s with mode := .help } else s, c == 'q', []⟩
  /-- There is nothing to erase. -/
  press_backspace : ∀ m now, s.press .backspace m now = .ok ⟨s, false, []⟩
  /-- So a text without a question mark changes nothing, and quits if it has a `q`. -/
  typed : ∀ w ks, Typed w ks → '?' ∉ w → s.pressAll ks = .ok ⟨s, w.contains 'q', []⟩
  /-- No text changes anything but whether the help is open. -/
  typed_any : ∀ w ks, Typed w ks → ∃ mode quit, s.pressAll ks = .ok ⟨{ s with mode }, quit, []⟩

/-- **Typed text arrives as it was typed**, whichever letters it has: in the focused input where
there are inputs, and nowhere in the pane of the list. -/
theorem typing_of_reachable {api : Api} {delay : Duration} {s : Session}
    (h : Session.Reachable api delay s) (hmode : s.mode = .normal) :
    (s.active ≠ .list → TypesInto s) ∧ (s.active = .list → TypesNowhere s) := by
  have hform := h.form_wellFormed s.active
  have hfields : s.activePane.form.fields ≠ [] ↔ s.active ≠ .list := by
    rw [← s.active.inputs_ne_nil_iff, ← hform.inputs_eq, Form.inputs, Ne, Ne, List.map_eq_nil_iff]
    rfl
  constructor
  · intro hactive
    obtain ⟨x, hx⟩ := hform.exists_focused (Form.hasFields_iff.2 (hfields.2 hactive))
    refine ⟨⟨x, hx, fun w ks hw ↦ ?_⟩, fun w ks ks' hw hks' ↦ ?_, fun c hc m now hm ↦
      s.press_of_control hmode hactive hc hm now⟩
    · rw [s.pressAll_of_isEditing hmode hactive (isEditing_of_typed hw), s.editFocused_eq hx,
        retypeAll_of_typed hw]
    · have hediting : ∀ k ∈ ks ++ ks', k.IsEditing := by
        rw [List.forall_mem_append]
        exact ⟨isEditing_of_typed hw, fun k hk ↦ .inr (hks'.2 k hk)⟩
      rw [s.pressAll_of_isEditing hmode hactive hediting,
        s.editFocused_id (retypeAll_of_typed_erases hw hks')]
  · intro hactive
    have hnone : s.activePane.form.fields = [] := not_ne_iff.1 fun h ↦ hfields.1 h hactive
    exact
      { press_char := fun _ _ now hm ↦ s.press_of_list hmode hactive hnone hm now
        press_backspace := s.press_backspace_of_list hmode hnone
        typed := fun _ _ ↦ s.pressAll_of_list hmode hactive hnone
        typed_any := fun _ _ ↦ s.exists_pressAll_of_list hactive hnone }

/-- Letters that are shortcuts elsewhere, typed behind a digit and erased again. -/
theorem typing_of_reachable_shortcuts : ∃ s : Session,
    Session.Reachable ⟨"http://api.test"⟩ (Duration.ofSeconds 5) s ∧ s.mode = .normal ∧
      s.active = .scale ∧ (s.pane .scale).form.value .replicas = "3" ∧
      (s.pressAll [⟨.char 'q', .none, 2⟩, ⟨.char '?', ⟨false, true, false⟩, 3⟩,
        ⟨.char 'r', ⟨false, false, true⟩, 4⟩]).map
          (fun p ↦ (p.quit, (p.session.pane .scale).form.value .replicas)) = .ok (false, "3q?r") ∧
      s.pressAll [⟨.char 'q', .none, 2⟩, ⟨.backspace, .none, 5⟩] = .ok ⟨s, false, []⟩ := by
  have hstart : Session.Reachable ⟨"http://api.test"⟩ (Duration.ofSeconds 5) _ := .start
  have hchosen := hstart.step (e := .choose .scale) nofun rfl
  have hmoved := hchosen.step (e := .key .down .none 0) nofun rfl
  have htyped := hmoved.step (e := .key (.char '3') .none 1) nofun rfl
  have hinto := (typing_of_reachable htyped rfl).1 (by nofun)
  obtain ⟨x, hx, htext⟩ := hinto.typed
  refine ⟨_, htyped, rfl, rfl, rfl, ?_, ?_⟩
  · have htyped : Typed ['q', '?', 'r'] [⟨.char 'q', .none, 2⟩,
        ⟨.char '?', ⟨false, true, false⟩, 3⟩, ⟨.char 'r', ⟨false, false, true⟩, 4⟩] :=
      .cons ⟨rfl, rfl⟩ (.cons ⟨rfl, rfl⟩ (.cons ⟨rfl, rfl⟩ .nil))
    cases hx
    rw [htext _ _ htyped]
    rfl
  · exact hinto.erased ['q'] [_] [_] (.cons ⟨rfl, rfl⟩ .nil) ⟨rfl, by simp⟩

end ClusterConsole
