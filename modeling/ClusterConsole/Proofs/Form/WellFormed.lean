import ClusterConsole.Proofs.Form
import Mathlib.Data.List.Nodup
import Mathlib.Logic.Function.Iterate

/-!
# Forms on which every edit acts

An edit of the input that has the focus does nothing if no input has it, and a lookup by key takes
the first input with that key.  Neither can go wrong in a form that has the inputs of its operation
and its focus on one of them.

* `Form.WellFormed` says this of a form.  Every edit keeps it (`WellFormed.apply`) but the one that
  puts the focus wherever it is told.
* `Form.Editable` says what can be relied on in such a form: which value an edit changes, where the
  focus goes, and what is looked up.  `WellFormed.editable` puts it together.
-/

set_option autoImplicit false

namespace ClusterConsole

/-- Does the edit put the focus on an input that is given by its number? -/
def Edit.IsJump (e : Edit) : Prop := ∃ n, e = .focus n

namespace Form

/-- A form has the inputs of its operation, and the focus is on one of them if there are any. -/
structure WellFormed (f : Form) (o : Operation) : Prop where
  operation_eq : f.operation = o
  inputs_eq : f.inputs = o.inputs
  focus_lt : f.fields ≠ [] → f.focus < f.fields.length
  focus_eq_zero : f.fields = [] → f.focus = 0

/-! ## Edits -/

variable {f : Form} {o : Operation}

theorem wellFormed_blank (o : Operation) : (blank o).WellFormed o where
  operation_eq := rfl
  inputs_eq := inputs_blank o
  focus_lt := List.length_pos_iff.2
  focus_eq_zero _ := rfl

theorem hasFields_iff : f.hasFields = true ↔ f.fields ≠ [] := by simp [hasFields]

theorem length_fields_apply (e : Edit) (f : Form) :
    (e.apply f).fields.length = f.fields.length := by
  simpa [inputs] using congrArg List.length (e.inputs_apply f)

/-- Wherever an edit takes the focus, it stays among the inputs. -/
theorem focus_apply {e : Edit} (he : ¬e.IsJump) :
    (e.apply f).focus = f.focus ∨ (e.apply f).focus = 0 ∨
      (e.apply f).focus < f.fields.length := by
  have hmod : ∀ k, f.hasFields = true → k % f.fields.length < f.fields.length := fun k h ↦
    Nat.mod_lt k (List.length_pos_iff.2 (hasFields_iff.1 h))
  cases e with
  | focusNext =>
    rw [Edit.apply, focusNext]
    split
    · next h => exact .inr (.inr (hmod _ h))
    · exact .inl rfl
  | focusPrevious =>
    rw [Edit.apply, focusPrevious]
    split
    · next h => exact .inr (.inr (hmod _ h))
    · exact .inl rfl
  | reset => exact .inr (.inl rfl)
  | focus n => exact absurd ⟨n, rfl⟩ he
  | set | insert | backspace | clear => exact .inl rfl

/-- **A form stays well-formed whatever is edited.** -/
theorem WellFormed.apply (h : f.WellFormed o) {e : Edit} (he : ¬e.IsJump) :
    (e.apply f).WellFormed o := by
  have hlength := length_fields_apply e f
  have hfocus := focus_apply (f := f) he
  refine ⟨(e.operation_apply f).trans h.operation_eq, (e.inputs_apply f).trans h.inputs_eq,
    fun hne ↦ ?_, fun hnil ↦ ?_⟩
  · have hpos : 0 < f.fields.length := hlength ▸ List.length_pos_iff.2 hne
    have hold := h.focus_lt (List.ne_nil_of_length_pos hpos)
    omega
  · have hzero : f.fields.length = 0 := by rw [← hlength, hnil, List.length_nil]
    have hold := h.focus_eq_zero (List.eq_nil_of_length_eq_zero hzero)
    omega

theorem WellFormed.replay (h : f.WellFormed o) {es : List Edit} (hes : ∀ e ∈ es, ¬e.IsJump) :
    (f.replay es).WellFormed o := by
  induction es generalizing f with
  | nil => exact h
  | cons e rest ih =>
    rw [List.forall_mem_cons] at hes
    exact ih (h.apply hes.1) hes.2

/-! ## The input that has the focus -/

/-- The form with another value for one of its inputs. -/
def withValue (f : Form) (i : Nat) (x : Field) (value : String) : Form :=
  { f with fields := f.fields.set i { x with value } }

/-- An edit of the focused value replaces that value. -/
theorem edit_eq_withValue {x : Field} (hx : f.fields[f.focus]? = some x)
    (change : String → String) : f.edit change = f.withValue f.focus x (change x.value) := by
  rw [edit, withValue, List.modify_eq_set_getElem?, hx]
  rfl

/-- Exactly one input has the focus. -/
theorem WellFormed.exists_focused (h : f.WellFormed o) (hf : f.hasFields = true) :
    ∃ x, f.fields[f.focus]? = some x :=
  ⟨_, List.getElem?_eq_getElem (h.focus_lt (hasFields_iff.1 hf))⟩

/-! ## Moving the focus -/

theorem focusNext_eq (hf : f.hasFields = true) :
    f.focusNext = { f with focus := (f.focus + 1) % f.fields.length } := if_pos hf

theorem focusPrevious_eq (hf : f.hasFields = true) :
    f.focusPrevious = { f with focus := (f.focus + f.fields.length - 1) % f.fields.length } :=
  if_pos hf

/-- Without inputs the focus cannot be moved. -/
theorem focus_fixed (hf : f.hasFields ≠ true) : f.focusNext = f ∧ f.focusPrevious = f :=
  ⟨if_neg hf, if_neg hf⟩

theorem WellFormed.focusPrevious_focusNext (h : f.WellFormed o) :
    f.focusNext.focusPrevious = f := by
  by_cases hf : f.hasFields = true
  · have hlt := h.focus_lt (hasFields_iff.1 hf)
    have hfocus : ((f.focus + 1) % f.fields.length + f.fields.length - 1) % f.fields.length =
        f.focus := by
      rcases Nat.lt_or_ge (f.focus + 1) f.fields.length with hnext | hlast
      · rw [Nat.mod_eq_of_lt hnext, show f.focus + 1 + f.fields.length - 1 =
          f.focus + f.fields.length by omega, Nat.add_mod_right, Nat.mod_eq_of_lt hlt]
      · rw [show f.focus + 1 = f.fields.length by omega, Nat.mod_self, Nat.zero_add,
          Nat.mod_eq_of_lt (by omega)]
        omega
    rw [focusNext_eq hf,
      focusPrevious_eq (f := { f with focus := (f.focus + 1) % f.fields.length }) hf]
    exact congrArg (Form.mk f.operation f.fields) hfocus
  · rw [(focus_fixed hf).1, (focus_fixed hf).2]

theorem WellFormed.focusNext_focusPrevious (h : f.WellFormed o) :
    f.focusPrevious.focusNext = f := by
  by_cases hf : f.hasFields = true
  · have hlt := h.focus_lt (hasFields_iff.1 hf)
    have hfocus : ((f.focus + f.fields.length - 1) % f.fields.length + 1) % f.fields.length =
        f.focus := by
      rw [Nat.mod_add_mod, show f.focus + f.fields.length - 1 + 1 = f.focus + f.fields.length by
        omega, Nat.add_mod_right, Nat.mod_eq_of_lt hlt]
    rw [focusPrevious_eq hf, focusNext_eq
      (f := { f with focus := (f.focus + f.fields.length - 1) % f.fields.length }) hf]
    exact congrArg (Form.mk f.operation f.fields) hfocus
  · rw [(focus_fixed hf).2, (focus_fixed hf).1]

/-- The focus goes round the inputs. -/
theorem WellFormed.iterate_focusNext (h : f.WellFormed o) (hf : f.hasFields = true) (n : Nat) :
    focusNext^[n] f = { f with focus := (f.focus + n) % f.fields.length } := by
  induction n with
  | zero =>
    have hlt := h.focus_lt (hasFields_iff.1 hf)
    exact congrArg (Form.mk f.operation f.fields) (Nat.mod_eq_of_lt hlt).symm
  | succ n ih =>
    rw [Function.iterate_succ_apply', ih, focusNext_eq (by exact hf)]
    refine congrArg (Form.mk f.operation f.fields) ?_
    rw [Nat.mod_add_mod, Nat.add_assoc]

/-- The focus is back where it was when it has passed every input. -/
theorem WellFormed.iterate_focusNext_length (h : f.WellFormed o) :
    focusNext^[f.fields.length] f = f := by
  by_cases hf : f.hasFields = true
  · have hlt := h.focus_lt (hasFields_iff.1 hf)
    rw [h.iterate_focusNext hf]
    refine congrArg (Form.mk f.operation f.fields) ?_
    rw [Nat.add_mod_right, Nat.mod_eq_of_lt hlt]
  · exact Function.iterate_fixed (focus_fixed hf).1 _

/-- As often as the focus moved to one side it can be moved back. -/
theorem WellFormed.iterate_focusPrevious_focusNext (h : f.WellFormed o) (n : Nat) :
    focusPrevious^[n] (focusNext^[n] f) = f := by
  induction n generalizing f with
  | zero => rfl
  | succ n ih =>
    have hnext : f.focusNext.WellFormed o := h.apply (e := .focusNext) nofun
    rw [Function.iterate_succ_apply', Function.iterate_succ_apply, ih hnext,
      h.focusPrevious_focusNext]

theorem WellFormed.iterate_focusPrevious_length (h : f.WellFormed o) :
    focusPrevious^[f.fields.length] f = f := by
  have hback := h.iterate_focusPrevious_focusNext f.fields.length
  rwa [h.iterate_focusNext_length] at hback

/-! ## Values by their keys -/

theorem nodup_keys (o : Operation) : (o.inputs.map Input.key).Nodup := by cases o <;> decide

theorem WellFormed.keys_eq (h : f.WellFormed o) :
    f.fields.map (fun x ↦ x.input.key) = o.inputs.map Input.key := by
  rw [← h.inputs_eq, inputs, List.map_map]
  rfl

theorem WellFormed.eq_of_key (h : f.WellFormed o) {x y : Field} (hx : x ∈ f.fields)
    (hy : y ∈ f.fields) (hkey : x.input.key = y.input.key) : x = y := by
  have hnodup : (f.fields.map fun x ↦ x.input.key).Nodup := h.keys_eq ▸ nodup_keys o
  exact List.inj_on_of_nodup_map hnodup hx hy hkey

theorem WellFormed.value_eq (h : f.WellFormed o) {x : Field} (hx : x ∈ f.fields) :
    f.value x.input.key = x.value := by
  rw [value]
  split
  · next y hy =>
    have hkey : y.input.key = x.input.key := by simpa using List.find?_some hy
    rw [h.eq_of_key (List.mem_of_find?_eq_some hy) hx hkey]
  · next hnone => simpa using List.find?_eq_none.1 hnone x hx

/-- Nothing is looked up for a key that no input has. -/
theorem value_eq_empty {key : Key} (hkey : ∀ x ∈ f.fields, x.input.key ≠ key) :
    f.value key = "" := by
  have hnone : f.fields.find? (fun x ↦ x.input.key == key) = none :=
    List.find?_eq_none.2 fun x hx ↦ by simpa using hkey x hx
  rw [value, hnone]

/-! ## All together -/

/-- What can be relied on when a form is edited. -/
structure Editable (f : Form) : Prop where
  /-- One input has the focus, if there are any.  Typing, erasing and clearing change the value of
  that input and leave everything else as it is. -/
  edit_focused : f.hasFields = true → ∃ x, f.fields[f.focus]? = some x ∧
    (∀ c, f.insert c = f.withValue f.focus x (x.value.push c)) ∧
    f.backspace = f.withValue f.focus x (String.ofList x.value.toList.dropLast) ∧
    f.clear = f.withValue f.focus x ""
  /-- Going on and going back undo each other. -/
  focusPrevious_focusNext : f.focusNext.focusPrevious = f
  focusNext_focusPrevious : f.focusPrevious.focusNext = f
  /-- The focus goes from each input to the next, and is back after as many steps as there are
  inputs. -/
  focus_round : f.hasFields = true → ∀ n, (focusNext^[n] f).focus =
    (f.focus + n) % f.fields.length
  focusNext_length : focusNext^[f.fields.length] f = f
  focusPrevious_length : focusPrevious^[f.fields.length] f = f
  /-- Going back subtracts no more than there is, so it goes back by one modulo the number of
  inputs. -/
  focus_back : f.hasFields = true → 1 ≤ f.focus + f.fields.length ∧
    (f.focusPrevious.focus : Int) = ((f.focus : Int) - 1) % f.fields.length
  /-- What is looked up for the key of an input is its value, and no other input has that key. -/
  value_of_key : ∀ x ∈ f.fields, f.value x.input.key = x.value ∧
    ∀ y ∈ f.fields, y.input.key = x.input.key → y = x
  value_of_no_key : ∀ key, (∀ x ∈ f.fields, x.input.key ≠ key) → f.value key = ""

/-- **Every edit of a well-formed form does what it should.** -/
theorem WellFormed.editable (h : f.WellFormed o) : f.Editable where
  edit_focused hf := by
    obtain ⟨x, hx⟩ := h.exists_focused hf
    exact ⟨x, hx, fun c ↦ edit_eq_withValue hx _, edit_eq_withValue hx _, edit_eq_withValue hx _⟩
  focusPrevious_focusNext := h.focusPrevious_focusNext
  focusNext_focusPrevious := h.focusNext_focusPrevious
  focus_round hf n := by rw [h.iterate_focusNext hf]
  focusNext_length := h.iterate_focusNext_length
  focusPrevious_length := h.iterate_focusPrevious_length
  focus_back hf := by
    have hpos := List.length_pos_iff.2 (hasFields_iff.1 hf)
    have hback : ((f.focus + f.fields.length - 1 : Nat) : Int) =
        (f.focus : Int) - 1 + f.fields.length := by omega
    refine ⟨by omega, ?_⟩
    rw [focusPrevious_eq hf, Int.natCast_emod, hback, Int.add_emod_right]
  value_of_key _ hx := ⟨h.value_eq hx, fun _ hy ↦ h.eq_of_key hy hx⟩
  value_of_no_key _ := value_eq_empty

end Form
end ClusterConsole
