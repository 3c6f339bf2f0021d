import ClusterConsole.Proofs.Session.History

/-!
# What a form holds

Edits change the values of a form and its focus, but never which inputs it has.  So a form is known
by its operation, the texts in it and its focus, and emptying it always leads back to the blank form
(`Form.reset_eq_blank`).

* `Form.replay` makes several edits, one after the other.
* `Form.Holds` says that the inputs of a form hold given texts, and `Form.holds_filling` that every
  form of an operation can be filled with any texts.
-/

set_option autoImplicit false

namespace ClusterConsole

/-! ## Edits -/

/-- The form after several edits. -/
def Form.replay (f : Form) (es : List Edit) : Form := es.foldl (fun f e ↦ e.apply f) f

/-- The inputs of a form, without what has been entered. -/
def Form.inputs (f : Form) : List Input := f.fields.map Field.input

theorem Form.replay_append (f : Form) (es es' : List Edit) :
    f.replay (es ++ es') = (f.replay es).replay es' := List.foldl_append

/-- No edit turns a form into that of another operation. -/
theorem Edit.operation_apply (e : Edit) (f : Form) : (e.apply f).operation = f.operation := by
  cases e with
  | focusNext => rw [apply, Form.focusNext]; split <;> rfl
  | focusPrevious => rw [apply, Form.focusPrevious]; split <;> rfl
  | _ => rfl

theorem Form.operation_replay (f : Form) (es : List Edit) :
    (f.replay es).operation = f.operation := by
  induction es generalizing f with
  | nil => rfl
  | cons e rest ih => exact (ih (e.apply f)).trans (e.operation_apply f)

/-- No edit adds an input, or takes one away. -/
theorem Edit.inputs_apply (e : Edit) (f : Form) : (e.apply f).inputs = f.inputs := by
  have hmap : ∀ g : Field → Field, (∀ x, (g x).input = x.input) →
      (f.fields.map g).map Field.input = f.fields.map Field.input := by
    intro g hg
    rw [List.map_map]
    exact List.map_congr_left fun x _ ↦ hg x
  have hedit : ∀ change, (f.edit change).inputs = f.inputs := by
    intro change
    refine List.ext_getElem? fun i ↦ ?_
    simp only [Form.inputs, Form.edit, List.getElem?_map, List.getElem?_modify]
    cases f.fields[i]? with
    | none => rfl
    | some x => split <;> rfl
  cases e with
  | set key value =>
    refine hmap _ fun x ↦ ?_
    split <;> rfl
  | insert c => exact hedit _
  | backspace => exact hedit _
  | clear => exact hedit _
  | focusNext => rw [apply, Form.focusNext]; split <;> rfl
  | focusPrevious => rw [apply, Form.focusPrevious]; split <;> rfl
  | focus n => rfl
  | reset => exact hmap _ fun _ ↦ rfl

theorem Form.inputs_replay (f : Form) (es : List Edit) : (f.replay es).inputs = f.inputs := by
  induction es generalizing f with
  | nil => rfl
  | cons e rest ih => exact (ih (e.apply f)).trans (e.inputs_apply f)

@[simp] theorem Form.inputs_blank (o : Operation) : (blank o).inputs = o.inputs := by
  rw [inputs, blank, List.map_map]
  exact List.map_id _

/-- Emptying a form leads back to where it began. -/
theorem Form.reset_eq_blank {f : Form} {o : Operation} (ho : f.operation = o)
    (hinputs : f.inputs = o.inputs) : f.reset = blank o := by
  rw [blank, ← hinputs, inputs, List.map_map, ← ho]
  rfl

theorem Form.reset_blank (o : Operation) : (blank o).reset = blank o :=
  reset_eq_blank rfl (inputs_blank o)

/-- Emptying a form several times empties it. -/
theorem Form.replay_resets {α : Type} {f : Form} {o : Operation} (hf : f.reset = blank o)
    {l : List α} (hl : l ≠ []) : f.replay (l.map fun _ ↦ .reset) = blank o := by
  induction l generalizing f with
  | nil => exact absurd rfl hl
  | cons a rest ih =>
    have hstep : f.replay ((a :: rest).map fun _ ↦ .reset) =
        (blank o).replay (rest.map fun _ ↦ .reset) := by
      rw [← hf]
      rfl
    rw [hstep]
    cases rest with
    | nil => rfl
    | cons b rest => exact ih (reset_blank o) (List.cons_ne_nil b rest)

/-! ## Texts -/

namespace Form

/-- The form is that of an operation, and its inputs hold the given texts. -/
structure Holds (f : Form) (o : Operation) (texts : Key → String) : Prop where
  operation_eq : f.operation = o
  fields_eq : f.fields = o.inputs.map fun i ↦ ⟨i, texts i.key⟩

variable {f : Form} {o : Operation} {texts : Key → String}

/-- What is read for an input is the text it holds. -/
theorem Holds.value_eq (h : f.Holds o texts) {key : Key} (hkey : key ∈ o.inputs.map Input.key) :
    f.value key = texts key := by
  obtain ⟨i, hi, rfl⟩ := List.mem_map.1 hkey
  rw [value, h.fields_eq, List.find?_map]
  cases hfind : o.inputs.find? ((fun x : Field ↦ x.input.key == i.key) ∘
      fun i ↦ ⟨i, texts i.key⟩) with
  | none => simpa using List.find?_eq_none.1 hfind i hi
  | some j =>
    have hj : j.key = i.key := by simpa using List.find?_some hfind
    exact congrArg texts hj

/-- The edits that enter a text for each input of an operation. -/
def filling (o : Operation) (texts : Key → String) : List Edit :=
  o.inputs.map fun i ↦ .set i.key (texts i.key)

/-- Entering texts for several keys enters each where its key is. -/
theorem fields_replay_set (keys : List Key) (f : Form) (texts : Key → String) :
    (f.replay (keys.map fun k ↦ .set k (texts k))).fields =
      f.fields.map fun x ↦
        if x.input.key ∈ keys then { x with value := texts x.input.key } else x := by
  induction keys generalizing f with
  | nil => simp [replay]
  | cons k rest ih =>
    have hstep : f.replay ((k :: rest).map fun k ↦ .set k (texts k)) =
        (f.set k (texts k)).replay (rest.map fun k ↦ .set k (texts k)) := rfl
    rw [hstep, ih, set, List.map_map]
    refine List.map_congr_left fun x _ ↦ ?_
    by_cases hk : x.input.key = k <;> by_cases hrest : x.input.key ∈ rest <;>
      simp [Function.comp_apply, hk, hrest]

/-- A form can be filled, whatever it held before. -/
theorem holds_filling (ho : f.operation = o) (hinputs : f.inputs = o.inputs)
    (texts : Key → String) : (f.replay (filling o texts)).Holds o texts where
  operation_eq := (operation_replay f _).trans ho
  fields_eq := by
    have hkeys : filling o texts = (o.inputs.map Input.key).map fun k ↦ .set k (texts k) := by
      rw [List.map_map]
      rfl
    rw [hkeys, fields_replay_set, ← hinputs, inputs, List.map_map, List.map_map]
    refine List.map_congr_left fun x hx ↦ ?_
    exact if_pos (List.mem_map_of_mem hx)

end Form
end ClusterConsole
