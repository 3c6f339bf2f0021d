import ClusterConsole.Submission

/-!
# Forms

Every operation has a form with the inputs it needs; listing needs none.  One input of a form has
the focus, and what the user types goes there.

* `Input` is an input as it is labelled, and `Operation.inputs` lists those of an operation.
* `Form` adds what has been entered, and which input has the focus.
* `Form.submission` takes the inputs as they are, to be submitted.

A focus beyond the last input is no input's focus, so typing does nothing.
-/

set_option autoImplicit false

namespace ClusterConsole

/-- An input of a form: its key and label, whether it is required, and what is shown while it is
empty. -/
structure Input where
  key : Key
  label : String
  required : Bool
  placeholder : String
  deriving DecidableEq, Repr

/-- An input that has to be filled in. -/
def Input.needed (key : Key) (label : String) : Input := ⟨key, label, true, ""⟩

/-- An input that may stay empty. -/
def Input.optional (key : Key) (label placeholder : String) : Input :=
  ⟨key, label, false, placeholder⟩

/-- The inputs of an operation, from top to bottom. -/
def Operation.inputs : Operation → List Input
  | .create =>
    [.needed .tenantOrgId "Tenant org ID",
      .needed .user "User",
      .needed .serviceName "Service name",
      .optional .ns "Namespace" "server default",
      .optional .replicas "Replicas" "e.g. 3",
      .optional .cpuRequest "CPU request" "e.g. 500m",
      .optional .cpuLimit "CPU limit" "e.g. 2",
      .optional .memRequest "Memory request" "e.g. 1Gi",
      .optional .memLimit "Memory limit" "e.g. 2Gi",
      .optional .diskSize "Disk size" "e.g. 10Gi",
      .optional .gpuCount "GPU count" "e.g. 0",
      .optional .dimension "Vector dimension" "e.g. 128",
      .optional .vectorCount "Vector count" "e.g. 10000",
      .optional .indexLimit "Index limit" "e.g. 10",
      .optional .gitlabUrl "Gitlab URL" "optional"]
  | .delete => [.needed .ns "Namespace"]
  | .list => []
  | .details => [.needed .ns "Namespace"]
  | .scale => [.needed .ns "Namespace", .needed .replicas "Replicas"]

/-- An input and what has been entered for it. -/
structure Field where
  input : Input
  value : String
  deriving DecidableEq, Repr

/-- The form of an operation. -/
structure Form where
  operation : Operation
  fields : List Field
  focus : Nat
  deriving DecidableEq, Repr

namespace Form

/-- The form with nothing entered. -/
def blank (o : Operation) : Form := ⟨o, o.inputs.map fun i ↦ ⟨i, ""⟩, 0⟩

/-- Has the form any input? -/
def hasFields (f : Form) : Bool := !f.fields.isEmpty

/-- What has been entered for a key; nothing if the form has no such input. -/
def value (f : Form) (key : Key) : String :=
  match f.fields.find? fun x ↦ x.input.key == key with
  | some x => x.value
  | none => ""

/-- Enters a value for a key, if the form has such an input. -/
def set (f : Form) (key : Key) (value : String) : Form :=
  { f with fields := f.fields.map fun x ↦ if x.input.key = key then { x with value } else x }

/-- Moves the focus to the next input, and from the last to the first. -/
def focusNext (f : Form) : Form :=
  if f.hasFields then { f with focus := (f.focus + 1) % f.fields.length } else f

/-- Moves the focus to the input before, and from the first to the last. -/
def focusPrevious (f : Form) : Form :=
  if f.hasFields then
    { f with focus := (f.focus + f.fields.length - 1) % f.fields.length }
  else f

/-- Changes the value of the input that has the focus. -/
def edit (f : Form) (change : String → String) : Form :=
  { f with fields := f.fields.modify f.focus fun x ↦ { x with value := change x.value } }

/-- Adds a character to the input that has the focus. -/
def insert (f : Form) (c : Char) : Form := f.edit fun s ↦ s.push c

/-- Removes the last character of the input that has the focus. -/
def backspace (f : Form) : Form := f.edit fun s ↦ String.ofList s.toList.dropLast

/-- Empties the input that has the focus. -/
def clear (f : Form) : Form := f.edit fun _ ↦ ""

/-- Empties every input, and moves the focus to the first. -/
def reset (f : Form) : Form :=
  { f with fields := f.fields.map fun x ↦ { x with value := "" }, focus := 0 }

/-- The inputs for a new cluster, as far as the form has them. -/
def clusterFields (f : Form) : Fields := ⟨f.value⟩

/-- The form's inputs as they are now. -/
def submission (f : Form) : Submission :=
  match f.operation with
  | .create => .create f.clusterFields
  | .delete => .delete (f.value .ns)
  | .list => .list
  | .details => .details (f.value .ns)
  | .scale => .scale (f.value .ns) (f.value .replicas)

end Form
end ClusterConsole
