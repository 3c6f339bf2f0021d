import ClusterConsole.Proofs.Cluster.Spec
import ClusterConsole.Proofs.Text.Integer
import ClusterConsole.Submission

/-!
# What is left open is left out

A new cluster is described by an object that names only what the user filled in, so that the server
decides the rest.  `Omission` says for every input when its name is there and with which value: a
required input always, an optional text if it is not empty, and an optional number if it is one.
The inputs are listed by the names under which they are sent (`requiredInputs`, `textInputs` and
`numberInputs`), and numbers are told by their grammar (`IsNumber`), so nothing here depends on how
inputs are read.

`omission_ofFields` is the main result.  It holds for the object that is sent and for the one in the
order of the inputs, since their texts are read back as the same object.
-/

set_option autoImplicit false

namespace ClusterConsole

open Json (Value Tidy)
open Text.Numeral (fieldNumber?)

/-! ## The inputs by their names -/

namespace Spec

/-- The inputs that are always sent. -/
def requiredInputs : List (String × Key) :=
  [("tenant_org_id", .tenantOrgId), ("user", .user), ("service_name", .serviceName)]

/-- The texts that are sent unless they are empty. -/
def textInputs : List (String × Key) :=
  [("namespace", .ns), ("cpu_request", .cpuRequest), ("cpu_limit", .cpuLimit),
    ("mem_request", .memRequest), ("mem_limit", .memLimit), ("disk_size", .diskSize),
    ("gitlab_url", .gitlabUrl)]

/-- The inputs that are sent if they are numbers. -/
def numberInputs : List (String × Key) :=
  [("replicas", .replicas), ("gpu_count", .gpuCount), ("dimension", .dimension),
    ("vector_count", .vectorCount), ("index_limit", .indexLimit)]

theorem required_of_mem : ∀ i ∈ requiredInputs, i.2.name = i.1 ∧ i.2.shape = .required := by decide

theorem text_of_mem : ∀ i ∈ textInputs, i.2.name = i.1 ∧ i.2.shape = .text := by decide

theorem number_of_mem : ∀ i ∈ numberInputs, i.2.name = i.1 ∧ i.2.shape = .number := by decide

/-- There are no other inputs. -/
theorem name_mem_inputs (k : Key) :
    k.name ∈ (requiredInputs ++ textInputs ++ numberInputs).map Prod.fst := by
  cases k <;> decide

theorem map_numberInputs :
    numberInputs.map Prod.snd = Key.all.filter fun k ↦ k.shape == .number := by decide

end Spec

/-- A whole number of a signed word of 64 bits, written with a sign or none and perhaps with blanks
around it. -/
def IsNumber (text : String) (n : Int) : Prop :=
  (∃ core, Text.Padded text.toList core ∧ Text.Numeral.Signed core n) ∧
    -(2 ^ 63) ≤ n ∧ n < 2 ^ 63

theorem isNumber_iff {text : String} {n : Int} :
    IsNumber text n ↔ fieldNumber? text = some n :=
  Text.Numeral.fieldNumber?_eq_some_iff.symm

theorem fieldNumber?_eq_none_iff {text : String} :
    fieldNumber? text = none ↔ ¬∃ n, IsNumber text n := by
  rw [Option.eq_none_iff_forall_ne_some]
  simp [isNumber_iff]

namespace Shape

variable {text : String} {v : Value}

theorem value?_required_iff : required.value? text = some v ↔ v = .string text :=
  Option.some_inj.trans eq_comm

theorem value?_text_iff : Shape.text.value? text = some v ↔ text ≠ "" ∧ v = .string text := by
  by_cases hempty : text = ""
  · subst hempty
    exact ⟨nofun, fun h ↦ absurd rfl h.1⟩
  · rw [value?, if_neg (by simpa using hempty), and_iff_right hempty]
    exact Option.some_inj.trans eq_comm

theorem value?_number_iff :
    number.value? text = some v ↔ ∃ n, IsNumber text n ∧ v = .number (.whole n) := by
  rw [value?, Option.map_eq_some_iff]
  exact exists_congr fun n ↦ and_congr isNumber_iff.symm eq_comm

end Shape

/-! ## What is sent -/

/-- What the members `ms` of the object for a new cluster say about its inputs `f`, and what is
logged about those that are left out. -/
structure Omission (f : Fields) (ms : List (String × Value)) : Prop where
  nodup_names : (ms.map Prod.fst).Nodup
  /-- There is no name but those of the inputs. -/
  name_mem : ∀ m ∈ ms,
    m.1 ∈ (Spec.requiredInputs ++ Spec.textInputs ++ Spec.numberInputs).map Prod.fst
  /-- A required input is always sent, as it was entered. -/
  required_mem_iff : ∀ i ∈ Spec.requiredInputs, ∀ v, (i.1, v) ∈ ms ↔ v = .string (f.text i.2)
  /-- A text is sent as it was entered unless it is empty. -/
  text_mem_iff : ∀ i ∈ Spec.textInputs, ∀ v,
    (i.1, v) ∈ ms ↔ f.text i.2 ≠ "" ∧ v = .string (f.text i.2)
  /-- A number is sent as a number if it is one. -/
  number_mem_iff : ∀ i ∈ Spec.numberInputs, ∀ v,
    (i.1, v) ∈ ms ↔ ∃ n, IsNumber (f.text i.2) n ∧ v = .number (.whole n)
  ne_null : ∀ m ∈ ms, m.2 ≠ .null
  /-- Inputs that pass their check are sent without an empty text. -/
  ne_empty : ∀ spec, Submission.checkFields f = .ok spec →
    spec = .ofFields f ∧ ∀ m ∈ ms, m.2 ≠ .string ""
  /-- There is one warning for every input that should be a number, is not blank, and is left
  out. -/
  warnings_eq : ∃ ignored : List (String × Key), ignored.Sublist Spec.numberInputs ∧
    (∀ i ∈ Spec.numberInputs, i ∈ ignored ↔
      (∃ c ∈ (f.text i.2).toList, Text.isBlank c = false) ∧ ¬∃ n, IsNumber (f.text i.2) n) ∧
    f.warnings = ignored.map fun i ↦
      ⟨.warn, "Ignoring non-numeric value for " ++ i.1 ++ ": " ++ Text.quoted (f.text i.2)⟩

namespace Fields

variable {f : Fields}

theorem ignores_iff {i : String × Key} (hi : i ∈ Spec.numberInputs) :
    f.ignores i.2 = true ↔
      (∃ c ∈ (f.text i.2).toList, Text.isBlank c = false) ∧ ¬∃ n, IsNumber (f.text i.2) n := by
  have hblank : Text.trim (f.text i.2).toList ≠ [] ↔
      ∃ c ∈ (f.text i.2).toList, Text.isBlank c = false := by
    rw [Ne, Text.trim_eq_nil_iff]
    simp
  rw [ignores, (Spec.number_of_mem i hi).2, ← fieldNumber?_eq_none_iff, ← hblank]
  simp

/-- Every warning is about an input that should be a number. -/
theorem warnings_eq (f : Fields) :
    f.warnings = ((Spec.numberInputs.filter fun i ↦ f.ignores i.2).map Prod.snd).map f.warning := by
  have hnumbers : Key.all.filter f.ignores = (Spec.numberInputs.map Prod.snd).filter f.ignores := by
    rw [Spec.map_numberInputs, List.filter_filter]
    refine List.filter_congr fun k _ ↦ ?_
    rw [ignores]
    cases k.shape == Shape.number <;> simp
  rw [warnings, hnumbers, List.filter_map]
  rfl

end Fields

namespace Spec

variable {f : Fields} {ms : List (String × Value)}

/-- What stands under the name of an input is what is sent for it. -/
theorem mem_iff_of_name (h : ms.Perm (ofFields f).members) {i : String × Key}
    (hname : i.2.name = i.1) (v : Value) :
    (i.1, v) ∈ ms ↔ i.2.shape.value? (f.text i.2) = some v := by
  rw [← hname, h.mem_iff, mem_members]

/-- A member is sent for an input. -/
theorem exists_value?_of_mem (h : ms.Perm (ofFields f).members) {m : String × Value}
    (hm : m ∈ ms) : ∃ k : Key, m.1 = k.name ∧ k.shape.value? (f.text k) = some m.2 := by
  obtain ⟨⟨k, v⟩, he, rfl⟩ := List.mem_map.1 (h.mem_iff.1 hm)
  exact ⟨k, rfl, mem_entries.1 he⟩

/-- Inputs that pass their check have all required texts. -/
theorem eq_of_checkFields {spec : Spec} (h : Submission.checkFields f = .ok spec) :
    spec = ofFields f ∧ ∀ i ∈ requiredInputs, f.text i.2 ≠ "" := by
  have hne : ∀ {text : String}, ¬text.isEmpty = true → text ≠ "" := by
    rintro text hnot rfl
    exact hnot rfl
  rw [Submission.checkFields] at h
  split at h
  · exact nomatch h
  next htenant =>
  split at h
  · exact nomatch h
  next huser =>
  split at h
  · exact nomatch h
  next hservice =>
  refine ⟨(Except.ok.inj h).symm, ?_⟩
  simp only [requiredInputs, List.forall_mem_cons]
  exact ⟨hne htenant, hne huser, hne hservice, nofun⟩

/-- An empty text is sent only for a required input. -/
theorem required_of_empty {k : Key} (h : k.shape.value? (f.text k) = some (.string "")) :
    k.shape = .required ∧ f.text k = "" := by
  obtain ⟨hshape, hv⟩ | ⟨-, hne, hv⟩ | ⟨-, n, -, hv⟩ := Shape.of_value? h
  · exact ⟨hshape, (Value.string.inj hv).symm⟩
  · exact absurd (Value.string.inj hv).symm hne
  · exact nomatch hv

theorem mem_requiredInputs {k : Key} (h : k.shape = .required) : (k.name, k) ∈ requiredInputs := by
  cases k with
  | tenantOrgId | user | serviceName => decide
  | _ => exact nomatch h

end Spec

/-- The members say what they have to in any order. -/
theorem Omission.of_perm {f : Fields} {ms : List (String × Value)}
    (hperm : ms.Perm (Spec.ofFields f).members) : Omission f ms := by
  refine
    { nodup_names := (hperm.map Prod.fst).nodup_iff.2 Spec.nodup_members
      name_mem := fun m hm ↦ ?_
      required_mem_iff := fun i hi v ↦ ?_
      text_mem_iff := fun i hi v ↦ ?_
      number_mem_iff := fun i hi v ↦ ?_
      ne_null := fun m hm ↦ ?_
      ne_empty := fun spec hspec ↦ ?_
      warnings_eq := ?_ }
  · obtain ⟨k, hk, -⟩ := Spec.exists_value?_of_mem hperm hm
    exact hk ▸ Spec.name_mem_inputs k
  · obtain ⟨hname, hshape⟩ := Spec.required_of_mem i hi
    rw [Spec.mem_iff_of_name hperm hname, hshape, Shape.value?_required_iff]
  · obtain ⟨hname, hshape⟩ := Spec.text_of_mem i hi
    rw [Spec.mem_iff_of_name hperm hname, hshape, Shape.value?_text_iff]
  · obtain ⟨hname, hshape⟩ := Spec.number_of_mem i hi
    rw [Spec.mem_iff_of_name hperm hname, hshape, Shape.value?_number_iff]
  · obtain ⟨k, -, hk⟩ := Spec.exists_value?_of_mem hperm hm
    obtain ⟨-, hv⟩ | ⟨-, -, hv⟩ | ⟨-, n, -, hv⟩ := Shape.of_value? hk
    all_goals exact hv ▸ nofun
  · obtain ⟨rfl, hrequired⟩ := Spec.eq_of_checkFields hspec
    refine ⟨rfl, fun m hm hempty ↦ ?_⟩
    obtain ⟨k, -, hk⟩ := Spec.exists_value?_of_mem hperm hm
    obtain ⟨hshape, htext⟩ := Spec.required_of_empty (hempty ▸ hk)
    exact hrequired _ (Spec.mem_requiredInputs hshape) htext
  · refine ⟨Spec.numberInputs.filter fun i ↦ f.ignores i.2, List.filter_sublist, fun i hi ↦ ?_, ?_⟩
    · rw [List.mem_filter, and_iff_right hi, Fields.ignores_iff hi]
    · rw [Fields.warnings_eq, List.map_map]
      refine List.map_congr_left fun i hi ↦ ?_
      have hname := (Spec.number_of_mem i (List.mem_of_mem_filter hi)).1
      rw [Function.comp_apply, Fields.warning, hname]

/-- **What is left open is left out.**  The text of the object for a new cluster, with its members
in order of their names or in that of the inputs, is read back as an object that names just what was
filled in. -/
theorem omission_ofFields (f : Fields) :
    ∃ ms, (Spec.ofFields f).body = .object ms ∧
      Json.parse (Spec.ofFields f).body.compact = .ok (.object ms) ∧
      Json.parse (Spec.ofFields f).inOrder.compact = .ok (.object ms) ∧ Omission f ms := by
  obtain ⟨ms, hbody, hperm⟩ := Value.exists_ofMembers_perm (Spec.nodup_members (f := f))
  refine ⟨ms, hbody, hbody ▸ Spec.tidy_body.parse_compact, ?_, .of_perm hperm⟩
  rw [Spec.inOrder, Tidy.parse_compact_object, hbody]
  intro m hm
  obtain ⟨⟨k, v⟩, he, rfl⟩ := List.mem_map.1 hm
  exact Shape.tidy_of_value? (Spec.mem_entries.1 he)

end ClusterConsole
