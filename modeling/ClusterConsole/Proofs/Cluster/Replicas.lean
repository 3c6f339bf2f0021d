import ClusterConsole.Proofs.Cluster.Omission

/-!
# One text, two numbers of replicas

How many replicas a cluster has is asked for twice: as one of the numbers of a new cluster, and when
it is scaled.  The two are read by different readers.  One takes a minus sign and leaves out what is
no number; the other takes none, has room for a smaller word, and rejects what is no number.

`NumberText` says what both make of the same text, by the grammar of the numbers (`IsNumber`,
`IsCount`) and not by how they are read, and that wherever both can take a text they take it for the
same number.  `numberText` is the main result.
-/

set_option autoImplicit false

namespace ClusterConsole

open Text.Numeral (fieldNumber? replicaCount?)

/-- A whole number of an unsigned word of 32 bits, written with a plus sign or none and perhaps with
blanks around it. -/
def IsCount (text : String) (n : Nat) : Prop :=
  (∃ core, Text.Padded text.toList core ∧ Text.Numeral.Unsigned core n) ∧ n < 2 ^ 32

theorem isCount_iff {text : String} {n : Nat} : IsCount text n ↔ replicaCount? text = some n :=
  Text.Numeral.replicaCount?_eq_some_iff.symm

/-- Every count is a number. -/
theorem IsCount.isNumber {text : String} {n : Nat} (h : IsCount text n) : IsNumber text n := by
  obtain ⟨⟨core, hpadded, hcore⟩, hlt⟩ := h
  exact ⟨⟨core, hpadded, hcore.signed⟩, by omega, by omega⟩

/-- A number that is small enough and has no minus sign is a count. -/
theorem IsNumber.isCount {text : String} {n : Nat} (h : IsNumber text n) (hlt : n < 2 ^ 32)
    (hminus : '-' ∉ text.toList) : IsCount text n := by
  obtain ⟨⟨core, hpadded, hcore⟩, -, -⟩ := h
  obtain ⟨before, after, heq, -, -⟩ := hpadded.eq_append
  have hmem : '-' ∉ core := fun hc ↦ hminus (by simp [heq, hc])
  obtain ⟨m, hm, hunsigned⟩ := hcore.exists_unsigned hmem
  cases Int.ofNat.inj hm
  exact ⟨⟨core, hpadded, hunsigned⟩, hlt⟩

namespace Submission

variable {ns text : String} {n : Nat}

theorem checkScale_eq (hns : ns ≠ "") : checkScale ns text =
    (replicaCount? text).elim (.error .replicasNotANumber) fun n ↦ .ok (ns, n) := by
  have hchecked : checkNamespace ns = .ok ns := if_neg (by simpa using hns)
  cases hcount : replicaCount? text <;> simp [checkScale, hchecked, hcount]

theorem checkScale_eq_ok_iff (hns : ns ≠ "") :
    checkScale ns text = .ok (ns, n) ↔ IsCount text n := by
  rw [checkScale_eq hns, isCount_iff]
  cases replicaCount? text <;> simp

theorem checkScale_eq_error_iff (hns : ns ≠ "") :
    checkScale ns text = .error .replicasNotANumber ↔ ¬∃ n, IsCount text n := by
  rw [checkScale_eq hns]
  simp only [isCount_iff]
  cases replicaCount? text <;> simp

end Submission

/-- Are the inputs for a new cluster sent with this number for a key? -/
def Fields.Sends (f : Fields) (key : Key) (n : Int) : Prop :=
  (key.name, .number (.whole n)) ∈ (Spec.ofFields f).members

theorem Fields.sends_iff {f : Fields} {key : Key} {n : Int} (hkey : key.shape = .number) :
    f.Sends key n ↔ IsNumber (f.text key) n := by
  rw [Sends, Spec.mem_members, hkey, Shape.value?_number_iff]
  simp

theorem isNumber_integerText {n : Int} (hlow : -(2 ^ 63) ≤ n) (hhigh : n < 2 ^ 63) :
    IsNumber (String.ofList (Json.integerText n)) n := by
  have hsigned := Text.Numeral.signed_integerText n
  refine ⟨⟨Json.integerText n, ?_, hsigned⟩, hlow, hhigh⟩
  simpa using Text.Numeral.padded_of_signed hsigned

theorem isCount_integerText {n : Nat} (h : n < 2 ^ 32) :
    IsCount (String.ofList (Json.integerText n)) n := by
  have hunsigned := Text.Numeral.unsigned_integerText n
  refine ⟨⟨Json.integerText n, ?_, hunsigned⟩, h⟩
  simpa using Text.Numeral.padded_of_signed hunsigned.signed

/-- What is made of a text where a number is asked for. -/
structure NumberText (text : String) : Prop where
  /-- A number of a new cluster is a number of a signed word of 64 bits; all else is left out. -/
  field_iff : ∀ n, fieldNumber? text = some n ↔ IsNumber text n
  field_none_iff : fieldNumber? text = none ↔ ¬∃ n, IsNumber text n
  /-- A number of replicas to scale to is a number of an unsigned word of 32 bits; all else is
  rejected. -/
  scale_iff : ∀ ns n, ns ≠ "" → (Submission.checkScale ns text = .ok (ns, n) ↔ IsCount text n)
  scale_rejected_iff : ∀ ns, ns ≠ "" →
    (Submission.checkScale ns text = .error .replicasNotANumber ↔ ¬∃ n, IsCount text n)
  /-- What scaling accepts, a new cluster is sent with. -/
  create_of_scale : ∀ ns n, ns ≠ "" → Submission.checkScale ns text = .ok (ns, n) →
    ∀ f : Fields, ∀ key, key.shape = .number → f.text key = text → f.Sends key n
  /-- What a new cluster is sent with, scaling accepts if it is small enough and was entered without
  a minus sign. -/
  scale_of_create : ∀ (f : Fields) key (n : Nat), key.shape = .number → f.text key = text →
    f.Sends key n → n < 2 ^ 32 → '-' ∉ text.toList →
      ∀ ns, ns ≠ "" → Submission.checkScale ns text = .ok (ns, n)
  /-- The decimal text of a number is read as that number. -/
  field_decimal : ∀ n, -(2 ^ 63) ≤ n → n < 2 ^ 63 → text = String.ofList (Json.integerText n) →
    fieldNumber? text = some n
  scale_decimal : ∀ ns (n : Nat), ns ≠ "" → n < 2 ^ 32 →
    text = String.ofList (Json.integerText n) → Submission.checkScale ns text = .ok (ns, n)

/-- **A text stands for the same number wherever a number is asked for.** -/
theorem numberText (text : String) : NumberText text where
  field_iff _ := isNumber_iff.symm
  field_none_iff := fieldNumber?_eq_none_iff
  scale_iff _ _ := Submission.checkScale_eq_ok_iff
  scale_rejected_iff _ := Submission.checkScale_eq_error_iff
  create_of_scale ns n hns h f key hkey htext := by
    have hcount := (Submission.checkScale_eq_ok_iff hns).1 h
    rw [Fields.sends_iff hkey, htext]
    exact hcount.isNumber
  scale_of_create f key n hkey htext h hlt hminus ns hns := by
    rw [Fields.sends_iff hkey, htext] at h
    exact (Submission.checkScale_eq_ok_iff hns).2 (h.isCount hlt hminus)
  field_decimal := by
    rintro n hlow hhigh rfl
    exact isNumber_iff.1 (isNumber_integerText hlow hhigh)
  scale_decimal := by
    rintro ns n hns hlt rfl
    exact (Submission.checkScale_eq_ok_iff hns).2 (isCount_integerText hlt)

end ClusterConsole
