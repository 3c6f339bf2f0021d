import ClusterConsole.Proofs.Json.RoundTrip

/-!
# What is read can be written

Reading a text leaves little to be put in order about the value.  Arrays and objects are nested at
most as deep as the reader goes, and the members of an object are in the order of their names,
whatever order the text has them in.  So a value that was read is tidy unless one of its numbers
might not survive being written, which is so for doubles.

* `Integral` says that there are no such numbers.
* `tidy_of_parse` is the main result.  It is an induction on how deep the reader may still go; for
  what stands in brackets it needs to know of any loop only that it keeps what every item or member
  keeps (`forall_of_readItems`, `of_readMembers`).
-/

set_option autoImplicit false

namespace ClusterConsole
namespace Json

/-- All numbers of a value are whole ones that fit a word, or zeros with a sign.  The text `-0` is
read as such a zero, and all others that are written as whole numbers and fit a word as whole
ones. -/
inductive Integral : Value → Prop
  | null : Integral .null
  | bool (b : Bool) : Integral (.bool b)
  | number {n : Int} (hn : IsWord n) : Integral (.number (.whole n))
  | zero (negative : Bool) : Integral (.number (.real negative .zero))
  | string (s : String) : Integral (.string s)
  | array {items : List Value} (h : ∀ v ∈ items, Integral v) : Integral (.array items)
  | object {ms : List (String × Value)} (h : ∀ m ∈ ms, Integral m.2) : Integral (.object ms)

/-! ## Loops -/

section

variable {α β : Type}

theorem Reading.andThen_eq_ok_iff {r : Reading α} {next : α → List Char → Reading β}
    {p : β × List Char} :
    r.andThen next = .ok p ↔ ∃ v rest, r = .ok (v, rest) ∧ next v rest = .ok p := by
  cases r with
  | error fault => simp [andThen]
  | ok q => simp [andThen, Prod.ext_iff]

/-- What holds of every item that can be read holds of the items of an array. -/
theorem forall_of_readItems {P : α → Prop} {item : List Char → Reading α}
    (hitem : ∀ s v rest, item s = .ok (v, rest) → P v) {k : Nat} :
    ∀ {done vs : List α} {s rest : List Char}, (∀ v ∈ done, P v) →
      readItems item k done s = .ok (vs, rest) → ∀ v ∈ vs, P v := by
  induction k with
  | zero =>
    intro done vs s rest _ h
    rw [readItems] at h
    cases h
  | succ k ih =>
    intro done vs s rest hdone h
    have hnext : ∀ t, readItems.next item k done t = .ok (vs, rest) → ∀ v ∈ vs, P v := by
      intro t ht
      rw [readItems.next] at ht
      obtain ⟨v, u, hv, hmore⟩ := Reading.andThen_eq_ok_iff.1 ht
      exact ih (List.forall_mem_cons.2 ⟨hitem t v u hv, hdone⟩) hmore
    rw [readItems] at h
    split at h
    · cases h
    · cases h
      simpa using hdone
    · split at h
      · exact hnext _ h
      split at h
      · split at h
        · cases h
        · cases h
        · exact hnext _ h
      · cases h

/-- What every member keeps is kept up to the end of an object. -/
theorem of_readMembers {P : α → Prop} {member : α → String → List Char → Reading α}
    (hmember : ∀ g name s g' rest, P g → member g name s = .ok (g', rest) → P g') {k : Nat} :
    ∀ {first : Bool} {g g' : α} {s rest : List Char}, P g →
      readMembers member k first g s = .ok (g', rest) → P g' := by
  induction k with
  | zero =>
    intro first g g' s rest _ h
    rw [readMembers] at h
    cases h
  | succ k ih =>
    intro first g g' s rest hg h
    have hnext : ∀ t, readMembers.next member k g t = .ok (g', rest) → P g' := by
      intro t ht
      rw [readMembers.next.eq_def] at ht
      split at ht
      · obtain ⟨name, u, -, hname⟩ := Reading.andThen_eq_ok_iff.1 ht
        obtain ⟨g'', w, hg'', hmore⟩ := Reading.andThen_eq_ok_iff.1 hname
        exact ih (hmember g name u g'' w hg hg'') hmore
      · cases ht
    rw [readMembers] at h
    split at h
    · cases h
    · cases h
      exact hg
    · split at h
      · exact hnext _ h
      split at h
      · split at h
        · cases h
        · cases h
        · exact hnext _ h
      · cases h

end

/-! ## Values -/

variable {fuel d : Nat} {s rest : List Char} {v : Value}

theorem eq_of_readConstant {word : List Char} {w : Value}
    (h : readConstant word w s = .ok (v, rest)) : v = w := by
  rw [readConstant] at h
  split at h <;> cases h
  rfl

/-- **What is read is tidy if its numbers survive being written.** -/
theorem tidy_of_readValue (h : readValue fuel d s = .ok (v, rest)) (hv : Integral v) :
    Tidy d v := by
  induction d using Nat.strong_induction_on generalizing s rest v with
  | _ d ih =>
  rw [readValue] at h
  split at h
  · cases h
  · cases eq_of_readConstant h
    exact .null
  · cases eq_of_readConstant h
    exact .bool true
  · cases eq_of_readConstant h
    exact .bool false
  · obtain ⟨t, u, -, ht⟩ := Reading.andThen_eq_ok_iff.1 h
    cases ht
    exact .string t
  · split at h
    · cases h
    next d =>
    obtain ⟨items, u, hitems, hu⟩ := Reading.andThen_eq_ok_iff.1 h
    cases hu
    cases hv with
    | array hv =>
    have hread := forall_of_readItems (P := fun w ↦ Integral w → Tidy d w)
      (fun _ w _ hw ↦ ih d d.lt_succ_self hw) (List.forall_mem_nil _) hitems
    exact .array fun w hw ↦ hread w hw (hv w hw)
  · split at h
    · cases h
    next d =>
    obtain ⟨ms, u, hms, hu⟩ := Reading.andThen_eq_ok_iff.1 h
    cases hu
    -- of several members with the same name only one is left, but all of them were read
    have hread : ∀ m ∈ ms, Integral m.2 → Tidy d m.2 := by
      refine of_readMembers (P := fun g ↦ ∀ m ∈ g, Integral m.2 → Tidy d m.2) ?_
        (List.forall_mem_nil _) hms
      intro g name t g' w hg hmember
      rw [readMember] at hmember
      split at hmember
      · cases hmember
      obtain ⟨x, y, hx, hy⟩ := Reading.andThen_eq_ok_iff.1 hmember
      cases hy
      exact List.forall_mem_cons.2 ⟨ih d d.lt_succ_self hx, hg⟩
    obtain ⟨done, hdone, hordered, hmem⟩ := Value.exists_ofMembers ms.reverse
    rw [hdone] at hv ⊢
    cases hv with
    | object hv =>
    exact .object hordered fun m hm ↦ hread m (List.mem_reverse.1 (hmem m hm)) (hv m hm)
  · split at h
    · obtain ⟨n, u, -, hn⟩ := Reading.andThen_eq_ok_iff.1 h
      cases hn
      cases hv with
      | number hn => exact .number hn
      | zero negative => exact .zero negative
    · cases h

/-- **A text that can be parsed gives a value that is tidy if its numbers survive being
written.** -/
theorem tidy_of_parse (h : parse s = .ok v) (hv : Integral v) : Tidy maxDepth v := by
  rw [parse, finish.eq_def] at h
  split at h
  · cases h
  · next w rest hread =>
    split at h
    · cases h
      exact tidy_of_readValue hread hv
    · cases h

end Json
end ClusterConsole
