import ClusterConsole.Text.Utf8
import Mathlib

/-!
# Cutting a text in two

A text is cut where its characters change from one kind to another (`takeWhile_append_eq` and
`dropWhile_append_eq`), or at a place that is counted in bytes.  Not every number of bytes is such a
place: `CutAt` says that a character ends there, and what the two slices are.
-/

set_option autoImplicit false

namespace ClusterConsole
namespace Text

/-! ## By the kind of the characters -/

section Kind

variable {p : Char → Bool} {s t : List Char}

/-- Nothing is dropped from a text that begins with another kind of character. -/
theorem dropWhile_eq_self (h : ∀ c ∈ s.head?, p c = false) : s.dropWhile p = s := by
  cases s with
  | nil => rfl
  | cons c rest => exact List.dropWhile_cons_of_neg (by simp [h c rfl])

/-- What is left does not begin with a character of the kind that was dropped. -/
theorem not_of_mem_head?_dropWhile {c : Char} (hc : c ∈ (s.dropWhile p).head?) : p c = false := by
  have hnot := List.head?_dropWhile_not p s
  rw [Option.mem_def.1 hc] at hnot
  exact hnot

/-- Where a text changes from characters of one kind to another kind, it is cut. -/
theorem takeWhile_append_eq (hs : ∀ c ∈ s, p c = true) (ht : ∀ c ∈ t.head?, p c = false) :
    (s ++ t).takeWhile p = s := by
  rw [List.takeWhile_append_of_pos hs]
  cases t with
  | nil => exact List.append_nil s
  | cons c rest => rw [List.takeWhile_cons_of_neg (by simp [ht c rfl]), List.append_nil]

theorem dropWhile_append_eq (hs : ∀ c ∈ s, p c = true) (ht : ∀ c ∈ t.head?, p c = false) :
    (s ++ t).dropWhile p = t := by
  rw [List.dropWhile_append_of_pos hs, dropWhile_eq_self ht]

end Kind

/-! ## By the number of bytes -/

/-- A text is cut after so many bytes: a character ends there, and these are the slices on both
sides. -/
structure CutAt (i : Nat) (s before after : List Char) : Prop where
  isValid : String.Pos.Raw.IsValid (String.ofList s) ⟨i⟩
  before_eq : String.Pos.Raw.extract (String.ofList s) 0 ⟨i⟩ = String.ofList before
  after_eq : String.Pos.Raw.extract (String.ofList s) ⟨i⟩ (String.ofList s).rawEndPos =
    String.ofList after

theorem byteCount_eq_utf8Len (s : List Char) : byteCount s = String.utf8Len s := by
  induction s with
  | nil => rfl
  | cons c s ih =>
    rw [String.utf8Len_cons, ← ih, Nat.add_comm]
    rfl

theorem byteCount_append (s t : List Char) : byteCount (s ++ t) = byteCount s + byteCount t := by
  simp only [byteCount_eq_utf8Len, String.utf8Len_append]

/-- Two texts put together can be cut where the first one ends. -/
theorem cutAt_append (before after : List Char) :
    CutAt (byteCount before) (before ++ after) before after where
  isValid := by
    refine String.Pos.Raw.isValid_iff_exists_append.2
      ⟨String.ofList before, String.ofList after, String.ofList_append, ?_⟩
    rw [String.rawEndPos, String.utf8ByteSize_ofList, byteCount_eq_utf8Len]
  before_eq := by
    have hextract := String.extract_of_valid [] before after
    simpa [byteCount_eq_utf8Len] using hextract
  after_eq := by
    have hextract := String.extract_of_valid before after []
    simpa [byteCount_eq_utf8Len, String.rawEndPos, String.utf8ByteSize_ofList] using hextract

end Text
end ClusterConsole
