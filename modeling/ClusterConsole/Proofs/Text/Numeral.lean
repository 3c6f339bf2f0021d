import ClusterConsole.Proofs.Except
import ClusterConsole.Text.Numeral
import Mathlib

/-!
# Numbers that are read are in range

What is read from digits is never beyond the limit it is read with (`le_of_digits`), so a number
field gives a signed word of 64 bits and a number of replicas an unsigned word of 32 bits.
-/

set_option autoImplicit false

namespace ClusterConsole
namespace Text
namespace Numeral

theorem le_of_digits {limit m : Nat} {s : List Char} :
    ∀ {n : Nat}, n ≤ limit → digits limit n s = .ok m → m ≤ limit := by
  induction s with
  | nil =>
    rintro n hn ⟨⟩
    exact hn
  | cons c rest ih =>
    intro n hn h
    rw [digits] at h
    split at h
    · exact nomatch h
    split at h
    · next hle => exact ih hle h
    · exact nomatch h

theorem le_of_magnitude {limit m : Nat} {s : List Char} (h : magnitude limit s = .ok m) :
    m ≤ limit := by
  rw [magnitude] at h
  split at h
  · exact nomatch h
  · exact le_of_digits (Nat.zero_le _) h

theorem le_of_natural {limit m : Nat} {s : List Char} (h : natural limit s = .ok m) :
    m ≤ limit := by
  rw [natural.eq_def] at h
  split at h
  · exact nomatch h
  · exact le_of_magnitude h
  · exact le_of_magnitude h

/-- A number of either sign is at least minus the bound, and below the bound. -/
theorem range_of_whole {bound : Nat} {n : Int} {s : List Char} (hbound : 0 < bound)
    (h : whole bound s = .ok n) : -(bound : Int) ≤ n ∧ n < bound := by
  have hnatural : ∀ {t : List Char},
      (magnitude (bound - 1) t).map Int.ofNat = .ok n → -(bound : Int) ≤ n ∧ n < bound := by
    intro t ht
    obtain ⟨m, hm, rfl⟩ := Except.exists_of_map_eq_ok ht
    have hle := le_of_magnitude hm
    rw [Int.ofNat_eq_natCast]
    omega
  rw [whole.eq_def] at h
  split at h
  · exact nomatch h
  · exact hnatural h
  · split at h
    · next m hm =>
      cases h
      have hle := le_of_magnitude hm
      omega
    · exact nomatch h
    · exact nomatch h
  · exact hnatural h

theorem eq_ok_of_toOption {ε α : Type} {x : Except ε α} {a : α} (h : x.toOption = some a) :
    x = .ok a := by
  cases x with
  | error e => exact nomatch h
  | ok b => exact congrArg Except.ok (Option.some.inj h)

/-- A number field is a signed word of 64 bits. -/
theorem range_of_fieldNumber? {s : String} {n : Int} (h : fieldNumber? s = some n) :
    -(2 ^ 63) ≤ n ∧ n < 2 ^ 63 := by
  have hwhole : whole (UInt64.size / 2) (trim s.toList) = .ok n := eq_ok_of_toOption h
  exact range_of_whole (by decide) hwhole

/-- A number of replicas is an unsigned word of 32 bits. -/
theorem lt_of_replicaCount? {s : String} {n : Nat} (h : replicaCount? s = some n) : n < 2 ^ 32 := by
  have hnatural : natural (UInt32.size - 1) (trim s.toList) = .ok n := eq_ok_of_toOption h
  exact Nat.lt_succ_of_le (le_of_natural hnatural)

end Numeral
end Text
end ClusterConsole
