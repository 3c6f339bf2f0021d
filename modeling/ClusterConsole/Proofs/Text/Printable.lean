import Mathlib.Data.Nat.Digits.Defs

/-!
# Printable characters

The blank and the ASCII characters that can be seen are safe everywhere: they end no line, take one
column each, and join no other character.  This module says which they are, and that fixed texts
and numerals are made of them.
-/

set_option autoImplicit false

namespace ClusterConsole
namespace Text

/-- The character is the blank, or an ASCII character that can be seen. -/
def Printable (c : Char) : Prop := c = ' ' ∨ ('!'.toNat ≤ c.toNat ∧ c.toNat ≤ '~'.toNat)

instance (c : Char) : Decidable (Printable c) := inferInstanceAs (Decidable (_ ∨ _))

theorem printable_iff {c : Char} : Printable c ↔ 0x20 ≤ c.toNat ∧ c.toNat < 0x7f := by
  have hblank : c = ' ' ↔ c.toNat = 0x20 := ⟨fun h ↦ h ▸ rfl, fun h ↦ Char.toNat_inj.1 h⟩
  have hfirst : '!'.toNat = 0x21 := rfl
  have hlast : '~'.toNat = 0x7e := rfl
  rw [Printable, hblank, hfirst, hlast]
  omega

theorem printable_of_all {s : String} (h : (s.toList.all fun c ↦ Printable c) = true) :
    ∀ c ∈ s.toList, Printable c := fun c hc ↦ of_decide_eq_true (List.all_eq_true.1 h c hc)

theorem printable_of_mem_toString {n : Nat} {c : Char} (h : c ∈ (toString n).toList) :
    Printable c := by
  rw [show (toString n).toList = Nat.toDigits 10 n from Nat.toList_repr] at h
  have hdigit : c.isDigit = true := Nat.isDigit_of_mem_toDigits (by decide) (by decide) h
  rw [Char.isDigit, Bool.and_eq_true, decide_eq_true_iff, decide_eq_true_iff] at hdigit
  have hlow : '0'.toNat ≤ c.toNat := hdigit.1
  have hhigh : c.toNat ≤ '9'.toNat := hdigit.2
  exact .inr ⟨Nat.le_trans (by decide) hlow, Nat.le_trans hhigh (by decide)⟩

end Text
end ClusterConsole
