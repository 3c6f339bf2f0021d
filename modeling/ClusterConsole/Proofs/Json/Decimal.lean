import ClusterConsole.Json.Decimal
import ClusterConsole.Json.Printer
import ClusterConsole.Proofs.Text.Cut
import Mathlib

/-!
# Whole numbers survive being written

`readNumber_integerText`: the decimal text of a whole number that fits a word of 64 bits is read
back as that number, and stays whole.  What follows the text must not continue it (`EndsNumber`),
which neither a comma nor a bracket does.  A zero with a minus sign is a double, and
`readNumber_zero` says the same of the zeros among the doubles.

The digits are collected in a word that is watched for overflow at every step.  Since the value of
the digits so far never decreases, it is enough to know that the whole number fits.
-/

set_option autoImplicit false

namespace ClusterConsole
namespace Json

/-- A number of a word of 64 bits, of either signedness. -/
def IsWord (n : Int) : Prop := -(2 ^ 63) ≤ n ∧ n < 2 ^ 64

/-- The text does not continue a number. -/
def EndsNumber (s : List Char) : Prop :=
  ∀ c ∈ s.head?, c.isDigit = false ∧ c ≠ '.' ∧ c ≠ 'e' ∧ c ≠ 'E'

/-! ## Decimal digits -/

theorem isDigit_of_mem_toDigits {n : Nat} {c : Char} (h : c ∈ Nat.toDigits 10 n) :
    c.isDigit = true := Nat.isDigit_of_mem_toDigits (by decide) (by decide) h

theorem digitChar_ne_zero {n : Nat} (h : n < 10) (hn : 0 < n) : n.digitChar ≠ '0' := by
  have hall : ∀ n < 10, 0 < n → n.digitChar ≠ '0' := by decide
  exact hall n h hn

/-- The digits of a number do not begin with a zero, unless it is zero. -/
theorem exists_toDigits_eq_cons (n : Nat) :
    ∃ d ds, Nat.toDigits 10 n = d :: ds ∧ (0 < n → d ≠ '0') := by
  induction n using Nat.base_induction 10 (by decide) with
  | single m hm =>
    exact ⟨m.digitChar, [], Nat.toDigits_of_lt_base hm, digitChar_ne_zero hm⟩
  | digit m k hk hm ih =>
    obtain ⟨d, ds, hds, hd⟩ := ih
    refine ⟨d, ds ++ Nat.toDigits 10 k, ?_, fun _ ↦ hd hm⟩
    rw [← Nat.toDigits_append_toDigits (by decide) hm hk, hds, List.cons_append]

/-- Digits only add to the number read so far. -/
theorem le_ofDigitChars (word : Nat) (ds : List Char) : word ≤ Nat.ofDigitChars 10 ds word := by
  rw [Nat.ofDigitChars_eq_ofDigitChars_zero]
  have hpow : 1 * word ≤ 10 ^ ds.length * word :=
    Nat.mul_le_mul_right _ (Nat.one_le_pow _ _ (by decide))
  omega

namespace Decimal

variable {rest : List Char}

/-- All digits have room in the word if their number has. -/
theorem collect_eq {ds : List Char} :
    ∀ {word : Nat}, Nat.ofDigitChars 10 ds word ≤ maxWord →
      collect word ds = (Nat.ofDigitChars 10 ds word, []) := by
  induction ds with
  | nil =>
    intro word _
    rw [Nat.ofDigitChars_nil]
    rfl
  | cons c ds ih =>
    intro word h
    rw [Nat.ofDigitChars_cons] at h ⊢
    have hnext : 10 * word + (c.toNat - 48) ≤ maxWord := Nat.le_trans (le_ofDigitChars _ ds) h
    rw [collect, if_pos hnext]
    exact ih h

theorem collect_toDigits {n : Nat} (h : n ≤ maxWord) :
    collect 0 (Nat.toDigits 10 n) = (n, []) := by
  have hvalue : Nat.ofDigitChars 10 (Nat.toDigits 10 n) 0 = n := Nat.ofDigitChars_ten_toDigits
  rw [collect_eq (hvalue.symm ▸ h), hvalue]

/-! ## Reading the text -/

theorem digits_append {ds : List Char} (hds : ∀ c ∈ ds, c.isDigit = true)
    (h : EndsNumber rest) : digits (ds ++ rest) = (ds, rest) := by
  have hrest : ∀ c ∈ rest.head?, c.isDigit = false := fun c hc ↦ (h c hc).1
  rw [digits, Text.takeWhile_append_eq hds hrest, Text.dropWhile_append_eq hds hrest]

theorem readWhole_toDigits (atEnd : Cause) (n : Nat) (h : EndsNumber rest) :
    readWhole atEnd (Nat.toDigits 10 n ++ rest) = .ok (Nat.toDigits 10 n, rest) := by
  rcases Nat.eq_zero_or_pos n with rfl | hn
  · cases rest with
    | nil => rfl
    | cons c rest =>
      have hc := (h c rfl).1
      rw [Nat.toDigits_zero, List.singleton_append, readWhole]
      simp [hc]
  · obtain ⟨d, ds, hds, hd⟩ := exists_toDigits_eq_cons n
    have hall : ∀ c ∈ d :: ds, c.isDigit = true := fun c hc ↦
      isDigit_of_mem_toDigits (n := n) (hds ▸ hc)
    have hdigits : digits (d :: (ds ++ rest)) = (d :: ds, rest) := digits_append hall h
    rw [hds, List.cons_append, readWhole, if_pos (hall d (List.mem_cons_self ..)), hdigits]
    exact hd hn

theorem readFraction_of_ends (atEnd : Cause) (h : EndsNumber rest) :
    readFraction atEnd rest = .ok (none, rest) := by
  cases rest with
  | nil => rfl
  | cons c rest =>
    rw [readFraction]
    rintro t hc
    exact (h c rfl).2.1 (List.cons.inj hc).1

theorem readExponent_of_ends (atEnd : Cause) (h : EndsNumber rest) :
    readExponent atEnd rest = .ok (none, rest) := by
  cases rest with
  | nil => rfl
  | cons c rest =>
    rw [readExponent]
    · rintro t hc
      exact (h c rfl).2.2.1 (List.cons.inj hc).1
    · rintro t hc
      exact (h c rfl).2.2.2 (List.cons.inj hc).1

/-- Digits do not begin with a minus sign. -/
theorem sign_toDigits (n : Nat) (rest : List Char) :
    sign (Nat.toDigits 10 n ++ rest) = (false, Nat.toDigits 10 n ++ rest) := by
  obtain ⟨d, ds, hds, -⟩ := exists_toDigits_eq_cons n
  have hd : d.isDigit = true := isDigit_of_mem_toDigits (n := n) (hds ▸ List.mem_cons_self ..)
  rw [hds, List.cons_append, sign]
  rintro t hc
  rw [(List.cons.inj hc).1] at hd
  exact nomatch hd

/-- What an integer is taken apart into. -/
theorem read_integerText (atEnd : Cause) (n : Int) (h : EndsNumber rest) :
    read atEnd (integerText n ++ rest) =
      .ok (⟨decide (n < 0), Nat.toDigits 10 n.natAbs, none, none⟩, rest) := by
  have hread : ∀ (negative : Bool) (m : Nat) (s : List Char),
      sign s = (negative, Nat.toDigits 10 m ++ rest) →
      read atEnd s = .ok (⟨negative, Nat.toDigits 10 m, none, none⟩, rest) := by
    intro negative m s hs
    rw [read, hs]
    simp only [readWhole_toDigits atEnd m h, readFraction_of_ends atEnd h,
      readExponent_of_ends atEnd h, Reading.andThen]
  cases n with
  | ofNat m => exact hread false m _ (sign_toDigits m rest)
  | negSucc m =>
    rw [decide_eq_true (Int.negSucc_lt_zero m)]
    exact hread true (m + 1) ('-' :: (Nat.toDigits 10 (m + 1) ++ rest)) rfl

/-- An integer that fits a word is computed as it is. -/
theorem number?_integer {n : Int} (h : IsWord n) :
    number? ⟨decide (n < 0), Nat.toDigits 10 n.natAbs, none, none⟩ = .ok (.whole n) := by
  have hword : maxWord = 2 ^ 64 - 1 := rfl
  have hcollect := collect_toDigits (n := n.natAbs) (by rw [IsWord] at h; omega)
  have hwhole : whole? ⟨decide (n < 0), Nat.toDigits 10 n.natAbs, none, none⟩ = some n := by
    simp only [whole?, hcollect]
    cases n with
    | ofNat m => rfl
    | negSucc m =>
      have hm : m + 1 ≤ UInt64.size / 2 := by
        have := h.1
        change m + 1 ≤ 2 ^ 63
        omega
      rw [decide_eq_true (Int.negSucc_lt_zero m)]
      exact if_pos (Bool.and_eq_true_iff.2 ⟨decide_eq_true (Nat.succ_pos m), decide_eq_true hm⟩)
  rw [number?, hwhole]

end Decimal

/-- **The text of a whole number is read back as that number.** -/
theorem readNumber_integerText {n : Int} (h : IsWord n) {rest : List Char}
    (hrest : EndsNumber rest) : readNumber (integerText n ++ rest) = .ok (.whole n, rest) := by
  rw [readNumber, Decimal.read_integerText _ n hrest, Reading.andThen, Decimal.number?_integer h]

/-! ## Zeros -/

namespace Decimal

/-- What a zero that is not whole is taken apart into. -/
theorem read_zero (atEnd : Cause) (negative : Bool) {rest : List Char} (h : EndsNumber rest) :
    read atEnd ((Number.real negative .zero).text ++ rest) =
      .ok (⟨negative, ['0'], some ['0'], none⟩, rest) := by
  have hdigits : digits ('0' :: rest) = (['0'], rest) :=
    digits_append (List.forall_mem_singleton.2 (show Char.isDigit '0' = true by decide)) h
  have hfraction : readFraction atEnd ('.' :: '0' :: rest) = .ok (some ['0'], rest) := by
    simp only [readFraction, hdigits]
  have hwhole : readWhole atEnd ('0' :: '.' :: '0' :: rest) = .ok (['0'], '.' :: '0' :: rest) := rfl
  have hsign : sign ((Number.real negative .zero).text ++ rest) =
      (negative, '0' :: '.' :: '0' :: rest) := by
    cases negative <;> rfl
  simp only [read, hsign, hwhole, hfraction, readExponent_of_ends atEnd h, Reading.andThen]

end Decimal

/-- The text of a zero that is not whole is read back as that zero. -/
theorem readNumber_zero (negative : Bool) {rest : List Char} (hrest : EndsNumber rest) :
    readNumber ((Number.real negative .zero).text ++ rest) = .ok (.real negative .zero, rest) := by
  have hvalue : Decimal.number? ⟨negative, ['0'], some ['0'], none⟩ =
      .ok (.real negative .zero) := by
    cases negative <;> decide
  rw [readNumber, Decimal.read_zero _ negative hrest, Reading.andThen, hvalue]

end Json
end ClusterConsole
