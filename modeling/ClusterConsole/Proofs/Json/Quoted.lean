import ClusterConsole.Json.Quoted
import ClusterConsole.Proofs.Text.Percent

/-!
# Strings survive being quoted

`Quoted.read_encode`: the quoted form of a string is read back as that string, whatever characters
are in it.  Every character is written as something the reader takes in one turn
(`Quoted.readFrom_encodeChar`), so the fuel that a string needs is one more than its length.
-/

set_option autoImplicit false

namespace ClusterConsole
namespace Json
namespace Quoted

open Text.Percent (hexValue?)

theorem hexValue?_hexDigit {n : Nat} (h : n < 16) : hexValue? (hexDigit n) = some n := by
  have hall : ∀ n < 16, hexValue? (hexDigit n) = some n := by decide
  exact hall n h

/-- The escape of a control character is read as that character. -/
theorem readEscape_control {c : Char} (h : c.toNat < 32) (rest : List Char) :
    readEscape ('u' :: '0' :: '0' :: hexDigit (c.toNat / 16) :: hexDigit (c.toNat % 16) :: rest) =
      .ok (c, rest) := by
  have hzero : hexValue? '0' = some 0 := rfl
  have hcode : readCode ('0' :: '0' :: hexDigit (c.toNat / 16) :: hexDigit (c.toNat % 16) :: rest) =
      .ok (c.toNat, rest) := by
    have hvalue : ((0 * 16 + 0) * 16 + c.toNat / 16) * 16 + c.toNat % 16 = c.toNat := by omega
    rw [readCode, hzero, hexValue?_hexDigit (by omega), hexValue?_hexDigit (by omega)]
    simp only [hvalue]
  have hlow : isLow c.toNat = false := by
    simp only [isLow, Bool.and_eq_false_iff, decide_eq_false_iff_not]
    omega
  have hhigh : isHigh c.toNat = false := by
    simp only [isHigh, Bool.and_eq_false_iff, decide_eq_false_iff_not]
    omega
  rw [readEscape, hcode, Reading.andThen, hlow, hhigh, Char.ofNat_toNat]
  rfl

/-- What is written for a character is read as that character. -/
theorem readFrom_encodeChar (fuel : Nat) (done : List Char) (c : Char) (rest : List Char) :
    readFrom (fuel + 1) done (encodeChar c ++ rest) = readFrom fuel (c :: done) rest := by
  fun_cases encodeChar c with
  | case8 _ _ _ _ _ _ _ _ hcontrol =>
    rw [List.cons_append, readFrom]
    exact congrArg (fun r ↦ Reading.andThen r fun c rest ↦ readFrom fuel (c :: done) rest)
      (readEscape_control hcontrol rest)
  | case9 _ hquote hbackslash _ _ _ _ _ hplain =>
    rw [List.cons_append, List.nil_append, readFrom, if_neg hplain]
    · exact hquote
    · exact hbackslash
  | _ => rfl

theorem length_encodeChar_pos (c : Char) : 0 < (encodeChar c).length := by
  fun_cases encodeChar c <;> exact Nat.succ_pos _

/-- A string is no longer than what is written for it. -/
theorem length_le_flatMap_encodeChar (s : List Char) :
    s.length ≤ (s.flatMap encodeChar).length := by
  induction s with
  | nil => exact Nat.le_refl _
  | cons c rest ih =>
    have hc := length_encodeChar_pos c
    rw [List.flatMap_cons, List.length_append, List.length_cons]
    omega

theorem readFrom_flatMap_encodeChar (s : List Char) (rest : List Char) :
    ∀ {fuel : Nat} {done : List Char}, s.length < fuel →
      readFrom fuel done (s.flatMap encodeChar ++ '"' :: rest) =
        .ok (String.ofList (done.reverse ++ s), rest) := by
  induction s with
  | nil =>
    intro fuel done h
    obtain ⟨k, rfl⟩ := Nat.exists_eq_succ_of_ne_zero (Nat.ne_of_gt h)
    rw [List.append_nil]
    rfl
  | cons c s ih =>
    intro fuel done h
    obtain ⟨k, rfl⟩ := Nat.exists_eq_succ_of_ne_zero (Nat.ne_of_gt (Nat.zero_lt_of_lt h))
    rw [List.flatMap_cons, List.append_assoc, readFrom_encodeChar,
      ih (Nat.lt_of_succ_lt_succ h), List.reverse_cons, List.append_assoc]
    rfl

theorem encode_append (s rest : List Char) :
    encode s ++ rest = '"' :: (s.flatMap encodeChar ++ '"' :: rest) := by
  rw [encode, List.cons_append, List.append_assoc]
  rfl

/-- **A quoted string is read back as that string.** -/
theorem read_encode {s : List Char} {fuel : Nat} (h : s.length < fuel) (rest : List Char) :
    read fuel (s.flatMap encodeChar ++ '"' :: rest) = .ok (String.ofList s, rest) :=
  readFrom_flatMap_encodeChar s rest h

end Quoted
end Json
end ClusterConsole
