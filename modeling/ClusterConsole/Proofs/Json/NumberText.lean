import ClusterConsole.Json.Printer
import ClusterConsole.Proofs.Json.Decimal
import ClusterConsole.Text.Decimal

/-!
# Every number that is written reads as a number

A number is written in one of several forms: whole, with a point, or with a point after the first
digit and an exponent.  Whichever form it is, the text reads as a number (`isNumber_text`), begins
with a digit or a minus sign, and is made of few characters (`isNumeral_of_mem_text`).

What reads as a decimal is put together from digits, a point and an exponent, so the forms are
covered by two lemmas, with a point (`isDecimal_point`) and without (`isDecimal_whole`).
-/

set_option autoImplicit false

namespace ClusterConsole
namespace Text

variable {ds fs e rest : List Char}

/-- The exponent of a number, if it has one. -/
inductive ExponentPart : List Char → Prop
  | none : ExponentPart []
  | some {s : List Char} (h : isDigits (dropSign s) = true) : ExponentPart ('e' :: s)

theorem ExponentPart.isExponent (h : ExponentPart e) : isExponent e = true := by
  cases h with
  | none => rfl
  | some h => exact h

theorem ExponentPart.not_digit (h : ExponentPart e) : ∀ c ∈ e.head?, c.isDigit = false := by
  cases h with
  | none => exact nofun
  | some h =>
    rintro c ⟨⟩
    rfl

theorem isDecimal_whole (hds : ∀ c ∈ ds, c.isDigit = true) (hne : ds ≠ [])
    (he : ExponentPart e) : isDecimal (ds ++ e) = true := by
  rw [isDecimal, takeWhile_append_eq hds he.not_digit, dropWhile_append_eq hds he.not_digit]
  cases he with
  | none => simpa [isExponent] using hne
  | some h => simpa [isExponent, h] using hne

theorem isDecimal_point (hds : ∀ c ∈ ds, c.isDigit = true) (hne : ds ≠ [])
    (hfs : ∀ c ∈ fs, c.isDigit = true) (he : ExponentPart e) :
    isDecimal (ds ++ '.' :: (fs ++ e)) = true := by
  have hpoint : ∀ c ∈ ('.' :: (fs ++ e)).head?, c.isDigit = false := by
    rintro c ⟨⟩
    rfl
  rw [isDecimal, takeWhile_append_eq hds hpoint, dropWhile_append_eq hds hpoint]
  simp [takeWhile_append_eq hfs he.not_digit, dropWhile_append_eq hfs he.not_digit,
    he.isExponent, hne]

/-- Digits have no sign. -/
theorem dropSign_of_digit {c : Char} (h : c.isDigit = true) : dropSign (c :: rest) = c :: rest := by
  refine dropSign.eq_3 _ (fun t ht ↦ ?_) (fun t ht ↦ ?_) <;>
  · cases ht
    exact absurd h (by decide)

theorem isDigits_toDigits (n : Nat) : isDigits (Nat.toDigits 10 n) = true := by
  obtain ⟨d, ds, hds, -⟩ := Json.exists_toDigits_eq_cons n
  have hall : ∀ c ∈ Nat.toDigits 10 n, c.isDigit = true := fun c ↦ Json.isDigit_of_mem_toDigits
  rw [isDigits, List.all_eq_true.2 hall, hds]
  rfl

end Text

namespace Json

open Text (isDecimal isNumber dropSign ExponentPart)

/-! ## Decimals -/

variable {ds : List Char}

theorem exponentPart (x : Int) : ExponentPart ('e' :: exponentText x) := by
  refine .some ?_
  rw [exponentText]
  split
  · exact Text.isDigits_toDigits _
  · next hx =>
    cases x with
    | ofNat m => exact absurd (Int.natCast_nonneg m) hx
    | negSucc m => exact Text.isDigits_toDigits _

/-- The characters that numbers are written with. -/
def isNumeral (c : Char) : Bool := c.isDigit || ['.', 'e', '+', '-'].contains c

/-- A decimal reads as one, begins with a digit, and is made of few characters. -/
structure IsDecimalText (s : List Char) : Prop where
  isDecimal_eq : isDecimal s = true
  head_digit : ∃ c rest, s = c :: rest ∧ c.isDigit = true
  isNumeral_of_mem : ∀ c ∈ s, isNumeral c = true

theorem isNumeral_of_isDigit {c : Char} (h : c.isDigit = true) : isNumeral c = true := by
  simp [isNumeral, h]

theorem isNumeral_of_mem_toDigits {n : Nat} {c : Char} (h : c ∈ Nat.toDigits 10 n) :
    isNumeral c = true := isNumeral_of_isDigit (isDigit_of_mem_toDigits h)

theorem isNumeral_of_mem_exponentText {x : Int} {c : Char} (h : c ∈ exponentText x) :
    isNumeral c = true := by
  rw [exponentText] at h
  split at h
  · rcases List.mem_cons.1 h with rfl | h
    · rfl
    · exact isNumeral_of_mem_toDigits h
  · cases x with
    | ofNat m => exact isNumeral_of_mem_toDigits h
    | negSucc m =>
      rcases List.mem_cons.1 h with rfl | h
      · rfl
      · exact isNumeral_of_mem_toDigits h

/-- Digits, a point and more digits. -/
theorem isDecimalText_point {ws fs : List Char} (hws : ∀ c ∈ ws, c.isDigit = true) (hne : ws ≠ [])
    (hfs : ∀ c ∈ fs, c.isDigit = true) : IsDecimalText (ws ++ '.' :: fs) where
  isDecimal_eq := by simpa using Text.isDecimal_point hws hne hfs .none
  head_digit := by
    obtain ⟨c, rest, rfl⟩ := List.exists_cons_of_ne_nil hne
    exact ⟨c, _, rfl, hws c (List.mem_cons_self ..)⟩
  isNumeral_of_mem c hc := by
    rcases List.mem_append.1 hc with hc | hc
    · exact isNumeral_of_isDigit (hws c hc)
    rcases List.mem_cons.1 hc with rfl | hc
    · rfl
    · exact isNumeral_of_isDigit (hfs c hc)

/-- Digits, with a point after the first of them, and an exponent. -/
theorem isDecimalText_scientific (hds : ∀ c ∈ ds, c.isDigit = true) (hne : ds ≠ []) (x : Int) :
    IsDecimalText (scientificDigits ds ++ 'e' :: exponentText x) := by
  obtain ⟨d, rest, rfl⟩ := List.exists_cons_of_ne_nil hne
  have hd : d.isDigit = true := hds d (List.mem_cons_self ..)
  have hone : ∀ c ∈ [d], c.isDigit = true := List.forall_mem_singleton.2 hd
  have hrest : ∀ c ∈ rest, c.isDigit = true := fun c hc ↦ hds c (List.mem_cons_of_mem d hc)
  have hexponent : ∀ c ∈ 'e' :: exponentText x, isNumeral c = true :=
    List.forall_mem_cons.2 ⟨rfl, fun _ ↦ isNumeral_of_mem_exponentText⟩
  cases rest with
  | nil =>
    refine ⟨Text.isDecimal_whole hone hne (exponentPart x), ⟨d, _, rfl, hd⟩, fun c hc ↦ ?_⟩
    rcases List.mem_append.1 hc with hc | hc
    · exact isNumeral_of_isDigit (hone c hc)
    · exact hexponent c hc
  | cons d' rest =>
    have htext : scientificDigits (d :: d' :: rest) ++ 'e' :: exponentText x =
        [d] ++ '.' :: ((d' :: rest) ++ 'e' :: exponentText x) := rfl
    rw [htext]
    refine ⟨Text.isDecimal_point hone (List.cons_ne_nil _ _) hrest (exponentPart x),
      ⟨d, _, rfl, hd⟩, fun c hc ↦ ?_⟩
    rcases List.mem_append.1 hc with hc | hc
    · exact isNumeral_of_isDigit (hone c hc)
    rcases List.mem_cons.1 hc with rfl | hc
    · rfl
    rcases List.mem_append.1 hc with hc | hc
    · exact isNumeral_of_isDigit (hrest c hc)
    · exact hexponent c hc

theorem isDecimalText_decimalText (hds : ∀ c ∈ ds, c.isDigit = true) (hne : ds ≠ [])
    (places : Int) : IsDecimalText (decimalText ds places) := by
  have hzeros : ∀ n, ∀ c ∈ List.replicate n '0', c.isDigit = true := by
    intro n c hc
    rw [List.eq_of_mem_replicate hc]
    rfl
  have happend : ∀ {s t : List Char}, (∀ c ∈ s, c.isDigit = true) → (∀ c ∈ t, c.isDigit = true) →
      ∀ c ∈ s ++ t, c.isDigit = true := by
    intro s t hs ht c hc
    exact (List.mem_append.1 hc).elim (hs c) (ht c)
  have hzero : ∀ c ∈ ['0'], c.isDigit = true := List.forall_mem_singleton.2 rfl
  rw [decimalText]
  split
  · exact isDecimalText_scientific hds hne _
  split
  · -- all digits stand behind the point
    have htext := isDecimalText_point hzero (List.cons_ne_nil _ _)
      (happend (hzeros (-(ds.length + places)).toNat) hds)
    simpa using htext
  split
  · have htext := isDecimalText_point (happend hds (hzeros places.toNat)) (by simp [hne]) hzero
    simpa using htext
  · next hpoint hplaces =>
    refine isDecimalText_point (fun c hc ↦ hds c (List.mem_of_mem_take hc)) ?_
      (fun c hc ↦ hds c (List.mem_of_mem_drop hc))
    have hlength := List.length_pos_iff.2 hne
    rw [Ne, List.take_eq_nil_iff]
    rintro (hnil | hnil)
    · omega
    · exact hne hnil

theorem isDecimalText_magnitudeText (x : Binary64) : IsDecimalText (magnitudeText x) := by
  have hzero : ∀ c ∈ ['0'], c.isDigit = true := List.forall_mem_singleton.2 rfl
  rw [magnitudeText]
  split
  · exact isDecimalText_point hzero (List.cons_ne_nil _ _) hzero
  · exact isDecimalText_decimalText (fun c ↦ isDigit_of_mem_toDigits) (by simp) _

theorem isDecimalText_toDigits (n : Nat) : IsDecimalText (Nat.toDigits 10 n) := by
  have hall : ∀ c ∈ Nat.toDigits 10 n, c.isDigit = true := fun c ↦ isDigit_of_mem_toDigits
  obtain ⟨d, ds, hds, -⟩ := exists_toDigits_eq_cons n
  refine ⟨?_, ⟨d, ds, hds, hall d (hds ▸ List.mem_cons_self ..)⟩,
    fun c hc ↦ isNumeral_of_isDigit (hall c hc)⟩
  simpa using Text.isDecimal_whole hall (by simp [hds]) .none

/-! ## Numbers -/

/-- A number is written as a decimal, perhaps with a minus sign before it. -/
theorem exists_text_eq (n : Number) :
    ∃ s, IsDecimalText s ∧ (n.text = s ∨ n.text = '-' :: s) := by
  cases n with
  | whole n =>
    cases n with
    | ofNat m => exact ⟨_, isDecimalText_toDigits m, .inl rfl⟩
    | negSucc m => exact ⟨_, isDecimalText_toDigits (m + 1), .inr rfl⟩
  | real negative x =>
    cases negative with
    | false => exact ⟨_, isDecimalText_magnitudeText x, .inl rfl⟩
    | true => exact ⟨_, isDecimalText_magnitudeText x, .inr rfl⟩

/-- **Whatever number is written, its text reads as a number.** -/
theorem isNumber_text (n : Number) : isNumber n.text = true := by
  obtain ⟨s, hs, htext⟩ := exists_text_eq n
  have hsign : dropSign n.text = s := by
    rcases htext with htext | htext
    · obtain ⟨c, rest, hc, hdigit⟩ := hs.head_digit
      rw [htext, hc, Text.dropSign_of_digit hdigit]
    · rw [htext]
      rfl
  simp [isNumber, hsign, hs.isDecimal_eq]

theorem isNumeral_of_mem_text {n : Number} {c : Char} (h : c ∈ n.text) : isNumeral c = true := by
  obtain ⟨s, hs, htext | htext⟩ := exists_text_eq n
  · exact hs.isNumeral_of_mem c (htext ▸ h)
  · rw [htext] at h
    rcases List.mem_cons.1 h with rfl | h
    · rfl
    · exact hs.isNumeral_of_mem c h

theorem exists_text_eq_cons (n : Number) :
    ∃ c rest, n.text = c :: rest ∧ (c = '-' ∨ c.isDigit = true) := by
  obtain ⟨s, hs, htext | htext⟩ := exists_text_eq n
  · obtain ⟨c, rest, hc, hdigit⟩ := hs.head_digit
    exact ⟨c, rest, htext.trans hc, .inr hdigit⟩
  · exact ⟨'-', s, htext, .inl rfl⟩

end Json
end ClusterConsole
