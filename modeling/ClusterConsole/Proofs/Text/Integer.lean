import ClusterConsole.Proofs.Json.Decimal
import ClusterConsole.Proofs.Text.Numeral

/-!
# Which texts are numbers

A number field is trimmed and then read with a limit, and reading stops at the first fault, so what
it accepts cannot be seen from how it is read.  Here it is said without reading anything: a text is
the number `n` if it is blanks, a sign or none, ASCII digits that count `n`, and blanks.

* `Padded` says what is left of a text without the blanks around it, and `trim_eq_iff` that this is
  what trimming gives.
* `Signed` says which number a text with a sign is, and `Unsigned` which one a text that takes no
  minus sign is.
* `fieldNumber?_eq_some_iff` is the main result: a number field accepts exactly the numbers of the
  size of a signed word of 64 bits.  `replicaCount?_eq_some_iff` says the same of a number of
  replicas, which is an unsigned word of 32 bits.
-/

set_option autoImplicit false

namespace ClusterConsole
namespace Text

/-! ## Blanks around a text -/

/-- Without the blanks around it, `core` is left of `s`. -/
structure Padded (s core : List Char) : Prop where
  eq_append : ∃ before after, s = before ++ core ++ after ∧
    (∀ c ∈ before, isBlank c = true) ∧ ∀ c ∈ after, isBlank c = true
  head_not_blank : ∀ c ∈ core.head?, isBlank c = false
  last_not_blank : ∀ c ∈ core.getLast?, isBlank c = false

theorem padded_trim (s : List Char) : Padded s (trim s) := by
  have hback : trim s = ((trimStart s).reverse.dropWhile isBlank).reverse := rfl
  have hsplit : trimStart s = trim s ++ ((trimStart s).reverse.takeWhile isBlank).reverse := by
    rw [hback, ← List.reverse_append, List.takeWhile_append_dropWhile, List.reverse_reverse]
  refine ⟨⟨indent s, ((trimStart s).reverse.takeWhile isBlank).reverse, ?_, fun c hc ↦ ?_,
    fun c hc ↦ ?_⟩, fun c hc ↦ ?_, fun c hc ↦ ?_⟩
  · rw [List.append_assoc, ← hsplit, indent_append_trimStart]
  · exact List.all_eq_true.1 List.all_takeWhile c hc
  · exact List.all_eq_true.1 List.all_takeWhile c (List.mem_reverse.1 hc)
  · -- the first character is that of the text trimmed at the front only
    have hne : trim s ≠ [] := fun hnil ↦ by simp [hnil] at hc
    have hfront : (trimStart s).head? = (trim s).head? := by
      rw [hsplit, List.head?_append_of_ne_nil _ hne]
    exact not_of_mem_head?_dropWhile (hfront ▸ hc)
  · rw [hback, List.getLast?_reverse] at hc
    exact not_of_mem_head?_dropWhile hc

theorem Padded.trim_eq {s core : List Char} (h : Padded s core) : trim s = core := by
  obtain ⟨⟨before, after, rfl, hbefore, hafter⟩, hhead, hlast⟩ := h
  have hstart : trimStart (before ++ core ++ after) = (core ++ after).dropWhile isBlank := by
    rw [trimStart, List.append_assoc, List.dropWhile_append_of_pos hbefore]
  rw [trim, hstart]
  by_cases hcore : core = []
  · have hall : after.dropWhile isBlank = [] := List.dropWhile_eq_nil_iff.2 hafter
    rw [hcore, List.nil_append, hall]
    rfl
  · have hfront : ∀ c ∈ (core ++ after).head?, isBlank c = false := by
      rw [List.head?_append_of_ne_nil _ hcore]
      exact hhead
    have hback : ∀ c ∈ core.reverse.head?, isBlank c = false := by
      rw [List.head?_reverse]
      exact hlast
    have hafter' : ∀ c ∈ after.reverse, isBlank c = true := fun c hc ↦
      hafter c (List.mem_reverse.1 hc)
    rw [dropWhile_eq_self hfront, trimEnd, List.reverse_append,
      List.dropWhile_append_of_pos hafter', dropWhile_eq_self hback, List.reverse_reverse]

/-- **Trimming drops the blanks around a text, and nothing else.** -/
theorem trim_eq_iff {s core : List Char} : trim s = core ↔ Padded s core :=
  ⟨fun h ↦ h ▸ padded_trim s, Padded.trim_eq⟩

/-- What is left of a text is one thing, so to ask for it is to trim. -/
theorem exists_padded_iff {s : List Char} {P : List Char → Prop} :
    (∃ core, Padded s core ∧ P core) ↔ P (trim s) := by
  constructor
  · rintro ⟨core, hpadded, hcore⟩
    rwa [hpadded.trim_eq]
  · exact fun h ↦ ⟨_, padded_trim s, h⟩

/-- Nothing is left of blanks alone. -/
theorem trim_eq_nil_iff {s : List Char} : trim s = [] ↔ ∀ c ∈ s, isBlank c = true := by
  rw [trim_eq_iff]
  constructor
  · rintro ⟨⟨before, after, rfl, hbefore, hafter⟩, -, -⟩ c hc
    rw [List.append_nil] at hc
    exact (List.mem_append.1 hc).elim (hbefore c) (hafter c)
  · exact fun h ↦ ⟨⟨s, [], by simp, h, nofun⟩, nofun, nofun⟩

/-! ## Digits and signs -/

namespace Numeral

/-- One or more ASCII digits, which count `m`. -/
structure Digits (s : List Char) (m : Nat) : Prop where
  ne_nil : s ≠ []
  isDigit : ∀ c ∈ s, c.isDigit = true
  value_eq : Nat.ofDigitChars 10 s 0 = m

/-- Digits with a sign or none, which stand for `n`. -/
inductive Signed : List Char → Int → Prop
  | plain {s : List Char} {m : Nat} (h : Digits s m) : Signed s m
  | plus {s : List Char} {m : Nat} (h : Digits s m) : Signed ('+' :: s) m
  | minus {s : List Char} {m : Nat} (h : Digits s m) : Signed ('-' :: s) (-m)

/-- Digits with a plus sign or none, which stand for `n`. -/
inductive Unsigned : List Char → Nat → Prop
  | plain {s : List Char} {m : Nat} (h : Digits s m) : Unsigned s m
  | plus {s : List Char} {m : Nat} (h : Digits s m) : Unsigned ('+' :: s) m

/-- Whatever takes no minus sign is the same number if it may take one. -/
theorem Unsigned.signed {s : List Char} {n : Nat} (h : Unsigned s n) : Signed s n := by
  cases h with
  | plain h => exact .plain h
  | plus h => exact .plus h

/-- A number that is written without a minus sign needs none. -/
theorem Signed.exists_unsigned {s : List Char} {n : Int} (h : Signed s n) (hs : '-' ∉ s) :
    ∃ m : Nat, n = m ∧ Unsigned s m := by
  cases h with
  | plain h => exact ⟨_, rfl, .plain h⟩
  | plus h => exact ⟨_, rfl, .plus h⟩
  | minus h => exact absurd (List.mem_cons_self ..) hs

theorem digits_of_digit {limit n : Nat} {c : Char} {rest : List Char} (h : c.isDigit = true) :
    digits limit n (c :: rest) =
      if 10 * n + (c.toNat - 48) ≤ limit then digits limit (10 * n + (c.toNat - 48)) rest
      else .error .tooLarge := by
  rw [digits, digit?, if_pos h]

theorem digits_of_not_digit {limit n : Nat} {c : Char} {rest : List Char}
    (h : c.isDigit = false) : digits limit n (c :: rest) = .error .invalidDigit := by
  rw [digits, digit?, h]
  rfl

/-- The number grows with every digit, so reading within a limit comes to the end exactly if all
the digits together stay within it. -/
theorem digits_eq_ok_iff {limit m : Nat} {s : List Char} :
    ∀ {n : Nat}, n ≤ limit → (digits limit n s = .ok m ↔
      (∀ c ∈ s, c.isDigit = true) ∧ Nat.ofDigitChars 10 s n = m ∧ m ≤ limit) := by
  induction s with
  | nil =>
    intro n hn
    rw [digits, Nat.ofDigitChars_nil, Except.ok.injEq]
    constructor
    · rintro rfl
      exact ⟨List.forall_mem_nil _, rfl, hn⟩
    · exact fun h ↦ h.2.1
  | cons c rest ih =>
    intro n hn
    rw [Nat.ofDigitChars_cons, List.forall_mem_cons]
    by_cases hc : c.isDigit = true
    · rw [digits_of_digit hc]
      by_cases hle : 10 * n + (c.toNat - 48) ≤ limit
      · rw [if_pos hle, ih hle, and_iff_right hc]
        rfl
      · rw [if_neg hle]
        refine ⟨fun h ↦ ?_, fun h ↦ absurd ?_ hle⟩
        · cases h
        · exact (Json.le_ofDigitChars _ rest).trans (h.2.1.trans_le h.2.2)
    · rw [digits_of_not_digit (Bool.not_eq_true _ ▸ hc)]
      refine ⟨fun h ↦ ?_, fun h ↦ absurd h.1.1 hc⟩
      cases h

theorem magnitude_eq_ok_iff {limit m : Nat} {s : List Char} :
    magnitude limit s = .ok m ↔ Digits s m ∧ m ≤ limit := by
  rw [magnitude]
  by_cases hs : s = []
  · rw [if_pos (by simp [hs])]
    refine ⟨fun h ↦ ?_, fun h ↦ absurd hs h.1.ne_nil⟩
    cases h
  · rw [if_neg (by simp [hs]), digits_eq_ok_iff (Nat.zero_le _)]
    constructor
    · exact fun h ↦ ⟨⟨hs, h.1, h.2.1⟩, h.2.2⟩
    · exact fun h ↦ ⟨h.1.isDigit, h.1.value_eq, h.2⟩

/-- A sign is no digit. -/
theorem Digits.not_sign {c : Char} {rest : List Char} {m : Nat} (h : Digits (c :: rest) m) :
    c ≠ '+' ∧ c ≠ '-' := by
  have hc := h.isDigit c (List.mem_cons_self ..)
  constructor <;>
  · rintro rfl
    exact absurd hc (by decide)

/-- Digits are read as they are, since they begin with no sign. -/
theorem Digits.whole_eq {bound m : Nat} {s : List Char} (h : Digits s m) :
    whole bound s = (magnitude (bound - 1) s).map Int.ofNat := by
  refine whole.eq_4 bound s h.ne_nil (fun rest hs ↦ ?_) (fun rest hs ↦ ?_)
  · exact (hs ▸ h).not_sign.1 rfl
  · exact (hs ▸ h).not_sign.2 rfl

/-- Digits without a sign are read as they are. -/
theorem Digits.natural_eq {limit m : Nat} {s : List Char} (h : Digits s m) :
    natural limit s = magnitude limit s := by
  refine natural.eq_3 limit s h.ne_nil fun rest hs ↦ ?_
  exact (hs ▸ h).not_sign.1 rfl

theorem digits_toDigits (n : Nat) : Digits (Nat.toDigits 10 n) n := by
  obtain ⟨d, ds, hds, -⟩ := Json.exists_toDigits_eq_cons n
  exact ⟨by simp [hds], fun c ↦ Json.isDigit_of_mem_toDigits, Nat.ofDigitChars_ten_toDigits⟩

/-- The decimal text of a number is read back as that number. -/
theorem natural_toDigits {limit n : Nat} (h : n ≤ limit) :
    natural limit (Nat.toDigits 10 n) = .ok n := by
  rw [(digits_toDigits n).natural_eq]
  exact magnitude_eq_ok_iff.2 ⟨digits_toDigits n, h⟩

/-- **A number of either sign is read exactly if it is within its bound.** -/
theorem whole_eq_ok_iff {bound : Nat} {s : List Char} {n : Int} (hbound : 0 < bound) :
    whole bound s = .ok n ↔ Signed s n ∧ -(bound : Int) ≤ n ∧ n < bound := by
  constructor
  · intro h
    refine ⟨?_, range_of_whole hbound h⟩
    have hnatural : ∀ {t : List Char}, (magnitude (bound - 1) t).map Int.ofNat = .ok n →
        ∃ m : Nat, Digits t m ∧ (m : Int) = n := by
      intro t ht
      obtain ⟨m, hm, heq⟩ := Except.exists_of_map_eq_ok ht
      exact ⟨m, (magnitude_eq_ok_iff.1 hm).1, heq⟩
    rw [whole.eq_def] at h
    split at h
    · cases h
    · obtain ⟨m, hm, rfl⟩ := hnatural h
      exact .plus hm
    · split at h
      · next m hm =>
        cases h
        exact .minus (magnitude_eq_ok_iff.1 hm).1
      · cases h
      · cases h
    · obtain ⟨m, hm, rfl⟩ := hnatural h
      exact .plain hm
  · rintro ⟨hsigned, hlow, hhigh⟩
    cases hsigned with
    | @plain s m h =>
      have hm : magnitude (bound - 1) s = .ok m := magnitude_eq_ok_iff.2 ⟨h, by omega⟩
      rw [h.whole_eq, hm]
      rfl
    | @plus s m h =>
      have hm : magnitude (bound - 1) s = .ok m := magnitude_eq_ok_iff.2 ⟨h, by omega⟩
      rw [whole, hm]
      rfl
    | @minus s m h =>
      have hm : magnitude bound s = .ok m := magnitude_eq_ok_iff.2 ⟨h, by omega⟩
      rw [whole, hm]

/-- **A number without a minus sign is read exactly if it is within its limit.** -/
theorem natural_eq_ok_iff {limit n : Nat} {s : List Char} :
    natural limit s = .ok n ↔ Unsigned s n ∧ n ≤ limit := by
  constructor
  · intro h
    refine ⟨?_, le_of_natural h⟩
    rw [natural.eq_def] at h
    split at h
    · cases h
    · exact .plus (magnitude_eq_ok_iff.1 h).1
    · exact .plain (magnitude_eq_ok_iff.1 h).1
  · rintro ⟨hunsigned, hle⟩
    cases hunsigned with
    | plain h =>
      rw [h.natural_eq]
      exact magnitude_eq_ok_iff.2 ⟨h, hle⟩
    | plus h =>
      rw [natural]
      exact magnitude_eq_ok_iff.2 ⟨h, hle⟩

theorem toOption_eq_some_iff {ε α : Type} {x : Except ε α} {a : α} :
    x.toOption = some a ↔ x = .ok a := by
  refine ⟨eq_ok_of_toOption, fun h ↦ ?_⟩
  rw [h]
  rfl

/-- **A number field is a number of a signed word of 64 bits with blanks around it.** -/
theorem fieldNumber?_eq_some_iff {s : String} {n : Int} :
    fieldNumber? s = some n ↔
      (∃ core, Padded s.toList core ∧ Signed core n) ∧ -(2 ^ 63) ≤ n ∧ n < 2 ^ 63 := by
  rw [fieldNumber?, toOption_eq_some_iff, whole_eq_ok_iff (by decide), exists_padded_iff]
  rfl

/-- **A number of replicas is a number of an unsigned word of 32 bits with blanks around it.** -/
theorem replicaCount?_eq_some_iff {s : String} {n : Nat} :
    replicaCount? s = some n ↔
      (∃ core, Padded s.toList core ∧ Unsigned core n) ∧ n < 2 ^ 32 := by
  rw [replicaCount?, toOption_eq_some_iff, natural_eq_ok_iff, exists_padded_iff]
  exact and_congr_right' Nat.le_iff_lt_add_one

/-! ## The decimal text of a number -/

/-- A digit is no blank. -/
theorem not_blank_of_isDigit {c : Char} (h : c.isDigit = true) : isBlank c = false := by
  have hrange : 48 ≤ c.toNat ∧ c.toNat ≤ 57 := by
    simpa [Char.isDigit, UInt32.le_iff_toNat_le] using h
  simp [isBlank]
  omega

/-- Around digits, with a sign or none, there are no blanks. -/
theorem padded_of_signed {s : List Char} {n : Int} (h : Signed s n) : Padded s s := by
  have hall : ∀ c ∈ s, isBlank c = false := by
    have hdigits : ∀ {t : List Char} {m : Nat}, Digits t m → ∀ c ∈ t, isBlank c = false :=
      fun h c hc ↦ not_blank_of_isDigit (h.isDigit c hc)
    cases h with
    | plain h => exact hdigits h
    | plus h => exact List.forall_mem_cons.2 ⟨rfl, hdigits h⟩
    | minus h => exact List.forall_mem_cons.2 ⟨rfl, hdigits h⟩
  exact ⟨⟨[], [], by simp, nofun, nofun⟩, fun c hc ↦ hall c (List.mem_of_mem_head? hc),
    fun c hc ↦ hall c (List.mem_of_mem_getLast? hc)⟩

theorem signed_integerText (n : Int) : Signed (Json.integerText n) n := by
  cases n with
  | ofNat m => exact .plain (digits_toDigits m)
  | negSucc m => exact .minus (digits_toDigits (m + 1))

theorem unsigned_integerText (n : Nat) : Unsigned (Json.integerText n) n :=
  .plain (digits_toDigits n)

end Numeral
end Text
end ClusterConsole
