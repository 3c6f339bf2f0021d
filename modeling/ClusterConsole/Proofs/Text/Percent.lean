import ClusterConsole.Proofs.Text.Utf8
import ClusterConsole.Text.Percent
import Mathlib

/-!
# Percent-encoding loses nothing

`decode_encode` and `encode_inj` say that a text can be recovered from its segment, and `Segment`
says which characters a segment is made of: those that stand for themselves, and escapes of a
percent sign and two digits.  So nothing in a segment can end it, or the path it is part of.

A character that can be in no escape keeps its bytes when a text is decoded (`mem_decode`).

The statements about `decode` hold for any choice of characters that stay plain, as long as the
percent sign is not one of them.
-/

set_option autoImplicit false

namespace ClusterConsole
namespace Text
namespace Percent

/-! ## Reading an encoded text -/

theorem hexValue?_hexDigit {n : Nat} (h : n < 16) : hexValue? (hexDigit n) = some n := by
  have hall : ∀ n < 16, hexValue? (hexDigit n) = some n := by decide
  exact hall n h

/-- An escape is read as its byte. -/
theorem decode_encodeByte (b : UInt8) (rest : List Char) :
    decode (encodeByte b ++ rest) = b :: decode rest := by
  have hb : b.toNat < 256 := b.toNat_lt
  have hvalue : 16 * (b.toNat / 16) + b.toNat % 16 = b.toNat := by omega
  rw [encodeByte, List.cons_append, List.cons_append, List.cons_append, List.nil_append, decode,
    hexValue?_hexDigit (by omega), hexValue?_hexDigit (by omega)]
  simp only [hvalue, UInt8.ofNat_toNat]

theorem decode_flatMap_encodeByte (bytes : List UInt8) (rest : List Char) :
    decode (bytes.flatMap encodeByte ++ rest) = bytes ++ decode rest := by
  induction bytes with
  | nil => rfl
  | cons b bytes ih =>
    rw [List.flatMap_cons, List.append_assoc, decode_encodeByte, ih, List.cons_append]

/-- A character that is no percent sign is read as its own bytes. -/
theorem decode_cons {c : Char} (h : c ≠ '%') (rest : List Char) :
    decode (c :: rest) = String.utf8EncodeChar c ++ decode rest := by
  rw [decode]
  rintro a b rest' hc
  exact absurd hc h

/-- A character that can be in no escape stands for its bytes. -/
theorem mem_decode {c : Char} (hpercent : c ≠ '%') (hhex : hexValue? c = none) {b : UInt8}
    (hb : b ∈ String.utf8EncodeChar c) {s : List Char} (hc : c ∈ s) : b ∈ decode s := by
  have hdigit : ∀ {d : Char} {n : Nat}, hexValue? d = some n → c ≠ d := by
    rintro d n hd rfl
    rw [hd] at hhex
    cases hhex
  fun_induction decode s with
  | case1 => cases hc
  | case2 x y rest m n hy hx ih =>
    refine List.mem_cons_of_mem _ (ih ?_)
    simpa [hpercent, hdigit hx, hdigit hy] using hc
  | case3 x y rest hnot ih =>
    exact List.mem_append_right _ (ih ((List.mem_cons.1 hc).resolve_left hpercent))
  | case4 d rest hd ih =>
    rcases List.mem_cons.1 hc with rfl | hc
    · exact List.mem_append_left _ hb
    · exact List.mem_append_right _ (ih hc)

section

variable {plain : Char → Bool}

theorem decode_escapeChar (h : plain '%' = false) (c : Char) (rest : List Char) :
    decode (escapeChar plain c ++ rest) = String.utf8EncodeChar c ++ decode rest := by
  rw [escapeChar]
  split
  · next hc =>
    have hne : c ≠ '%' := by
      rintro rfl
      rw [h] at hc
      exact nomatch hc
    exact decode_cons hne rest
  · exact decode_flatMap_encodeByte _ rest

/-- **An escaped text is read as its bytes.** -/
theorem decode_escape (h : plain '%' = false) (s : List Char) :
    decode (escape plain s) = utf8 s := by
  induction s with
  | nil => rfl
  | cons c rest ih =>
    rw [escape, List.flatMap_cons, decode_escapeChar h]
    exact congrArg _ ih

/-- Nothing is escaped that stands for itself. -/
theorem escape_eq_self {s : List Char} (h : ∀ c ∈ s, plain c = true) : escape plain s = s := by
  induction s with
  | nil => rfl
  | cons c rest ih =>
    have hrest : escape plain rest = rest := ih fun d hd ↦ h d (List.mem_cons_of_mem _ hd)
    rw [escape, List.flatMap_cons, escapeChar, if_pos (h c (List.mem_cons_self ..))]
    exact congrArg _ hrest

end

theorem decode_of_not_mem {s : List Char} (h : '%' ∉ s) : decode s = utf8 s := by
  have hplain : escape (· != '%') s = s :=
    escape_eq_self fun c hc ↦ by simpa using ne_of_mem_of_not_mem hc h
  conv_lhs => rw [← hplain]
  exact decode_escape rfl s

theorem decode_encode (s : List Char) : decode (encode s) = utf8 s := decode_escape rfl s

/-- Different texts have different segments. -/
theorem encode_inj {s t : List Char} (h : encode s = encode t) : s = t := by
  refine Utf8.utf8_inj ?_
  rw [← decode_encode, h, decode_encode]

/-! ## The characters of a segment -/

/-- Is it an upper-case hexadecimal digit? -/
def isHexDigit (c : Char) : Bool := c.isDigit || ('A' ≤ c && c ≤ 'F')

/-- A text of characters that stand for themselves, and of percent signs each with two upper-case
hexadecimal digits. -/
inductive Segment : List Char → Prop
  | nil : Segment []
  | plain {c : Char} {rest : List Char} (hc : isUnreserved c = true) (h : Segment rest) :
      Segment (c :: rest)
  | escaped {a b : Char} {rest : List Char} (ha : isHexDigit a = true) (hb : isHexDigit b = true)
      (h : Segment rest) : Segment ('%' :: a :: b :: rest)

theorem isHexDigit_hexDigit {n : Nat} (h : n < 16) : isHexDigit (hexDigit n) = true := by
  have hall : ∀ n < 16, isHexDigit (hexDigit n) = true := by decide
  exact hall n h

theorem isUnreserved_of_isHexDigit {c : Char} (h : isHexDigit c = true) :
    isUnreserved c = true := by
  rw [isHexDigit, Bool.or_eq_true, Bool.and_eq_true, decide_eq_true_eq, decide_eq_true_eq] at h
  have halnum : c.isAlphanum = true := by
    rcases h with hdigit | ⟨hA, hF⟩
    · simp [Char.isAlphanum, hdigit]
    · have hupper : c.isUpper = true := by
        simp only [Char.isUpper, Char.le_def, UInt32.le_iff_toNat_le, ge_iff_le] at hA hF ⊢
        simp at hA hF ⊢
        omega
      simp [Char.isAlphanum, Char.isAlpha, hupper]
  simp [isUnreserved, halnum]

theorem range_of_isUnreserved {c : Char} (h : isUnreserved c = true) :
    0x2d ≤ c.toNat ∧ c.toNat ≤ 0x7e := by
  simp only [isUnreserved, Char.isAlphanum, Char.isAlpha, Char.isUpper, Char.isLower, Char.isDigit,
    Bool.or_eq_true, Bool.and_eq_true, decide_eq_true_eq, UInt32.le_iff_toNat_le, ge_iff_le,
    beq_iff_eq] at h
  rcases h with (((h | rfl) | rfl) | rfl) | rfl
  · simp at h
    omega
  all_goals decide

namespace Segment

variable {s t : List Char}

theorem append (hs : Segment s) (ht : Segment t) : Segment (s ++ t) := by
  induction hs with
  | nil => exact ht
  | plain hc _ ih => exact .plain hc ih
  | escaped ha hb _ ih => exact .escaped ha hb ih

theorem flatMap_encodeByte (bytes : List UInt8) : Segment (bytes.flatMap encodeByte) := by
  induction bytes with
  | nil => exact .nil
  | cons b bytes ih =>
    have hb : b.toNat < 256 := b.toNat_lt
    exact .escaped (isHexDigit_hexDigit (by omega)) (isHexDigit_hexDigit (by omega)) ih

/-- **A percent-encoded text is a segment.** -/
theorem encode (s : List Char) : Segment (encode s) := by
  induction s with
  | nil => exact .nil
  | cons c rest ih =>
    rw [Percent.encode, escape, List.flatMap_cons, escapeChar]
    split
    · next hc => exact .plain hc ih
    · exact (flatMap_encodeByte _).append ih

theorem isUnreserved_or_eq (h : Segment s) {c : Char} (hc : c ∈ s) :
    isUnreserved c = true ∨ c = '%' := by
  induction h with
  | nil => exact absurd hc List.not_mem_nil
  | plain hd _ ih =>
    rcases List.mem_cons.1 hc with rfl | hc
    · exact .inl hd
    · exact ih hc
  | escaped ha hb _ ih =>
    rcases List.mem_cons.1 hc with rfl | hc
    · exact .inr rfl
    rcases List.mem_cons.1 hc with rfl | hc
    · exact .inl (isUnreserved_of_isHexDigit ha)
    rcases List.mem_cons.1 hc with rfl | hc
    · exact .inl (isUnreserved_of_isHexDigit hb)
    · exact ih hc

/-- Nothing in a segment ends it, or the path it is part of, and all of it is ASCII. -/
theorem not_mem_delimiters (h : Segment s) {c : Char} (hc : c ∈ s) :
    c ∉ ['/', '?', '#', ' '] ∧ c.toNat < 128 := by
  rcases h.isUnreserved_or_eq hc with hplain | rfl
  · refine ⟨fun hmem ↦ ?_, (range_of_isUnreserved hplain).2.trans_lt (by decide)⟩
    simp only [List.mem_cons, List.not_mem_nil, or_false] at hmem
    rcases hmem with rfl | rfl | rfl | rfl <;> exact nomatch hplain
  · decide

end Segment

/-! ## Escaped texts -/

/-- The characters of an escaped text are its plain ones, and those of escapes. -/
theorem mem_escape {plain : Char → Bool} {s : List Char} {c : Char} (h : c ∈ escape plain s) :
    (c ∈ s ∧ plain c = true) ∨ isUnreserved c = true ∨ c = '%' := by
  obtain ⟨d, hd, hc⟩ := List.mem_flatMap.1 h
  rw [escapeChar] at hc
  split at hc
  · next hplain =>
    cases List.mem_singleton.1 hc
    exact .inl ⟨hd, hplain⟩
  · exact .inr ((Segment.flatMap_encodeByte _).isUnreserved_or_eq hc)

/-- Only the empty text is escaped as nothing. -/
theorem escape_ne_nil {plain : Char → Bool} {s : List Char} (h : s ≠ []) :
    escape plain s ≠ [] := by
  obtain ⟨d, rest, rfl⟩ := List.exists_cons_of_ne_nil h
  have hbytes : (String.utf8EncodeChar d).length ≠ 0 := by
    rw [String.length_utf8EncodeChar]
    exact (Char.utf8Size_pos d).ne'
  rw [escape, List.flatMap_cons, escapeChar]
  split
  · simp
  · cases hutf8 : String.utf8EncodeChar d with
    | nil => exact absurd (congrArg List.length hutf8) hbytes
    | cons b bytes => simp [encodeByte]

end Percent
end Text
end ClusterConsole
