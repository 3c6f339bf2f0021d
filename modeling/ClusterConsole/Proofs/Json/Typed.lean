import ClusterConsole.Json.Typed
import ClusterConsole.Proofs.Json.Reading

/-!
# Reading values of a known type

Where the type of a value is known, there is a reader for that type alone.  It reads what the
printer writes for a value of the type, wherever the text ends: `readText_encode` for strings,
`readWord64_integerText` for unsigned words of 64 bits.

A value that may be missing is written as the word for it or like one that is there.  No value of
the types above begins like that word, so reading tells the two apart (`readOptional_text`,
`readOptional_word64`).
-/

set_option autoImplicit false

namespace ClusterConsole
namespace Json

variable {α : Type} {value : List Char → Reading α} {fuel : Nat} {s rest : List Char}

theorem readOptional_append_blanks {pre : List Char} (h : Blanks pre) :
    readOptional value (pre ++ s) = readOptional value s := by
  rw [readOptional, readOptional, skipBlanks_append h]

theorem readOptional_null (rest : List Char) :
    readOptional value (Value.null.compact ++ rest) = .ok (none, rest) := by
  rw [readOptional, Value.compact, List.cons_append, skipBlanks_cons rfl]
  rfl

/-- A value that is there is read, unless it could be the word for one that is not. -/
theorem readOptional_of_begins (h : Begins s) (hn : s.head? ≠ some 'n') {v : α}
    (hv : value (s ++ rest) = .ok (v, rest)) :
    readOptional value (s ++ rest) = .ok (some v, rest) := by
  obtain ⟨c, t, rfl, hc, -⟩ := h
  have hne : c ≠ 'n' := fun heq ↦ hn (heq ▸ rfl)
  rw [readOptional, List.cons_append, skipBlanks_cons hc]
  split
  · next heq => exact absurd (List.cons.inj heq).1 hne
  · rw [← List.cons_append, hv]
    rfl

theorem readText_encode {text : String} (h : text.toList.length < fuel) (rest : List Char) :
    readText fuel (Quoted.encode text.toList ++ rest) = .ok (text, rest) := by
  rw [Quoted.encode_append, readText, skipBlanks_cons rfl]
  exact (Quoted.read_encode h rest).trans (by rw [String.ofList_toList])

theorem readWord64_integerText (n : UInt64) (hrest : EndsNumber rest) :
    readWord64 fuel (integerText n.toNat ++ rest) = .ok (n, rest) := by
  have hword : IsWord n.toNat := by
    have hlt := n.toNat_lt
    rw [IsWord]
    omega
  have hread := readNumber_integerText hword hrest
  have hskip := ((begins_integerText n.toNat).append rest).skipBlanks_eq
  obtain ⟨c, t, ht, hc⟩ := exists_integerText_eq_cons n.toNat
  rw [readWord64, hskip]
  rw [ht, List.cons_append] at hread ⊢
  have hif : (c = '-' || c.isDigit) = true := by simpa using hc
  simp only [hif, hread, Reading.andThen]
  exact congrArg (fun m ↦ Except.ok (m, rest)) UInt64.ofNat_toNat

/-- A text that may be missing is read wherever it ends. -/
theorem readOptional_text (v : Option String) {rest : List Char}
    (hfuel : ∀ text ∈ v, text.toList.length < fuel) :
    readOptional (readText fuel) (((v.map Value.string).getD .null).compact ++ rest) =
      .ok (v, rest) := by
  cases v with
  | none => exact readOptional_null rest
  | some text =>
    have hbegins : Begins (Quoted.encode text.toList) := (Writes.string (d := 0) text).begins
    exact readOptional_of_begins hbegins (by simp [Quoted.encode])
      (readText_encode (hfuel text rfl) rest)

/-- A word that may be missing is read wherever it ends. -/
theorem readOptional_word64 (v : Option UInt64) {rest : List Char} (hrest : EndsNumber rest) :
    readOptional (readWord64 fuel)
        (((v.map fun n ↦ Value.number (.whole n.toNat)).getD .null).compact ++ rest) =
      .ok (v, rest) := by
  cases v with
  | none => exact readOptional_null rest
  | some n =>
    obtain ⟨c, t, ht, hc⟩ := exists_integerText_eq_cons n.toNat
    have hn : (integerText n.toNat).head? ≠ some 'n' := by
      rw [ht]
      rintro ⟨⟩
      exact absurd hc (by decide)
    exact readOptional_of_begins (begins_integerText _) hn (readWord64_integerText n hrest)

end Json
end ClusterConsole
