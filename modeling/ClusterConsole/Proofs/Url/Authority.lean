import ClusterConsole.Proofs.Text.Integer
import ClusterConsole.Proofs.Url.Name

/-!
# How an authority ends

Blanks and controls around a URL do not count, and after slashes are dropped from its end there may
be new ones there.  They are never part of the authority, because an authority that can be read does
not end in one (`Authority.not_trimmed_of_parse`): it ends in a digit of its port, in the colon
before a port that is left out, in the bracket of an address, or in a name, and a name has no blanks
and no controls at all.
-/

set_option autoImplicit false

namespace ClusterConsole
namespace Url

/-- An address in brackets ends in one. -/
theorem Host.getLast?_of_bracketed {s t : List Char} (h : bracketed? s = some (.ok t)) :
    s.getLast? = some ']' := by
  rw [bracketed?.eq_def] at h
  split at h
  · next rest =>
    split at h
    · next hlast => rw [List.getLast?_cons, hlast, Option.getD_some]
    · cases h
  · cases h

/-- A host does not end in a blank or a control. -/
theorem Host.not_trimmed_of_parse {s : List Char} {host : Host} (h : parse s = .ok host) {c : Char}
    (hc : c ∈ s.getLast?) : isTrimmed c = false := by
  rw [parse] at h
  split at h
  · next inner hinner =>
    cases inner with
    | error fault => cases h
    | ok t =>
      cases hc.symm.trans (getLast?_of_bracketed hinner)
      rfl
  · split at h
    · cases h
    · next name hname => exact Name.not_trimmed_of_parse hname (List.mem_of_getLast? hc)

namespace Authority

/-- The user is at the front. -/
theorem exists_append_splitUser (s : List Char) : ∃ before, s = before ++ (splitUser s).2 := by
  rw [splitUser]
  split
  · next last first rest hpieces =>
    have heq : Text.pieces '@' s = (first :: rest).reverse ++ [last] := by
      rw [← List.reverse_reverse (Text.pieces '@' s), hpieces, List.reverse_cons]
    obtain ⟨before, hbefore⟩ := Text.exists_join_concat '@' (first :: rest).reverse last
    exact ⟨before, by rw [← hbefore, ← heq, Text.join_pieces]⟩
  · exact ⟨[], rfl⟩

/-- Host and port are all there is, with a colon between them. -/
theorem append_splitPort (s : List Char) : ∀ inBrackets,
    s = (splitPort inBrackets s).1 ++ ((splitPort inBrackets s).2.map (':' :: ·)).getD [] := by
  induction s with
  | nil => exact fun _ ↦ rfl
  | cons c rest ih =>
    intro inBrackets
    rw [splitPort]
    split
    · next hc =>
      have hcolon : c = ':' := by simpa using (Bool.and_eq_true_iff.1 hc).1
      rw [hcolon]
      rfl
    · exact congrArg (c :: ·) (ih _)

/-- A port is made of digits. -/
theorem isDigit_of_readPort {usual port : Option Nat} {s : List Char}
    (h : readPort usual s = .ok port) {c : Char} (hc : c ∈ s) : c.isDigit = true := by
  rw [readPort, if_neg (by simpa using List.ne_nil_of_mem hc)] at h
  split at h
  · next n hn => exact ((Text.Numeral.digits_eq_ok_iff (Nat.zero_le _)).1 hn).1 c hc
  · cases h

theorem not_trimmed_of_isDigit {c : Char} (h : c.isDigit = true) : isTrimmed c = false := by
  have hplain : Text.Percent.isUnreserved c = true := by
    simp [Text.Percent.isUnreserved, Char.isAlphanum, h]
  have hlow := (Text.Percent.range_of_isUnreserved hplain).1
  simp only [isTrimmed, decide_eq_false_iff_not]
  omega

/-- **An authority does not end in a blank or a control.** -/
theorem not_trimmed_of_parse {usual : Nat} {s : List Char} {a : Authority}
    (h : parse usual s = .ok a) {c : Char} (hc : c ∈ s.getLast?) : isTrimmed c = false := by
  obtain ⟨before, hbefore⟩ := exists_append_splitUser s
  have hparts := append_splitPort (splitUser s).2 false
  rw [parse] at h
  simp only at h
  split at h
  · cases h
  next hhost =>
  split at h
  · cases h
  next host hread =>
  split at h
  · cases h
  next port hport =>
  have hne : (splitPort false (splitUser s).2).1 ≠ [] := by simpa using hhost
  rw [hbefore, hparts] at hc
  cases hsplit : (splitPort false (splitUser s).2).2 with
  | none =>
    rw [hsplit, Option.map_none, Option.getD_none, List.append_nil,
      List.getLast?_append_of_ne_nil _ hne] at hc
    exact Host.not_trimmed_of_parse hread hc
  | some digits =>
    rw [hsplit, Option.map_some, Option.getD_some, List.getLast?_append_of_ne_nil _ (by simp),
      List.getLast?_append_of_ne_nil _ (by simp), List.getLast?_cons] at hc
    rw [hsplit, Option.getD_some] at hport
    -- without a digit behind it, the colon is the last character
    cases hlast : digits.getLast? with
    | none =>
      cases hlast ▸ hc
      rfl
    | some d =>
      cases hlast ▸ hc
      exact not_trimmed_of_isDigit (isDigit_of_readPort hport (List.mem_of_getLast? hlast))

end Authority
end Url
end ClusterConsole
