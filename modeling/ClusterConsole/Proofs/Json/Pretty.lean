import ClusterConsole.Proofs.Json.RoundTrip

/-!
# Values spread over lines

A value that is shown is spread over lines, each item and member on one of its own.  That is one
more way of writing the value, so it is read back like any other (`Tidy.parse_pretty`).

The lines are made by the printer alone: whichever way a value is written, no string in it goes on
over a line break (`Writes.breaksOutside`).  Strings are told from the rest by going through the
text and keeping account of quotation marks (`Stand.after`), which knows nothing of values.
-/

set_option autoImplicit false

namespace ClusterConsole
namespace Json

open Text (join)

/-! ## Writing -/

theorem prettyItems_eq (level : Nat) (items : List Value) :
    prettyItems level items =
      join ',' (items.map fun v ↦ breakTo level ++ v.prettyAt level) := by
  induction items with
  | nil => rfl
  | cons v rest ih =>
    cases rest with
    | nil => rfl
    | cons w rest =>
      rw [prettyItems, ih]
      · rfl
      · exact List.cons_ne_nil w rest

theorem prettyMembers_eq (level : Nat) (ms : List (String × Value)) :
    prettyMembers level ms =
      join ',' (ms.map fun m ↦ breakTo level ++ nameText m.1 ++ ' ' :: m.2.prettyAt level) := by
  induction ms with
  | nil => rfl
  | cons m rest ih =>
    cases rest with
    | nil => rfl
    | cons l rest =>
      rw [prettyMembers, ih]
      · simp [join]
      · exact List.cons_ne_nil l rest

/-- An item on a line of its own. -/
def ItemText.pretty (level : Nat) (v : Value) : ItemText :=
  ⟨breakTo level, v, v.prettyAt level, blanks_breakTo level⟩

/-- A member on a line of its own. -/
def MemberText.pretty (level : Nat) (m : String × Value) : MemberText :=
  ⟨breakTo level, m.1, [' '], m.2, m.2.prettyAt level, blanks_breakTo level, .space⟩

theorem MemberText.whole_pretty (level : Nat) (m : String × Value) :
    (MemberText.pretty level m).whole =
      breakTo level ++ nameText m.1 ++ ' ' :: m.2.prettyAt level := by
  simp [whole, pretty, nameText]

namespace Tidy

variable {d : Nat} {v : Value}

/-- A tidy value spread over lines is written. -/
theorem writes_prettyAt (h : Tidy d v) (level : Nat) : Writes d v (v.prettyAt level) := by
  induction h generalizing level with
  | null => exact .null
  | bool b =>
    cases b with
    | true => exact .yes
    | false => exact .no
  | number hn => exact .number hn
  | zero negative => exact .zero negative
  | string s => exact .string s
  | @array d items h ih =>
    have hitems : ∀ i ∈ items.map (ItemText.pretty (level + 1)), Writes d i.value i.text := by
      intro i hi
      obtain ⟨v, hv, rfl⟩ := List.mem_map.1 hi
      exact ih v hv (level + 1)
    have hvalues : (items.map (ItemText.pretty (level + 1))).map ItemText.value = items := by
      simp [Function.comp_def, ItemText.pretty]
    cases items with
    | nil => exact .array .nil (List.forall_mem_nil _)
    | cons v rest =>
      have hwrites := Writes.array (blanks_breakTo level) hitems
      rw [hvalues, List.map_map] at hwrites
      rw [Value.prettyAt, prettyItems_eq]
      · exact hwrites
      · exact nofun
  | @object d ms hordered h ih =>
    have hmembers : ∀ m ∈ ms.map (MemberText.pretty (level + 1)), Writes d m.value m.text := by
      intro m hm
      obtain ⟨l, hl, rfl⟩ := List.mem_map.1 hm
      exact ih l hl (level + 1)
    have hvalue : .ofMembers ((ms.map (MemberText.pretty (level + 1))).map MemberText.member) =
        Value.object ms := by
      simpa [Function.comp_def, MemberText.pretty, MemberText.member] using
        Value.ofMembers_of_ordered hordered
    cases ms with
    | nil =>
      have hnone : ∀ m ∈ ([] : List MemberText), Writes d m.value m.text := nofun
      exact .object .nil hnone
    | cons m rest =>
      have hwrites := Writes.object (blanks_breakTo level) hmembers
      rw [hvalue, List.map_map] at hwrites
      rw [Value.prettyAt, prettyMembers_eq]
      · simpa [Function.comp_def, MemberText.whole_pretty] using hwrites
      · exact nofun

/-- **A tidy value spread over lines is read back as that value.** -/
theorem parse_pretty (h : Tidy maxDepth v) : parse v.pretty = .ok v :=
  parse_of_writes (h.writes_prettyAt 0)

end Tidy

/-! ## Line breaks -/

/-- Where a text has got to: outside of strings, inside of one, or behind a backslash there. -/
inductive Stand where
  | outside
  | inside
  | escape
  deriving DecidableEq, Repr

namespace Stand

/-- Where a text has got to with one more character. -/
def next : Stand → Char → Stand
  | outside, c => if c = '"' then inside else outside
  | inside, c => if c = '"' then outside else if c = '\\' then escape else inside
  | escape, _ => inside

/-- Where a text leads to. -/
def after (q : Stand) (s : List Char) : Stand := s.foldl next q

@[simp] theorem after_nil (q : Stand) : q.after [] = q := rfl

@[simp] theorem after_cons (q : Stand) (c : Char) (s : List Char) :
    q.after (c :: s) = (q.next c).after s := rfl

@[simp] theorem after_append (q : Stand) (s t : List Char) :
    q.after (s ++ t) = (q.after s).after t := List.foldl_append

/-- Without quotation marks there are no strings. -/
theorem outside_after {s : List Char} (h : '"' ∉ s) : outside.after s = outside := by
  induction s with
  | nil => rfl
  | cons c s ih =>
    rw [List.mem_cons, not_or] at h
    simp [next, Ne.symm h.1, ih h.2]

theorem inside_after_encodeChar (c : Char) : inside.after (Quoted.encodeChar c) = inside := by
  fun_cases Quoted.encodeChar c with
  | case8 _ _ _ _ _ _ _ _ hcontrol =>
    have hdigit : ∀ n < 16, inside.next (Quoted.hexDigit n) = inside := by decide
    have hfirst := hdigit (c.toNat / 16) (by omega)
    have hsecond := hdigit (c.toNat % 16) (by omega)
    simp [next] at hfirst hsecond ⊢
    simp [hfirst, hsecond]
  | case9 _ hquote hbackslash =>
    rw [after_cons, after_nil, next, if_neg hquote, if_neg hbackslash]
  | _ => rfl

/-- A string that is written comes to an end. -/
theorem outside_after_encode (s : List Char) : outside.after (Quoted.encode s) = outside := by
  have hinside : inside.after (s.flatMap Quoted.encodeChar) = inside := by
    induction s with
    | nil => rfl
    | cons c s ih => rw [List.flatMap_cons, after_append, inside_after_encodeChar, ih]
  simp [Quoted.encode, next, hinside]

end Stand

/-- A string is written without controls. -/
theorem Quoted.le_toNat_of_mem_encode {s : List Char} {c : Char} (h : c ∈ Quoted.encode s) :
    32 ≤ c.toNat := by
  have hchar : ∀ d, ∀ c ∈ encodeChar d, 32 ≤ c.toNat := by
    intro d
    fun_cases encodeChar d with
    | case8 _ _ _ _ _ _ _ _ hcontrol =>
      have hdigit : ∀ n < 16, 32 ≤ (hexDigit n).toNat := by decide
      have hfirst := hdigit (d.toNat / 16) (by omega)
      have hsecond := hdigit (d.toNat % 16) (by omega)
      simp [hfirst, hsecond]
    | case9 _ _ _ _ _ _ _ _ hplain => simpa using hplain
    | _ => simp
  have hquote : 32 ≤ '"'.toNat := by decide
  simp only [encode, List.mem_cons, List.mem_append, List.mem_flatMap, List.not_mem_nil,
    or_false] at h
  rcases h with rfl | ⟨d, -, hc⟩ | rfl
  · exact hquote
  · exact hchar d c hc
  · exact hquote

/-- All controls of a text, line breaks among them, stand outside of strings, and no string is left
open. -/
structure BreaksOutside (s : List Char) : Prop where
  after_eq : Stand.outside.after s = .outside
  outside : ∀ pre c post, s = pre ++ c :: post → c.toNat < 32 → Stand.outside.after pre = .outside

namespace BreaksOutside

variable {s t : List Char}

theorem of_not_mem (h : '"' ∉ s) : BreaksOutside s where
  after_eq := Stand.outside_after h
  outside := by
    rintro pre c post rfl -
    exact Stand.outside_after fun hmem ↦ h (List.mem_append_left _ hmem)

theorem encode (s : List Char) : BreaksOutside (Quoted.encode s) where
  after_eq := Stand.outside_after_encode s
  outside := by
    intro pre c post hs hc
    have hmem : c ∈ Quoted.encode s := hs ▸ List.mem_append_right pre (List.mem_cons_self ..)
    exact absurd (Quoted.le_toNat_of_mem_encode hmem) (Nat.not_le.2 hc)

theorem append (hs : BreaksOutside s) (ht : BreaksOutside t) : BreaksOutside (s ++ t) where
  after_eq := by rw [Stand.after_append, hs.after_eq, ht.after_eq]
  outside := by
    intro pre c post heq hc
    rcases List.append_eq_append_iff.1 heq with ⟨mid, rfl, ht'⟩ | ⟨mid, hs', hmid⟩
    · rw [Stand.after_append, hs.after_eq]
      exact ht.outside mid c post ht' hc
    · cases mid with
      | nil =>
        rw [← List.append_nil pre, ← hs']
        exact hs.after_eq
      | cons d mid =>
        cases hmid
        exact hs.outside pre c mid hs' hc

theorem cons {c : Char} (hc : c ≠ '"') (hs : BreaksOutside s) : BreaksOutside (c :: s) :=
  append (of_not_mem (s := [c]) (by simpa using Ne.symm hc)) hs

theorem join {pieces : List (List Char)} (h : ∀ piece ∈ pieces, BreaksOutside piece) :
    BreaksOutside (Text.join ',' pieces) := by
  induction pieces with
  | nil => exact of_not_mem List.not_mem_nil
  | cons first rest ih =>
    rw [List.forall_mem_cons] at h
    cases rest with
    | nil => exact h.1
    | cons second rest => exact h.1.append (cons (by decide) (ih h.2))

theorem of_blanks (h : Blanks s) : BreaksOutside s :=
  of_not_mem fun hmem ↦ absurd (h _ hmem) (by decide)

end BreaksOutside

/-- **Whichever way a value is written, its line breaks stand outside of its strings.** -/
theorem Writes.breaksOutside {d : Nat} {v : Value} {s : List Char} (h : Writes d v s) :
    BreaksOutside s := by
  induction h with
  | null => exact .of_not_mem (by decide)
  | yes => exact .of_not_mem (by decide)
  | no => exact .of_not_mem (by decide)
  | @number d n hn =>
    refine .of_not_mem fun hmem ↦ ?_
    cases n with
    | ofNat m => exact nomatch isDigit_of_mem_toDigits hmem
    | negSucc m =>
      exact nomatch isDigit_of_mem_toDigits ((List.mem_cons.1 hmem).resolve_left (by decide))
  | zero negative => cases negative <;> exact .of_not_mem (by decide)
  | string s => exact .encode s.toList
  | @array d items post hpost hitems ih =>
    have hjoin : BreaksOutside (join ',' (items.map ItemText.whole)) := by
      refine .join fun piece hpiece ↦ ?_
      obtain ⟨i, hi, rfl⟩ := List.mem_map.1 hpiece
      exact (BreaksOutside.of_blanks i.blanks_before).append (ih i hi)
    exact .cons (by decide) (hjoin.append ((BreaksOutside.of_blanks hpost).append
      (.of_not_mem (by decide))))
  | @object d members post hpost hmembers ih =>
    have hjoin : BreaksOutside (join ',' (members.map MemberText.whole)) := by
      refine .join fun piece hpiece ↦ ?_
      obtain ⟨m, hm, rfl⟩ := List.mem_map.1 hpiece
      exact (BreaksOutside.of_blanks m.blanks_before).append ((BreaksOutside.encode _).append
        (.cons (by decide) ((BreaksOutside.of_blanks m.blanks_middle).append (ih m hm))))
    exact .cons (by decide) (hjoin.append ((BreaksOutside.of_blanks hpost).append
      (.of_not_mem (by decide))))

end Json
end ClusterConsole
