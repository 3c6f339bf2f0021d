import ClusterConsole.Proofs.Json.Grammar

/-!
# The reader follows the grammar

`parse_of_writes` is the main result: a text that is a way of writing a value is read as that value.
For an array or an object this comes from what is known of its items and members, whatever reads
them (`next_items`, `next_members`).

The reader is given one number as fuel for all of its loops, and each of them needs at most the
length of the text it goes through.
-/

set_option autoImplicit false

namespace ClusterConsole
namespace Json

open Text (join)

/-- Pieces begin with the first of them. -/
theorem exists_join_cons (mark : Char) (piece : List Char) (others : List (List Char)) :
    ∃ tail, join mark (piece :: others) = piece ++ tail := by
  cases others with
  | nil => exact ⟨[], (List.append_nil _).symm⟩
  | cons other others => exact ⟨mark :: join mark (other :: others), rfl⟩

/-! ## Reading items -/

section

variable {item : List Char → Reading Value} {k : Nat} {done : List Value} {s : List Char}

theorem readItems_close {post rest : List Char} (h : Blanks post) :
    readItems item (k + 1) done (post ++ ']' :: rest) = .ok (done.reverse, rest) := by
  rw [readItems, skipBlanks_append h]
  rfl

theorem readItems_first (h : Begins (skipBlanks s)) :
    readItems item (k + 1) [] s = readItems.next item k [] (skipBlanks s) := by
  obtain ⟨c, t, hs, -, hc, -⟩ := h
  rw [readItems, hs]
  split
  · next heq => cases heq
  · next heq => exact absurd (List.cons.inj heq).1 hc
  · next heq =>
    cases heq
    rfl

theorem readItems_comma {v : Value} (h : Begins (skipBlanks s)) :
    readItems item (k + 1) (v :: done) (',' :: s) =
      readItems.next item k (v :: done) (skipBlanks s) := by
  obtain ⟨c, t, hs, -, hc, -⟩ := h
  rw [readItems, skipBlanks_cons rfl]
  split
  · next heq => cases heq
  · next heq => exact absurd (List.cons.inj heq).1 (by decide)
  · next heq =>
    cases heq
    rw [if_neg (by simp), if_pos rfl, hs]
    split
    · next heq => cases heq
    · next heq => exact absurd (List.cons.inj heq).1 hc
    · rfl

/-- What is known of an item: it begins well, and it is read as its value wherever it ends. -/
def ReadsItem (item : List Char → Reading Value) (i : ItemText) : Prop :=
  Begins i.text ∧ ∀ rest, EndsNumber rest → item (i.text ++ rest) = .ok (i.value, rest)

theorem skipBlanks_whole {i : ItemText} (h : Begins i.text) (rest : List Char) :
    skipBlanks (i.whole ++ rest) = i.text ++ rest := by
  rw [ItemText.whole, List.append_assoc, skipBlanks_append i.blanks_before]
  exact (h.append rest).skipBlanks_eq

theorem begins_items {i : ItemText} (h : Begins i.text) (items : List ItemText)
    (rest : List Char) :
    Begins (skipBlanks (join ',' ((i :: items).map ItemText.whole) ++ rest)) := by
  obtain ⟨tail, htail⟩ := exists_join_cons ',' i.whole (items.map ItemText.whole)
  rw [List.map_cons, htail, List.append_assoc, skipBlanks_whole h]
  exact h.append _

/-- Items with commas between them are read as their values. -/
theorem next_items {post rest : List Char} (hpost : Blanks post) {items : List ItemText} :
    ∀ {i : ItemText} {n : Nat} {done : List Value}, (∀ j ∈ i :: items, ReadsItem item j) →
      (join ',' ((i :: items).map ItemText.whole)).length ≤ n →
      readItems.next item n done
        (skipBlanks (join ',' ((i :: items).map ItemText.whole) ++ (post ++ ']' :: rest))) =
        .ok (done.reverse ++ (i :: items).map ItemText.value, rest) := by
  induction items with
  | nil =>
    intro i n done h hn
    obtain ⟨hbegins, hread⟩ := h i (List.mem_cons_self ..)
    have hpos : 0 < n := Nat.lt_of_lt_of_le
      (Nat.lt_of_lt_of_le hbegins.length_pos (by simp [join, ItemText.whole])) hn
    obtain ⟨k, rfl⟩ := Nat.exists_eq_succ_of_ne_zero (Nat.ne_of_gt hpos)
    rw [List.map_singleton, join, skipBlanks_whole hbegins, readItems.next,
      hread _ (hpost.endsNumber (by rintro c ⟨⟩; decide))]
    refine (readItems_close hpost).trans ?_
    rw [List.reverse_cons]
    rfl
  | cons j items ih =>
    intro i n done h hn
    obtain ⟨hbegins, hread⟩ := h i (List.mem_cons_self ..)
    have hrest : ∀ k ∈ j :: items, ReadsItem item k := fun k hk ↦ h k (List.mem_cons_of_mem _ hk)
    have hjoin : join ',' ((i :: j :: items).map ItemText.whole) =
        i.whole ++ ',' :: join ',' ((j :: items).map ItemText.whole) := rfl
    rw [hjoin, List.length_append, List.length_cons] at hn
    obtain ⟨k, rfl⟩ := Nat.exists_eq_succ_of_ne_zero (show n ≠ 0 by omega)
    have hnext := begins_items (hrest j (List.mem_cons_self ..)).1 items (post ++ ']' :: rest)
    rw [hjoin, List.append_assoc, skipBlanks_whole hbegins, readItems.next, List.cons_append,
      hread _ (by rintro c ⟨⟩; decide)]
    refine (readItems_comma hnext).trans ((ih hrest (by omega)).trans ?_)
    rw [List.reverse_cons, List.append_assoc]
    rfl

/-- The items of an array are read up to its closing bracket. -/
theorem readItems_join {post rest : List Char} (hpost : Blanks post) {items : List ItemText}
    (h : ∀ i ∈ items, ReadsItem item i)
    (hk : (join ',' (items.map ItemText.whole)).length ≤ k) :
    readItems item (k + 1) [] (join ',' (items.map ItemText.whole) ++ (post ++ ']' :: rest)) =
      .ok (items.map ItemText.value, rest) := by
  cases items with
  | nil => exact readItems_close hpost
  | cons i items =>
    rw [readItems_first (begins_items (h i (List.mem_cons_self ..)).1 items _)]
    exact next_items hpost h hk

end

/-! ## Reading members -/

section

variable {α : Type} {member : α → String → List Char → Reading α} {k : Nat} {gathered : α}
  {s : List Char}

theorem readMembers_close {first : Bool} {post rest : List Char} (h : Blanks post) :
    readMembers member (k + 1) first gathered (post ++ '}' :: rest) =
      .ok (gathered, rest) := by
  rw [readMembers, skipBlanks_append h]
  rfl

theorem readMembers_first (h : Begins (skipBlanks s)) :
    readMembers member (k + 1) true gathered s =
      readMembers.next member k gathered (skipBlanks s) := by
  obtain ⟨c, t, hs, -, -, hc⟩ := h
  rw [readMembers, hs]
  split
  · next heq => cases heq
  · next heq => exact absurd (List.cons.inj heq).1 hc
  · next heq =>
    cases heq
    rfl

theorem readMembers_comma (h : Begins (skipBlanks s)) :
    readMembers member (k + 1) false gathered (',' :: s) =
      readMembers.next member k gathered (skipBlanks s) := by
  obtain ⟨c, t, hs, -, -, hc⟩ := h
  rw [readMembers, skipBlanks_cons rfl]
  split
  · next heq => cases heq
  · next heq => exact absurd (List.cons.inj heq).1 (by decide)
  · next heq =>
    cases heq
    rw [if_neg (by simp), if_pos rfl, hs]
    split
    · next heq => cases heq
    · next heq => exact absurd (List.cons.inj heq).1 hc
    · rfl

/-- A quoted name is read, and the member with it. -/
theorem next_name {name : String} (h : name.toList.length < k + 1) (rest : List Char) :
    readMembers.next member k gathered
        ('"' :: (name.toList.flatMap Quoted.encodeChar ++ '"' :: rest)) =
      (member gathered name rest).andThen fun gathered rest ↦
        readMembers member k false gathered rest := by
  rw [readMembers.next, Quoted.read_encode h, String.ofList_toList]
  rfl

end

section

variable {value : List Char → Reading Value} {k : Nat} {gathered : List (String × Value)}

/-- What is known of a member: after its colon, its value is read wherever it ends. -/
def ReadsMember (value : List Char → Reading Value) (m : MemberText) : Prop :=
  ∀ rest, EndsNumber rest → value (m.middle ++ (m.text ++ rest)) = .ok (m.value, rest)

theorem skipBlanks_whole_member (m : MemberText) (rest : List Char) :
    skipBlanks (m.whole ++ rest) = '"' :: (m.name.toList.flatMap Quoted.encodeChar ++
      '"' :: ':' :: (m.middle ++ (m.text ++ rest))) := by
  rw [MemberText.whole, List.append_assoc, skipBlanks_append m.blanks_before, List.append_assoc,
    Quoted.encode_append, skipBlanks_cons rfl, List.cons_append, List.append_assoc]

theorem begins_members (m : MemberText) (members : List MemberText) (rest : List Char) :
    Begins (skipBlanks (join ',' ((m :: members).map MemberText.whole) ++ rest)) := by
  obtain ⟨tail, htail⟩ := exists_join_cons ',' m.whole (members.map MemberText.whole)
  rw [List.map_cons, htail, List.append_assoc, skipBlanks_whole_member]
  exact ⟨_, _, rfl, rfl, by decide, by decide⟩

/-- A member is read by its name and its value. -/
theorem next_member {m : MemberText} (h : ReadsMember value m) {n : Nat}
    (hn : m.whole.length ≤ n) {rest : List Char} (hrest : EndsNumber rest) :
    readMembers.next (readMember value) n gathered (skipBlanks (m.whole ++ rest)) =
      readMembers (readMember value) n false (m.member :: gathered) rest := by
  have hname : m.name.toList.length < n + 1 := by
    have hle := Quoted.length_le_flatMap_encodeChar m.name.toList
    simp only [MemberText.whole, Quoted.encode, List.length_append, List.length_cons] at hn
    omega
  have hcolon : readColon (':' :: (m.middle ++ (m.text ++ rest))) =
      .ok (m.middle ++ (m.text ++ rest)) := by
    rw [readColon, skipBlanks_cons rfl]
    rfl
  have hmember : readMember value gathered m.name (':' :: (m.middle ++ (m.text ++ rest))) =
      .ok (m.member :: gathered, rest) := by
    rw [readMember, hcolon]
    simp only [h rest hrest]
    rfl
  rw [skipBlanks_whole_member, next_name hname, hmember]
  rfl

/-- Members with commas between them are read by their names and values. -/
theorem next_members {post rest : List Char} (hpost : Blanks post) {members : List MemberText} :
    ∀ {m : MemberText} {n : Nat} {gathered : List (String × Value)},
      (∀ l ∈ m :: members, ReadsMember value l) →
      (join ',' ((m :: members).map MemberText.whole)).length ≤ n →
      readMembers.next (readMember value) n gathered
        (skipBlanks (join ',' ((m :: members).map MemberText.whole) ++ (post ++ '}' :: rest))) =
        .ok (((m :: members).map MemberText.member).reverse ++ gathered, rest) := by
  induction members with
  | nil =>
    intro m n gathered h hn
    have hread := h m (List.mem_cons_self ..)
    have hpos : n ≠ 0 := by
      simp only [List.map_singleton, join, MemberText.whole, List.length_append,
        List.length_cons] at hn
      omega
    obtain ⟨k, rfl⟩ := Nat.exists_eq_succ_of_ne_zero hpos
    rw [List.map_singleton, join,
      next_member hread hn (hpost.endsNumber (by rintro c ⟨⟩; decide))]
    exact readMembers_close hpost
  | cons l members ih =>
    intro m n gathered h hn
    have hread := h m (List.mem_cons_self ..)
    have hrest : ∀ k ∈ l :: members, ReadsMember value k :=
      fun k hk ↦ h k (List.mem_cons_of_mem _ hk)
    have hjoin : join ',' ((m :: l :: members).map MemberText.whole) =
        m.whole ++ ',' :: join ',' ((l :: members).map MemberText.whole) := rfl
    rw [hjoin, List.length_append, List.length_cons] at hn
    obtain ⟨k, rfl⟩ := Nat.exists_eq_succ_of_ne_zero (show n ≠ 0 by omega)
    have hnext := begins_members l members (post ++ '}' :: rest)
    have hreverse : ((m :: l :: members).map MemberText.member).reverse =
        ((l :: members).map MemberText.member).reverse ++ [m.member] := List.reverse_cons ..
    rw [hjoin, List.append_assoc, List.cons_append,
      next_member hread (by omega) (by rintro c ⟨⟩; decide), readMembers_comma hnext,
      ih hrest (by omega), hreverse, List.append_assoc]
    rfl

/-- The members of an object are read up to its closing brace; they come out backwards. -/
theorem readMembers_join {post rest : List Char} (hpost : Blanks post)
    {members : List MemberText} (h : ∀ m ∈ members, ReadsMember value m)
    (hk : (join ',' (members.map MemberText.whole)).length ≤ k) :
    readMembers (readMember value) (k + 1) true []
        (join ',' (members.map MemberText.whole) ++ (post ++ '}' :: rest)) =
      .ok ((members.map MemberText.member).reverse, rest) := by
  cases members with
  | nil => exact readMembers_close hpost
  | cons m members =>
    rw [readMembers_first (begins_members m members _), next_members hpost h hk, List.append_nil]

end

/-! ## Reading values -/

/-- A piece is no longer than all of them together. -/
theorem length_le_join (mark : Char) {piece : List Char} {pieces : List (List Char)}
    (h : piece ∈ pieces) : piece.length ≤ (join mark pieces).length := by
  induction pieces with
  | nil => exact absurd h List.not_mem_nil
  | cons first rest ih =>
    cases rest with
    | nil =>
      cases List.mem_singleton.1 h
      exact Nat.le_refl _
    | cons second rest =>
      rw [join, List.length_append, List.length_cons]
      · rcases List.mem_cons.1 h with rfl | h
        · omega
        · have := ih h
          omega
      · exact nofun

section

variable {fuel d : Nat} {s rest : List Char}

theorem readValue_append_blanks {pre : List Char} (h : Blanks pre) :
    readValue fuel d (pre ++ s) = readValue fuel d s := by
  rw [readValue, readValue, skipBlanks_append h]

theorem readValue_string :
    readValue fuel d ('"' :: s) =
      (Quoted.read fuel s).andThen fun t rest ↦ .ok (.string t, rest) := by
  rw [readValue, skipBlanks_cons rfl]
  rfl

theorem readValue_array :
    readValue fuel (d + 1) ('[' :: s) =
      (readItems (readValue fuel d) fuel [] s).andThen fun items rest ↦
        .ok (.array items, rest) := by
  rw [readValue, skipBlanks_cons rfl]
  rfl

theorem readValue_object :
    readValue fuel (d + 1) ('{' :: s) =
      (readMembers (readMember (readValue fuel d)) fuel true [] s).andThen fun members rest ↦
        .ok (.ofMembers members.reverse, rest) := by
  rw [readValue, skipBlanks_cons rfl]
  rfl

/-- A number begins with a digit or a minus sign. -/
theorem exists_integerText_eq_cons (n : Int) :
    ∃ c t, integerText n = c :: t ∧ (c = '-' ∨ c.isDigit = true) := by
  cases n with
  | negSucc m => exact ⟨'-', _, rfl, .inl rfl⟩
  | ofNat m =>
    obtain ⟨c, ds, hds, -⟩ := exists_toDigits_eq_cons m
    exact ⟨c, ds, hds, .inr (isDigit_of_mem_toDigits (hds ▸ List.mem_cons_self ..))⟩

/-- What begins like a number is read as one. -/
theorem readValue_of_readNumber {c : Char} {n : Number} (hc : c = '-' ∨ c.isDigit = true)
    (h : readNumber (c :: s) = .ok (n, rest)) :
    readValue fuel d (c :: s) = .ok (.number n, rest) := by
  have hne : ∀ e : Char, e ≠ '-' → e.isDigit = false → c ≠ e := by
    rintro e hminus hdigit rfl
    rcases hc with hc | hc
    · exact hminus hc
    · exact nomatch hc.symm.trans hdigit
  have hblank : isBlank c = false := by
    refine Bool.eq_false_iff.2 fun hblank ↦ ?_
    rcases hc with rfl | hc
    · cases hblank
    · exact nomatch hc.symm.trans (endsNumber_of_isBlank hblank [] c rfl).1
  rw [readValue, skipBlanks_cons hblank]
  split
  · next heq => cases heq
  · next heq => exact absurd (List.cons.inj heq).1 (hne 'n' (by decide) (by decide))
  · next heq => exact absurd (List.cons.inj heq).1 (hne 't' (by decide) (by decide))
  · next heq => exact absurd (List.cons.inj heq).1 (hne 'f' (by decide) (by decide))
  · next heq => exact absurd (List.cons.inj heq).1 (hne '"' (by decide) (by decide))
  · next heq => exact absurd (List.cons.inj heq).1 (hne '[' (by decide) (by decide))
  · next heq => exact absurd (List.cons.inj heq).1 (hne '{' (by decide) (by decide))
  · next heq =>
    cases heq
    rw [if_pos (by simpa using hc), h]
    rfl

theorem readValue_integerText {n : Int} (hn : IsWord n) (hrest : EndsNumber rest) :
    readValue fuel d (integerText n ++ rest) = .ok (.number (.whole n), rest) := by
  have hread := readNumber_integerText hn hrest
  obtain ⟨c, t, ht, hc⟩ := exists_integerText_eq_cons n
  rw [ht, List.cons_append] at hread ⊢
  exact readValue_of_readNumber hc hread

theorem readValue_zero (negative : Bool) (hrest : EndsNumber rest) :
    readValue fuel d ((Number.real negative .zero).text ++ rest) =
      .ok (.number (.real negative .zero), rest) := by
  have hread := readNumber_zero negative hrest
  cases negative with
  | false => exact readValue_of_readNumber (.inr (by decide)) hread
  | true => exact readValue_of_readNumber (.inl rfl) hread

end

/-- **A text is read as the value it says.** -/
theorem readValue_of_writes {fuel d : Nat} {v : Value} {s : List Char} (h : Writes d v s) :
    s.length < fuel → ∀ rest, EndsNumber rest → readValue fuel d (s ++ rest) = .ok (v, rest) := by
  induction h with
  | null =>
    intro _ rest _
    rw [readValue, List.cons_append, skipBlanks_cons rfl]
    rfl
  | yes =>
    intro _ rest _
    rw [readValue, List.cons_append, skipBlanks_cons rfl]
    rfl
  | no =>
    intro _ rest _
    rw [readValue, List.cons_append, skipBlanks_cons rfl]
    rfl
  | number hn => exact fun _ rest hrest ↦ readValue_integerText hn hrest
  | zero negative => exact fun _ rest hrest ↦ readValue_zero negative hrest
  | string t =>
    intro hs rest _
    have ht : t.toList.length < fuel := by
      have hle := Quoted.length_le_flatMap_encodeChar t.toList
      simp only [Quoted.encode, List.length_append, List.length_cons] at hs
      omega
    rw [Quoted.encode_append, readValue_string, Quoted.read_encode ht, String.ofList_toList]
    rfl
  | @array d items post hpost hitems ih =>
    intro hs rest _
    rw [List.length_cons, List.length_append] at hs
    obtain ⟨k, rfl⟩ := Nat.exists_eq_succ_of_ne_zero (show fuel ≠ 0 by omega)
    have hread : ∀ i ∈ items, ReadsItem (readValue (k + 1) d) i := by
      intro i hi
      have hlength := length_le_join ',' (List.mem_map_of_mem (f := ItemText.whole) hi)
      rw [ItemText.whole, List.length_append] at hlength
      exact ⟨(hitems i hi).begins, ih i hi (by omega)⟩
    rw [List.cons_append, readValue_array, List.append_assoc, List.append_assoc,
      List.singleton_append, readItems_join hpost hread (by omega)]
    rfl
  | @object d members post hpost hmembers ih =>
    intro hs rest _
    rw [List.length_cons, List.length_append] at hs
    obtain ⟨k, rfl⟩ := Nat.exists_eq_succ_of_ne_zero (show fuel ≠ 0 by omega)
    have hread : ∀ m ∈ members, ReadsMember (readValue (k + 1) d) m := by
      intro m hm rest hrest
      have hlength := length_le_join ',' (List.mem_map_of_mem (f := MemberText.whole) hm)
      simp only [MemberText.whole, List.length_append, List.length_cons] at hlength
      rw [readValue_append_blanks m.blanks_middle]
      exact ih m hm (by omega) rest hrest
    rw [List.cons_append, readValue_object, List.append_assoc, List.append_assoc,
      List.singleton_append, readMembers_join hpost hread (by omega)]
    simp only [Reading.andThen, List.reverse_reverse]

/-- **A text is parsed as the value it says.** -/
theorem parse_of_writes {v : Value} {s : List Char} (h : Writes maxDepth v s) :
    parse s = .ok v := by
  have hread := readValue_of_writes h (Nat.lt_succ_self _) [] nofun
  rw [List.append_nil] at hread
  rw [parse, hread]
  rfl

end Json
end ClusterConsole
