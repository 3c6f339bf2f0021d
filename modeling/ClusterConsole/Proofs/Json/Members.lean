import ClusterConsole.Json.Value

/-!
# The members of an object are kept in order

`Value.ofMembers` puts members into a list one by one.  The list is in the order of the names at
every step (`ordered_insertMember`), so it does not depend on the order in which members with
different names are given, and members that are in order already stay as they are
(`Value.ofMembers_of_ordered`).
-/

set_option autoImplicit false

namespace ClusterConsole
namespace Json

/-- The members are in the order of their names, and each name occurs once. -/
def Ordered (ms : List (String × Value)) : Prop := ms.Pairwise fun a b ↦ a.1 < b.1

/-- Members put one by one into a list that is in order. -/
def insertAll (done ms : List (String × Value)) : List (String × Value) :=
  ms.foldl (fun done m ↦ insertMember m.1 m.2 done) done

variable {name : String} {v : Value} {ms : List (String × Value)}

/-! ## One more member -/

theorem eq_or_mem_of_mem_insertMember {m : String × Value} (h : m ∈ insertMember name v ms) :
    m = (name, v) ∨ m ∈ ms := by
  induction ms with
  | nil => exact .inl (List.mem_singleton.1 h)
  | cons a rest ih =>
    rw [insertMember] at h
    split at h
    · exact List.mem_cons.1 h
    split at h
    · exact (List.mem_cons.1 h).imp_right (List.mem_cons_of_mem _)
    · rcases List.mem_cons.1 h with rfl | h
      · exact .inr (List.mem_cons_self ..)
      · exact (ih h).imp_right (List.mem_cons_of_mem _)

theorem ordered_insertMember (h : Ordered ms) : Ordered (insertMember name v ms) := by
  induction ms with
  | nil => exact List.pairwise_singleton ..
  | cons a rest ih =>
    obtain ⟨ha, hrest⟩ := List.pairwise_cons.1 h
    rw [insertMember]
    split
    · next hlt =>
      refine List.pairwise_cons.2 ⟨fun b hb ↦ ?_, h⟩
      rcases List.mem_cons.1 hb with rfl | hb
      · exact hlt
      · exact String.lt_trans hlt (ha b hb)
    split
    · next heq => exact List.pairwise_cons.2 ⟨fun b hb ↦ heq ▸ ha b hb, hrest⟩
    · next hlt hne =>
      refine List.pairwise_cons.2 ⟨fun b hb ↦ ?_, ih hrest⟩
      rcases eq_or_mem_of_mem_insertMember hb with rfl | hb
      · -- the names are different and not the other way round, so they are in order
        refine Decidable.not_not.1 fun hge ↦ hne ?_
        exact String.le_antisymm (String.not_lt.1 hge) (String.not_lt.1 hlt)
      · exact ha b hb

/-- A member with the last name comes last. -/
theorem insertMember_of_forall_lt (h : ∀ m ∈ ms, m.1 < name) :
    insertMember name v ms = ms ++ [(name, v)] := by
  induction ms with
  | nil => rfl
  | cons a rest ih =>
    have ha : a.1 < name := h a (List.mem_cons_self ..)
    rw [insertMember, if_neg (String.lt_asymm ha), if_neg (String.ne_of_lt ha).symm,
      ih fun m hm ↦ h m (List.mem_cons_of_mem _ hm)]
    rfl

/-- A member with a new name replaces none. -/
theorem perm_insertMember (h : ∀ m ∈ ms, m.1 ≠ name) :
    (insertMember name v ms).Perm ((name, v) :: ms) := by
  induction ms with
  | nil => exact .refl _
  | cons a rest ih =>
    have ha : a.1 ≠ name := h a (List.mem_cons_self ..)
    rw [insertMember]
    split
    · exact .refl _
    · rw [if_neg ha.symm]
      exact ((ih fun m hm ↦ h m (List.mem_cons_of_mem _ hm)).cons a).trans (.swap ..)

/-! ## All members -/

theorem mem_of_mem_insertAll {m : String × Value} :
    ∀ {done : List (String × Value)}, m ∈ insertAll done ms → m ∈ done ∨ m ∈ ms := by
  induction ms with
  | nil => exact fun h ↦ .inl h
  | cons a rest ih =>
    intro done h
    rcases ih h with h | h
    · rcases eq_or_mem_of_mem_insertMember h with rfl | h
      · exact .inr (List.mem_cons_self ..)
      · exact .inl h
    · exact .inr (List.mem_cons_of_mem _ h)

theorem ordered_insertAll :
    ∀ {done : List (String × Value)}, Ordered done → Ordered (insertAll done ms) := by
  induction ms with
  | nil => exact id
  | cons a rest ih => exact fun h ↦ ih (ordered_insertMember h)

theorem insertAll_of_ordered :
    ∀ {done : List (String × Value)}, Ordered (done ++ ms) → insertAll done ms = done ++ ms := by
  induction ms with
  | nil => exact fun _ ↦ (List.append_nil _).symm
  | cons a rest ih =>
    intro done h
    have hlt : ∀ m ∈ done, m.1 < a.1 := fun m hm ↦
      (List.pairwise_append.1 h).2.2 m hm a (List.mem_cons_self ..)
    have hinsert : insertMember a.1 a.2 done = done ++ [a] := insertMember_of_forall_lt hlt
    rw [List.append_cons] at h ⊢
    change insertAll (insertMember a.1 a.2 done) rest = _
    rw [hinsert, ih h]

theorem perm_insertAll : ∀ {done : List (String × Value)},
    ((done ++ ms).map Prod.fst).Nodup → (insertAll done ms).Perm (done ++ ms) := by
  induction ms with
  | nil => exact fun _ ↦ .of_eq (List.append_nil _).symm
  | cons a rest ih =>
    intro done h
    have hmove : (done ++ a :: rest).Perm (a :: done ++ rest) := List.perm_middle
    have hnew : ∀ m ∈ done, m.1 ≠ a.1 := by
      have hnodup := (hmove.map Prod.fst).nodup_iff.1 h
      rw [List.cons_append, List.map_cons, List.nodup_cons] at hnodup
      exact fun m hm heq ↦ hnodup.1 (heq ▸ List.mem_map_of_mem (List.mem_append_left _ hm))
    have hinsert : (insertMember a.1 a.2 done ++ rest).Perm (done ++ a :: rest) :=
      ((perm_insertMember hnew).append_right rest).trans hmove.symm
    exact (ih ((hinsert.map Prod.fst).nodup_iff.2 h)).trans hinsert

namespace Value

/-- The members of an object are in order, and are among those it was made of. -/
theorem exists_ofMembers (ms : List (String × Value)) :
    ∃ done, ofMembers ms = .object done ∧ Ordered done ∧ ∀ m ∈ done, m ∈ ms :=
  ⟨insertAll [] ms, rfl, ordered_insertAll .nil, fun _ hm ↦
    (mem_of_mem_insertAll hm).resolve_left List.not_mem_nil⟩

/-- If they all have different names, then none of them is lost. -/
theorem exists_ofMembers_perm (h : (ms.map Prod.fst).Nodup) :
    ∃ done, ofMembers ms = .object done ∧ done.Perm ms := ⟨insertAll [] ms, rfl, perm_insertAll h⟩

/-- Members that are in order stay as they are. -/
theorem ofMembers_of_ordered (h : Ordered ms) : ofMembers ms = .object ms :=
  congrArg object (insertAll_of_ordered h)

/-- Objects made of members with different names are equal only if the members are. -/
theorem mem_iff_of_ofMembers_eq {ms' : List (String × Value)} (h : (ms.map Prod.fst).Nodup)
    (h' : (ms'.map Prod.fst).Nodup) (heq : ofMembers ms = ofMembers ms') (m : String × Value) :
    m ∈ ms ↔ m ∈ ms' := by
  have hms : (insertAll [] ms).Perm ms := perm_insertAll h
  have hms' : (insertAll [] ms').Perm ms' := perm_insertAll h'
  have hsame : insertAll [] ms = insertAll [] ms' := object.inj heq
  rw [← hms.mem_iff, hsame, hms'.mem_iff]

end Value
end Json
end ClusterConsole
