import ClusterConsole.Cluster.Spec
import ClusterConsole.Proofs.Json.RoundTrip
import ClusterConsole.Proofs.Text.Numeral

/-!
# The object that describes a new cluster

The members of a cluster description have different names, so its object says which inputs are sent
and with which values: descriptions with the same object are the same (`Spec.body_inj`).  Their
values are strings and whole numbers of a word, so the object is tidy (`Spec.tidy_body`).
-/

set_option autoImplicit false

namespace ClusterConsole

open Json (Value Tidy)
open Text.Numeral (fieldNumber?)

theorem Key.nodup_names : (Key.all.map Key.name).Nodup := by decide

theorem Key.name_inj {k l : Key} (h : k.name = l.name) : k = l := by
  have hall : ∀ k ∈ all, ∀ l ∈ all, k.name = l.name → k = l := by decide
  exact hall k (mem_all k) l (mem_all l) h

/-- What is sent for an input is its text, or the number that it is. -/
theorem Shape.of_value? {shape : Shape} {text : String} {v : Value}
    (h : shape.value? text = some v) :
    (shape = .required ∧ v = .string text) ∨ (shape = .text ∧ text ≠ "" ∧ v = .string text) ∨
      (shape = .number ∧ ∃ n, fieldNumber? text = some n ∧ v = .number (.whole n)) := by
  cases shape with
  | required => exact .inl ⟨rfl, (Option.some.inj h).symm⟩
  | text =>
    rw [value?] at h
    split at h
    · exact nomatch h
    · next hempty =>
      refine .inr (.inl ⟨rfl, ?_, (Option.some.inj h).symm⟩)
      rintro rfl
      exact hempty rfl
  | number =>
    obtain ⟨n, hn, hv⟩ := Option.map_eq_some_iff.1 h
    exact .inr (.inr ⟨rfl, n, hn, hv.symm⟩)

/-- What is sent for an input is tidy. -/
theorem Shape.tidy_of_value? {shape : Shape} {text : String} {v : Value} {d : Nat}
    (h : shape.value? text = some v) : Tidy d v := by
  obtain ⟨-, rfl⟩ | ⟨-, -, rfl⟩ | ⟨-, n, hn, rfl⟩ := of_value? h
  · exact .string text
  · exact .string text
  · have hrange := Text.Numeral.range_of_fieldNumber? hn
    exact .number ⟨hrange.1, Int.lt_trans hrange.2 (by decide)⟩

namespace Spec

variable {f g : Fields}

theorem mem_entries {k : Key} {v : Value} :
    (k, v) ∈ (ofFields f).entries ↔ k.shape.value? (f.text k) = some v := by
  rw [ofFields, List.mem_filterMap]
  constructor
  · rintro ⟨l, -, h⟩
    obtain ⟨w, hw, heq⟩ := Option.map_eq_some_iff.1 h
    cases heq
    exact hw
  · exact fun h ↦ ⟨k, Key.mem_all k, Option.map_eq_some_iff.2 ⟨v, h, rfl⟩⟩

theorem mem_members {k : Key} {v : Value} :
    (k.name, v) ∈ (ofFields f).members ↔ k.shape.value? (f.text k) = some v := by
  rw [members, List.mem_map, ← mem_entries]
  constructor
  · rintro ⟨⟨l, w⟩, hmem, heq⟩
    cases Key.name_inj (congrArg Prod.fst heq)
    cases congrArg Prod.snd heq
    exact hmem
  · exact fun h ↦ ⟨(k, v), h, rfl⟩

/-- No name is given twice. -/
theorem nodup_members : ((ofFields f).members.map Prod.fst).Nodup := by
  have hkeys : ∀ keys : List Key,
      ((keys.filterMap fun k ↦ (k.shape.value? (f.text k)).map fun v ↦ (k, v)).map
        fun e ↦ e.1.name).Sublist (keys.map Key.name) := by
    intro keys
    induction keys with
    | nil => exact .slnil
    | cons k rest ih =>
      rw [List.filterMap_cons]
      split
      · exact ih.cons _
      · next e he =>
        obtain ⟨v, -, rfl⟩ := Option.map_eq_some_iff.1 he
        exact ih.cons_cons _
  rw [members, List.map_map]
  exact (hkeys Key.all).nodup Key.nodup_names

/-- **Descriptions with the same object are the same.** -/
theorem body_inj (h : (ofFields f).body = (ofFields g).body) : ofFields f = ofFields g := by
  have hmem := Value.mem_iff_of_ofMembers_eq nodup_members nodup_members h
  have hvalue : ∀ k : Key, k.shape.value? (f.text k) = k.shape.value? (g.text k) := by
    intro k
    refine Option.ext fun v ↦ ?_
    rw [← mem_members, hmem, mem_members]
  simp only [ofFields, hvalue]

theorem tidy_body {d : Nat} : Tidy (d + 1) (ofFields f).body := by
  refine .ofMembers fun m hm ↦ ?_
  obtain ⟨⟨k, v⟩, he, rfl⟩ := List.mem_map.1 hm
  exact Shape.tidy_of_value? (mem_entries.1 he)

end Spec
end ClusterConsole
