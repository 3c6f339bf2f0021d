import ClusterConsole.Proofs.Json.Members
import ClusterConsole.Proofs.Json.Reading

/-!
# What is written can be read

A value is `Tidy` if writing and reading have nothing to change about it: its numbers are whole and
fit a word, or zeros with a sign, and the members of its objects are in order.  `parse_compact` says
that the text of a tidy value is read back as that value, so tidy values with the same text are the
same (`compact_inj`).

Objects made by `Value.ofMembers` are in order whatever the order of the members given
(`Tidy.ofMembers`).
-/

set_option autoImplicit false

namespace ClusterConsole
namespace Json

open Text (join)

/-- Whole numbers that fit a word and zeros with a sign, objects with members in order, and arrays
and objects nested at most `d` deep. -/
inductive Tidy : (d : Nat) → Value → Prop
  | null {d : Nat} : Tidy d .null
  | bool {d : Nat} (b : Bool) : Tidy d (.bool b)
  | number {d : Nat} {n : Int} (hn : IsWord n) : Tidy d (.number (.whole n))
  | zero {d : Nat} (negative : Bool) : Tidy d (.number (.real negative .zero))
  | string {d : Nat} (s : String) : Tidy d (.string s)
  | array {d : Nat} {items : List Value} (h : ∀ v ∈ items, Tidy d v) : Tidy (d + 1) (.array items)
  | object {d : Nat} {ms : List (String × Value)} (hordered : Ordered ms)
      (h : ∀ m ∈ ms, Tidy d m.2) : Tidy (d + 1) (.object ms)

/-! ## Writing -/

theorem compactItems_eq (items : List Value) :
    compactItems items = join ',' (items.map Value.compact) := by
  induction items with
  | nil => rfl
  | cons v rest ih =>
    cases rest with
    | nil => rfl
    | cons w rest =>
      rw [compactItems, ih]
      · rfl
      · exact nofun

theorem compactMembers_eq (ms : List (String × Value)) :
    compactMembers ms = join ',' (ms.map fun m ↦ nameText m.1 ++ m.2.compact) := by
  induction ms with
  | nil => rfl
  | cons m rest ih =>
    cases rest with
    | nil => rfl
    | cons l rest =>
      rw [compactMembers, ih]
      · rfl
      · exact nofun

/-- An item written without blanks. -/
def ItemText.compact (v : Value) : ItemText := ⟨[], v, v.compact, .nil⟩

/-- A member written without blanks. -/
def MemberText.compact (m : String × Value) : MemberText :=
  ⟨[], m.1, [], m.2, m.2.compact, .nil, .nil⟩

theorem MemberText.whole_compact (m : String × Value) :
    (MemberText.compact m).whole = nameText m.1 ++ m.2.compact := by
  rw [nameText, List.append_assoc]
  rfl

/-- The text of an object says its members, whatever order they are in. -/
theorem writes_compact_object {d : Nat} {ms : List (String × Value)}
    (h : ∀ m ∈ ms, Writes d m.2 m.2.compact) :
    Writes (d + 1) (.ofMembers ms) (Value.object ms).compact := by
  have hmembers : ∀ m ∈ ms.map MemberText.compact, Writes d m.value m.text := by
    intro m hm
    obtain ⟨l, hl, rfl⟩ := List.mem_map.1 hm
    exact h l hl
  have hwrites := Writes.object .nil hmembers
  rw [List.map_map, List.map_map] at hwrites
  rw [Value.compact, compactMembers_eq]
  rwa [show MemberText.member ∘ MemberText.compact = id from rfl, List.map_id,
    show MemberText.whole ∘ MemberText.compact = _ from funext MemberText.whole_compact] at hwrites

namespace Tidy

variable {d : Nat} {v w : Value}

/-- The compact text of a tidy value says that value. -/
theorem writes_compact (h : Tidy d v) : Writes d v v.compact := by
  induction h with
  | null => exact .null
  | bool b =>
    cases b with
    | true => exact .yes
    | false => exact .no
  | number hn => exact .number hn
  | zero negative => exact .zero negative
  | string s => exact .string s
  | @array d items h ih =>
    have hitems : ∀ i ∈ items.map ItemText.compact, Writes d i.value i.text := by
      intro i hi
      obtain ⟨v, hv, rfl⟩ := List.mem_map.1 hi
      exact ih v hv
    have hwrites := Writes.array .nil hitems
    rw [List.map_map, List.map_map] at hwrites
    rw [Value.compact, compactItems_eq]
    rwa [show ItemText.value ∘ ItemText.compact = id from rfl, List.map_id] at hwrites
  | @object d ms hordered h ih =>
    have hwrites := writes_compact_object ih
    rwa [Value.ofMembers_of_ordered hordered] at hwrites

/-- An object is tidy if all its members are. -/
theorem ofMembers {ms : List (String × Value)} (h : ∀ m ∈ ms, Tidy d m.2) :
    Tidy (d + 1) (.ofMembers ms) := by
  obtain ⟨done, hdone, hordered, hmem⟩ := Value.exists_ofMembers ms
  rw [hdone]
  exact .object hordered fun m hm ↦ h m (hmem m hm)

/-- **The text of a tidy value is read back as that value.** -/
theorem parse_compact (h : Tidy maxDepth v) : parse v.compact = .ok v :=
  parse_of_writes h.writes_compact

/-- An object written with its members in any order is read back with them in order. -/
theorem parse_compact_object {ms : List (String × Value)} (h : ∀ m ∈ ms, Tidy 126 m.2) :
    parse (Value.object ms).compact = .ok (.ofMembers ms) :=
  parse_of_writes (writes_compact_object fun m hm ↦ (h m hm).writes_compact)

/-- Tidy values with the same text are the same. -/
theorem compact_inj (h : Tidy maxDepth v) (h' : Tidy maxDepth w) (heq : v.compact = w.compact) :
    v = w := by
  have hparse := h.parse_compact
  rw [heq, h'.parse_compact] at hparse
  exact (Except.ok.inj hparse).symm

end Tidy
end Json
end ClusterConsole
