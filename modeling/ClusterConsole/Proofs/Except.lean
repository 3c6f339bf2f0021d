/-!
# Results that were mapped

What a result with something done to it came from: a result that was mapped is a success exactly if
the result itself is one, and fails with the same cause.
-/

set_option autoImplicit false

namespace ClusterConsole

variable {ε α β : Type} {f : α → β} {e : Except ε α}

theorem Except.map_eq_ok_iff {b : β} : e.map f = .ok b ↔ ∃ a, e = .ok a ∧ f a = b := by
  cases e with
  | error x => exact ⟨nofun, nofun⟩
  | ok a =>
    constructor
    · intro h
      exact ⟨a, rfl, Except.ok.inj h⟩
    · rintro ⟨a', ha, rfl⟩
      cases ha
      rfl

theorem Except.exists_of_map_eq_ok {b : β} (h : e.map f = .ok b) : ∃ a, e = .ok a ∧ f a = b :=
  map_eq_ok_iff.1 h

theorem Except.map_eq_error_iff {x : ε} : e.map f = .error x ↔ e = .error x := by
  cases e with
  | error y =>
    constructor <;>
    · intro h
      cases h
      rfl
  | ok a => exact ⟨nofun, nofun⟩

end ClusterConsole
