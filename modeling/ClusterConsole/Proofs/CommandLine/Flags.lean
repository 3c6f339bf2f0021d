import ClusterConsole.CommandLine.Arguments
import Mathlib

/-!
# Flags with their values attached

A flag is written with its value attached to it as `--name=value`.  Whatever the value is, empty or
with hyphens and equals signs in it, the argument is read as that flag with that value, because no
name of a flag has an equals sign in it; and since the argument begins with a hyphen, it is never
taken for the name of a command.

* `Flag.attached` is a flag written with its value, and `form_attached` says how it is read.
* `scan_attached` is what one such argument does to what has been found so far, and
  `scan_attachedAll` what a row of them does.
* `Scan.value?_eq_of_perm` says that the values are then looked up by their flags, in whatever
  order these stood.
-/

set_option autoImplicit false

namespace ClusterConsole
namespace CommandLine

/-- A flag with its value attached to it. -/
def Flag.attached (f : Flag) (value : String) : String := "--" ++ f.name ++ "=" ++ value

/-- Flags with their values attached to them. -/
def attachedAll (vs : List (Flag × String)) : List String := vs.map fun v ↦ v.1.attached v.2

/-- The flags of a scope that are given, each with its value. -/
def Scope.given (scope : Scope) (value? : Flag → Option String) : List (Flag × String) :=
  scope.flags.filterMap fun f ↦ (value? f).map (f, ·)

variable {scope : Scope} {f g : Flag} {value v w : String} {vs : List (Flag × String)}

/-! ## How a flag is read -/

theorem not_mem_name (f : Flag) : '=' ∉ f.name.toList := by
  cases f with
  | input k => cases k <;> decide
  | _ => decide

theorem splitValue_append {name : List Char} (h : '=' ∉ name) (value : List Char) :
    splitValue (name ++ '=' :: value) = (String.ofList name, some (String.ofList value)) := by
  have hname : ∀ c ∈ name, (c != '=') = true := fun c hc ↦ bne_iff_ne.2 fun heq ↦ h (heq ▸ hc)
  rw [splitValue, List.takeWhile_append_of_pos hname, List.dropWhile_append_of_pos hname]
  simp

theorem form_of_hyphens {argument : String} {s : List Char}
    (h : argument.toList = '-' :: '-' :: s) (hs : s ≠ []) :
    Form.of argument = .long (splitValue s).1 (splitValue s).2 := by
  obtain ⟨c, rest, rfl⟩ := List.exists_cons_of_ne_nil hs
  rw [Form.of, h]
  rfl

/-- **Whatever its value is, a flag is read with that value.** -/
theorem form_attached (f : Flag) (value : String) :
    Form.of (f.attached value) = .long f.name (some value) := by
  have hlist : (f.attached value).toList =
      '-' :: '-' :: (f.name.toList ++ '=' :: value.toList) := by
    simp [Flag.attached, String.toList_append]
  rw [form_of_hyphens hlist (by simp), splitValue_append (not_mem_name f), String.ofList_toList,
    String.ofList_toList]

/-- Flags with values attached are told apart by their names and their values. -/
theorem name_eq_of_attached_eq (h : f.attached v = g.attached w) : f.name = g.name ∧ v = w := by
  have hform : Form.of (f.attached v) = Form.of (g.attached w) := congrArg Form.of h
  rw [form_attached, form_attached] at hform
  injection hform with hname hvalue
  exact ⟨hname, Option.some.inj hvalue⟩

/-- No command is named like a flag with a value. -/
theorem text_ne_attached (c : Name) (f : Flag) (value : String) : c.text ≠ f.attached value := by
  intro h
  have hform : Form.of c.text = .long f.name (some value) := h ▸ form_attached f value
  cases c <;> cases hform

theorem command?_attached (scope : Scope) (f : Flag) (value : String) :
    scope.command? (f.attached value) = none := by
  refine List.find?_eq_none.2 fun c _ hc ↦ ?_
  exact text_ne_attached c f value (beq_iff_eq.1 hc)

/-! ## The flags of a scope -/

theorem flags_nodup (scope : Scope) : scope.flags.Nodup := by
  cases scope with
  | top => decide
  | command c => cases c <;> decide

/-- A flag of a scope is known by its name there. -/
theorem flag?_name (hf : f ∈ scope.flags) : scope.flag? f.name = some f := by
  have hall : ∀ f ∈ scope.flags, scope.flag? f.name = some f := by
    cases scope with
    | top => decide
    | command c => cases c <;> decide +kernel
  exact hall f hf

theorem mem_given {value? : Flag → Option String} :
    (f, v) ∈ scope.given value? ↔ f ∈ scope.flags ∧ value? f = some v := by
  simp only [Scope.given, List.mem_filterMap, Option.map_eq_some_iff, Prod.mk.injEq]
  constructor
  · rintro ⟨g, hg, w, hw, rfl, rfl⟩
    exact ⟨hg, hw⟩
  · rintro ⟨hf, hv⟩
    exact ⟨f, hf, v, hv, rfl, rfl⟩

/-- No flag is given twice. -/
theorem given_nodup (scope : Scope) (value? : Flag → Option String) :
    ((scope.given value?).map (·.1)).Nodup := by
  have hfilter : (scope.given value?).map (·.1) =
      scope.flags.filter fun f ↦ (value? f).isSome := by
    rw [Scope.given, List.map_filterMap, ← List.filterMap_eq_filter]
    refine List.filterMap_congr fun f _ ↦ ?_
    cases hvalue : value? f <;> simp [hvalue, Option.guard]
  exact hfilter ▸ (flags_nodup scope).filter _

/-! ## Looking for values -/

namespace Scan

theorem has_eq_false_iff {s : Scan} : s.has f = false ↔ f ∉ s.settled := by
  rw [has, value?, Option.isSome_map, ← Bool.not_eq_true, List.find?_isSome, settled, List.mem_map]
  simp only [beq_iff_eq]

/-- A value is found exactly if it was put in, since no flag stands twice. -/
theorem value?_eq_some_iff {s : Scan} (h : (s.values.map (·.1)).Nodup) :
    s.value? f = some v ↔ (f, v) ∈ s.values := by
  rw [value?]
  induction hvalues : s.values generalizing s with
  | nil => simp
  | cons p rest ih =>
    rw [hvalues, List.map_cons, List.nodup_cons] at h
    rw [List.find?_cons, List.mem_cons]
    by_cases hp : p.1 = f
    · have hrest : (f, v) ∉ rest := fun hmem ↦ h.1 (hp ▸ List.mem_map_of_mem hmem)
      simp [hp, hrest, Prod.ext_iff, eq_comm]
    · have hne : (f, v) ≠ p := fun heq ↦ hp (heq ▸ rfl)
      rw [beq_false_of_ne hp, or_iff_right hne]
      exact ih (s := ⟨rest, [], .none⟩) h.2 rfl

/-- **What is given for the flags of a scope is found, in whatever order it was put in.** -/
theorem value?_eq_of_perm {s : Scan} {value? : Flag → Option String}
    (h : s.values.Perm (scope.given value?)) (hf : f ∈ scope.flags) :
    s.value? f = value? f := by
  have hnodup : (s.values.map (·.1)).Nodup :=
    ((h.map _).nodup_iff).2 (given_nodup scope value?)
  refine Option.ext fun v ↦ ?_
  rw [value?_eq_some_iff hnodup, h.mem_iff, mem_given, and_iff_right hf]

end Scan

/-! ## Going through flags -/

/-- What one flag with a value that is in order does to what has been found so far. -/
theorem scan_attached {s : Scan} (hf : f ∈ scope.flags) (hcheck : f.check value = .ok ())
    (hpending : s.pending = .none) (hnew : s.has f = false) (rest : List String) :
    scan scope s (f.attached value :: rest) =
      scan scope { s with values := s.values ++ [(f, value)] } rest := by
  have hcommand : commandAt? scope s (f.attached value) = none := by
    rw [commandAt?, command?_attached, ite_self]
  have hsettle : s.settle scope = .ok s := by rw [Scan.settle, hpending]
  have haccept : s.accept scope f value = .ok { s with values := s.values ++ [(f, value)] } := by
    rw [Scan.accept, hnew, hcheck, hpending]
    rfl
  have hfollow : followLong scope s f.name (some value) rest =
      .ok { s with values := s.values ++ [(f, value)] } := by
    simp only [followLong, flag?_name hf, hsettle, haccept, orStop]
  rw [scan, hcommand]
  simp only [form_attached, hfollow]

/-- **A row of flags with values that are in order is found, if no flag stands twice.** -/
theorem scan_attachedAll (hscope : ∀ p ∈ vs, p.1 ∈ scope.flags)
    (hcheck : ∀ p ∈ vs, p.1.check p.2 = .ok ()) (rest : List String) :
    ∀ {s : Scan}, s.pending = .none → (s.settled ++ vs.map (·.1)).Nodup →
      scan scope s (attachedAll vs ++ rest) =
        scan scope { s with values := s.values ++ vs } rest := by
  -- each flag is settled in its turn, so the flags that are settled, followed by those that are
  -- still to come, are the same list all the way
  induction vs with
  | nil =>
    intro s _ _
    rw [List.append_nil]
    rfl
  | cons p vs ih =>
    intro s hpending hnodup
    rw [List.forall_mem_cons] at hscope hcheck
    have hnew : s.has p.1 = false :=
      Scan.has_eq_false_iff.2 fun hmem ↦ List.disjoint_of_nodup_append hnodup hmem (by simp)
    let s' : Scan := { s with values := s.values ++ [p] }
    have hstep : scan scope s (attachedAll (p :: vs) ++ rest) =
        scan scope s' (attachedAll vs ++ rest) :=
      scan_attached hscope.1 hcheck.1 hpending hnew _
    have hnodup' : (s'.settled ++ vs.map (·.1)).Nodup := by
      simpa [s', Scan.settled] using hnodup
    rw [hstep, ih hscope.2 hcheck.2 (s := s') hpending hnodup', List.append_assoc]
    rfl

end CommandLine
end ClusterConsole
