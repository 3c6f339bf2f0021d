import ClusterConsole.Proofs.Url.Web

/-!
# What is sent of a URL

A request shows two parts of its URL, the target and the host, and each has to stay on its line.
If it is redirected, then the next request shows the whole URL, but for the user and the fragment.
For a URL of the web they all stay on their lines (`sendable_of_parse`), whatever text it was read
from: what is not visible in a path or a query is escaped, a name that has a blank or a control in
it is refused, and addresses and ports are written anew from their numbers.
-/

set_option autoImplicit false

namespace ClusterConsole
namespace Url

/-! ## The target -/

theorem isVisible_of_isPathPlain {c : Char} (h : isPathPlain c = true) : isVisible c = true := by
  simp only [isPathPlain, isFragmentPlain, Bool.and_eq_true] at h
  exact h.1.1

theorem isVisible_of_isQueryPlain {special : Bool} {c : Char} (h : isQueryPlain special c = true) :
    isVisible c = true := by
  simp only [isQueryPlain, Bool.and_eq_true] at h
  exact h.1.1

/-- What is escaped is visible if what stays plain is. -/
theorem isVisible_of_mem_escape {plain : Char → Bool} {s : List Char} {c : Char}
    (hplain : ∀ d, plain d = true → isVisible d = true) (h : c ∈ Text.Percent.escape plain s) :
    isVisible c = true := by
  rcases Text.Percent.mem_escape h with ⟨-, hc⟩ | hc | rfl
  · exact hplain c hc
  · exact isVisible_of_isPathPlain (Path.isPathPlain_of_isUnreserved hc)
  · rfl

namespace Path

theorem mem_of_mem_goBack {done : List (List Char)} {seg : List Char} (h : seg ∈ goBack done) :
    seg ∈ done := by
  cases done with
  | nil => exact h
  | cons last rest =>
    rw [goBack] at h
    split at h
    · exact h
    · exact List.mem_cons_of_mem last h

/-- Going along segments adds none but the empty one. -/
theorem mem_of_mem_follow {done segs : List (List Char)} {seg : List Char}
    (h : seg ∈ follow done segs) : seg = [] ∨ seg ∈ done ∨ seg ∈ segs := by
  have hback : ∀ {done : List (List Char)}, seg ∈ goBack done → seg ∈ done := mem_of_mem_goBack
  fun_induction follow done segs with grind

/-- Going along segments leads somewhere. -/
theorem follow_ne_nil {done segs : List (List Char)} (h : segs ≠ []) : follow done segs ≠ [] := by
  fun_induction follow done segs with grind

theorem head?_text {segs : List (List Char)} (h : segs ≠ []) : (text segs).head? = some '/' := by
  obtain ⟨seg, rest, rfl⟩ := List.exists_cons_of_ne_nil h
  rfl

theorem head?_text_segments (s : List Char) : (text (segments s)).head? = some '/' := by
  refine head?_text (follow_ne_nil ?_)
  simpa using Text.pieces_ne_nil '/' s

/-- All of a path is visible. -/
theorem isVisible_of_mem_text {s : List Char} {c : Char} (h : c ∈ text (segments s)) :
    isVisible c = true := by
  obtain ⟨seg, hseg, hc⟩ := List.mem_flatMap.1 h
  rcases List.mem_cons.1 hc with rfl | hc
  · rfl
  rcases mem_of_mem_follow hseg with rfl | hdone | hseg
  · cases hc
  · cases hdone
  · obtain ⟨piece, -, rfl⟩ := List.mem_map.1 hseg
    exact isVisible_of_mem_escape (fun d ↦ isVisible_of_isPathPlain) hc

end Path

namespace WebText

variable (w : WebText) (a : Authority)

theorem target_url : (w.url a).target = Path.text (readSegments true w.rest) ++
    ((w.url a).query.map ('?' :: ·)).getD [] := rfl

theorem head?_target : (w.url a).target.head? = some '/' := by
  have hpath : (Path.text (readSegments true w.rest)).head? = some '/' :=
    Path.head?_text_segments _
  rw [target_url, List.head?_append, hpath]
  rfl

theorem isVisible_of_mem_target {c : Char} (h : c ∈ (w.url a).target) : isVisible c = true := by
  rw [target_url, List.mem_append] at h
  rcases h with h | h
  · exact Path.isVisible_of_mem_text h
  cases hquery : (w.url a).query with
  | none => simp [hquery] at h
  | some query =>
    have hescape : ∃ s, Text.Percent.escape (isQueryPlain true) s = query := by
      obtain ⟨s, -, hs⟩ := Option.map_eq_some_iff.1 (show Option.map _ _ = _ from hquery)
      exact ⟨s, hs⟩
    obtain ⟨s, rfl⟩ := hescape
    rw [hquery, Option.map_some, Option.getD_some, List.mem_cons] at h
    rcases h with rfl | h
    · rfl
    · exact isVisible_of_mem_escape (fun d ↦ isVisible_of_isQueryPlain) h

end WebText

/-! ## The host -/

/-- No blank and no control of ASCII. -/
def Printing (c : Char) : Prop := isTrimmed c = false ∧ c ≠ '\x7f'

instance (c : Char) : Decidable (Printing c) := inferInstanceAs (Decidable (_ ∧ _))

/-- A digit in a base of at most sixteen. -/
theorem printing_of_mem_toDigits {base n : Nat} {c : Char} (hlow : 1 < base) (hhigh : base ≤ 16)
    (h : c ∈ Nat.toDigits base n) : Printing c := by
  have hdigit : ∀ d < 16, Printing d.digitChar := by decide
  induction n using Nat.strongRecOn with
  | ind n ih =>
    by_cases hn : n < base
    · rw [Nat.toDigits_of_lt_base hn, List.mem_singleton] at h
      exact h ▸ hdigit n (by omega)
    · rw [Nat.toDigits_of_base_le hlow (by omega), List.mem_append, List.mem_singleton] at h
      rcases h with h | rfl
      · exact ih _ (Nat.div_lt_self (by omega) hlow) h
      · have hmod := Nat.mod_lt n (by omega : 0 < base)
        exact hdigit _ (by omega)

/-- A name that has been read has none of the characters that cannot be in one. -/
theorem Name.printing_of_parse {s name : List Char} (h : parse s = .ok name) {c : Char}
    (hc : c ∈ name) : Printing c := by
  obtain ⟨t, labels, hreads⟩ := exists_reads h
  have hnot := hreads.not_reserved c hc
  simp only [isReserved, isControl, Bool.or_eq_false_iff, beq_eq_false_iff_ne] at hnot
  exact ⟨hnot.1.1, hnot.1.2⟩

theorem Address4.printing_of_mem_text {n : Nat} {c : Char} (h : c ∈ text n) : Printing c := by
  rcases Text.eq_or_mem_of_mem_join h with rfl | ⟨piece, hpiece, hc⟩
  · decide
  · obtain ⟨place, -, rfl⟩ := List.mem_map.1 hpiece
    exact printing_of_mem_toDigits (by decide) (by decide) hc

theorem Address6.printing_of_mem_groupsText {groups : List Nat} {c : Char}
    (h : c ∈ groupsText groups) : Printing c := by
  rcases Text.eq_or_mem_of_mem_join h with rfl | ⟨piece, hpiece, hc⟩
  · decide
  · obtain ⟨group, -, rfl⟩ := List.mem_map.1 hpiece
    exact printing_of_mem_toDigits (by decide) (by decide) hc

theorem Address6.printing_of_mem_text {groups : List Nat} {c : Char} (h : c ∈ text groups) :
    Printing c := by
  rw [text] at h
  split at h
  · exact printing_of_mem_groupsText h
  · simp only [List.mem_append, List.mem_cons] at h
    rcases h with h | rfl | rfl | h
    · exact printing_of_mem_groupsText h
    · decide
    · decide
    · exact printing_of_mem_groupsText h

/-- A host that has been read is written without blanks and controls. -/
theorem Host.printing_of_parse {s : List Char} {host : Host} (h : parse s = .ok host) {c : Char}
    (hc : c ∈ host.text) : Printing c := by
  cases host with
  | name t =>
    rw [parse] at h
    split at h
    · next inner _ =>
      cases inner with
      | error fault => cases h
      | ok inner =>
        obtain ⟨groups, -, heq⟩ := Except.map_eq_ok_iff.1 h
        cases heq
    split at h
    · cases h
    next name hname =>
    split at h
    · obtain ⟨n, -, heq⟩ := Except.map_eq_ok_iff.1 h
      cases heq
    · cases h
      exact Name.printing_of_parse hname hc
  | address4 n => exact Address4.printing_of_mem_text hc
  | address6 groups =>
    simp only [text, List.mem_cons, List.mem_append, List.not_mem_nil, or_false] at hc
    rcases hc with rfl | hc | rfl
    · decide
    · exact Address6.printing_of_mem_text hc
    · decide

/-- The host of an authority comes from what was read as one. -/
theorem Authority.exists_host {usual : Nat} {s : List Char} {a : Authority}
    (h : parse usual s = .ok a) : ∃ t, Host.parse t = .ok a.host := by
  rw [parse] at h
  simp only at h
  split at h
  · cases h
  split at h
  · cases h
  next host hhost =>
  split at h
  · cases h
  · cases h
    exact ⟨_, hhost⟩

theorem Authority.printing_of_parse {usual : Nat} {s : List Char} {a : Authority}
    (h : parse usual s = .ok a) {c : Char} (hc : c ∈ a.hostText) : Printing c := by
  obtain ⟨t, ht⟩ := exists_host h
  rw [hostText, List.mem_append] at hc
  rcases hc with hc | hc
  · exact Host.printing_of_parse ht hc
  cases hport : a.port with
  | none => simp [hport] at hc
  | some n =>
    rw [hport, Option.map_some, Option.getD_some, List.mem_cons] at hc
    rcases hc with rfl | hc
    · decide
    · exact printing_of_mem_toDigits (by decide) (by decide) hc

/-! ## The whole URL -/

theorem printing_of_isVisible {c : Char} (h : isVisible c = true) : Printing c := by
  simp only [isVisible, Bool.and_eq_true, decide_eq_true_eq] at h
  refine ⟨?_, ?_⟩
  · simp only [isTrimmed, decide_eq_false_iff_not]
    omega
  · rintro rfl
    exact absurd h.2 (by decide)

theorem text_bare {u : Url} {a : Authority} (h : u.authority = some a) :
    u.bare.text = u.scheme ++ ':' :: '/' :: '/' :: (a.hostText ++ u.target) := by
  have hauthority : u.bare.authority = some a.withoutUser := by rw [bare, withoutUser, h]; rfl
  have huser : a.withoutUser.text = a.hostText := rfl
  have htarget : u.bare.target = u.target := rfl
  have hfragment : u.bare.fragment = none := rfl
  rw [text, authorityText, hauthority, htarget, hfragment]
  simp only [huser, Option.map_none, Option.getD_none, List.append_nil, List.cons_append]
  rfl

/-- The target of a URL and its host stay on their lines, and so does the URL as a whole. -/
structure Sendable (u : Url) (a : Authority) : Prop where
  target_head : u.target.head? = some '/'
  target_chars : ∀ c ∈ u.target, isVisible c = true
  host_chars : ∀ c ∈ a.hostText, Printing c
  bare_chars : ∀ c ∈ u.bare.text, Printing c

/-- **What is sent of a URL of the web stays on its line.** -/
theorem sendable_of_parse {s : List Char} {u : Url} {a : Authority} (h : parse s = .ok u)
    (ha : u.webAuthority? = some a) : Sendable u a := by
  have hweb : u.isWeb = true := by
    by_contra hnot
    simp [webAuthority?, hnot] at ha
  obtain ⟨w, a', hreads, rfl⟩ := exists_reads h hweb
  rw [webAuthority?, if_pos hweb] at ha
  cases ha
  obtain ⟨usual, -, hauthority⟩ := hreads.authority_eq
  have htarget : ∀ c ∈ (w.url a).target, isVisible c = true :=
    fun c ↦ w.isVisible_of_mem_target a
  have hhost : ∀ c ∈ a.hostText, Printing c := fun c ↦ Authority.printing_of_parse hauthority
  refine ⟨w.head?_target a, htarget, hhost, fun c hc ↦ ?_⟩
  have hscheme : ∀ c ∈ (w.url a).scheme, isVisible c = true := by
    rw [isWeb, Bool.or_eq_true, beq_iff_eq, beq_iff_eq] at hweb
    rcases hweb with heq | heq <;> rw [heq] <;> exact List.all_eq_true.1 rfl
  rw [text_bare rfl] at hc
  simp only [List.mem_append, List.mem_cons] at hc
  rcases hc with hc | rfl | rfl | rfl | hc | hc
  · exact printing_of_isVisible (hscheme c hc)
  · decide
  · decide
  · decide
  · exact hhost c hc
  · exact printing_of_isVisible (htarget c hc)

end Url
end ClusterConsole
