import ClusterConsole.Proofs.StatusArea.AutoHide

/-!
# Scroll amounts stay within the details

A scroll amount is a word of 16 bits.  A sum, a difference or a count for which there is no word is
replaced by the word at that end of the range, and it has to be shown that this never makes a
difference: `Saturating` has the three computations on words, with the numbers they stand for.

The amount is bounded by the details (`scrollLimit`), which change with every message.  A message
also begins at the top, so the bound holds after each operation if it held before
(`scroll_le_of_step`).  Below the bound there is always room for the word, however many lines the
details have, so what is computed is the number itself, put back into its range
(`scrollsExactly_of_le`).
-/

set_option autoImplicit false

namespace ClusterConsole

/-! ## Words of 16 bits -/

namespace Saturating

/-- The sum of two words, or the largest word if the sum wraps around. -/
def add (a b : UInt16) : UInt16 := if a + b < a then 65535 else a + b

/-- The difference of two words, or zero if the difference would wrap around. -/
def sub (a b : UInt16) : UInt16 := if a < b then 0 else a - b

/-- A count as a word, or the largest word if there is none for the count. -/
def ofCount (n : Nat) : UInt16 := if n < UInt16.size then .ofNat n else 65535

theorem toNat_add (a b : UInt16) : (add a b).toNat = min (a.toNat + b.toNat) maxScroll := by
  have ha : a.toNat < 65536 := a.toNat_lt
  have hb : b.toNat < 65536 := b.toNat_lt
  have hsum : (a + b).toNat = (a.toNat + b.toNat) % 65536 := UInt16.toNat_add a b
  rw [add, maxScroll]
  split
  · next hwrapped =>
    rw [UInt16.lt_iff_toNat_lt, hsum] at hwrapped
    have hlarge : (65535 : UInt16).toNat = 65535 := rfl
    omega
  · next hexact =>
    rw [UInt16.lt_iff_toNat_lt, hsum] at hexact
    rw [hsum]
    omega

theorem toNat_sub (a b : UInt16) : (sub a b).toNat = a.toNat - b.toNat := by
  rw [sub]
  split
  · next hlt => exact (Nat.sub_eq_zero_of_le (Nat.le_of_lt (UInt16.lt_iff_toNat_lt.1 hlt))).symm
  · next hle => exact UInt16.toNat_sub_of_le _ _ (UInt16.not_lt.1 hle)

theorem toNat_ofCount (n : Nat) : (ofCount n).toNat = min n maxScroll := by
  have hsize : UInt16.size = maxScroll + 1 := rfl
  rw [ofCount]
  split
  · next hlt =>
    rw [UInt16.toNat_ofNat_of_lt' hlt]
    omega
  · next hle =>
    have hlarge : (65535 : UInt16).toNat = maxScroll := rfl
    omega

/-- The smaller of two words. -/
theorem toNat_min (a b : UInt16) : (min a b).toNat = min a.toNat b.toNat := by
  change (if a ≤ b then a else b).toNat = _
  split
  · next hle => exact (Nat.min_eq_left (UInt16.le_iff_toNat_le.1 hle)).symm
  · next hlt =>
    rw [UInt16.not_le, UInt16.lt_iff_toNat_lt] at hlt
    exact (Nat.min_eq_right (Nat.le_of_lt hlt)).symm

end Saturating

namespace StatusArea

/-! ## Amounts and their bound -/

/-- The number of lines of the details, however many they are. -/
def lineCount (a : StatusArea) : Nat :=
  a.detail.elim 0 fun detail ↦ (Text.lines detail.toList).length

/-- The largest amount by which so many lines of details can be scrolled: it leaves the last one of
those that have a word for their number. -/
def scrollLimit (lines : Nat) : Nat := max (min lines maxScroll) 1 - 1

theorem scrollLimit_lt (lines : Nat) : scrollLimit lines < maxScroll := by
  rw [scrollLimit, maxScroll]
  omega

theorem detailLines_eq (a : StatusArea) : a.detailLines = min a.lineCount maxScroll := by
  rw [detailLines, lineCount]
  cases a.detail with
  | none => rfl
  | some detail => rfl

/-- Scrolling goes down by as much as is asked for, or to the end: the largest word is never what
stops it. -/
theorem scroll_scrollDown (a : StatusArea) (n : Nat) :
    (a.scrollDown n).scroll = min (a.scroll + n) (scrollLimit a.lineCount) := by
  have hdown : (a.scrollDown n).scroll = min (min (a.scroll + n) maxScroll) (a.detailLines - 1) :=
    rfl
  rw [hdown, detailLines_eq, scrollLimit]
  omega

@[simp] theorem lineCount_scrollDown (a : StatusArea) (n : Nat) :
    (a.scrollDown n).lineCount = a.lineCount := rfl

@[simp] theorem lineCount_scrollUp (a : StatusArea) (n : Nat) :
    (a.scrollUp n).lineCount = a.lineCount := rfl

@[simp] theorem lineCount_tick (a : StatusArea) (now : Instant) :
    (a.tick now).lineCount = a.lineCount := by
  rw [tick]
  split <;> rfl

theorem scroll_of_apply {a b : StatusArea} {u : Update} {now : Instant}
    (h : a.apply u now = .ok b) : b.scroll = 0 := by
  obtain ⟨hideAt, -, rfl⟩ := eq_showing_of_apply h
  rfl

/-- **Every operation leaves the amount within the details.** -/
theorem scroll_le_of_step {a b : StatusArea} {op : Op} (h : a.scroll ≤ scrollLimit a.lineCount)
    (hstep : a.step op = .ok b) : b.scroll ≤ scrollLimit b.lineCount := by
  cases op with
  | apply u now =>
    -- whatever the new details are, they are shown from the top on
    rw [scroll_of_apply hstep]
    exact Nat.zero_le _
  | tick now =>
    cases hstep
    rw [scroll_tick, lineCount_tick]
    exact h
  | scrollDown n =>
    cases hstep
    rw [scroll_scrollDown, lineCount_scrollDown]
    exact Nat.min_le_right ..
  | scrollUp n =>
    cases hstep
    rw [lineCount_scrollUp]
    exact Nat.le_trans (Nat.sub_le ..) h

theorem scroll_le_of_run {delay : Duration} {ops : List Op} {a : StatusArea}
    (h : (hidden delay).run ops = .ok a) : a.scroll ≤ scrollLimit a.lineCount :=
  run_induction (P := fun _ a ↦ a.scroll ≤ scrollLimit a.lineCount) (Nat.zero_le _)
    (fun _ _ _ _ ↦ scroll_le_of_step) h

/-! ## Amounts as words -/

/-- Scrolling down as words are computed with: the sum, but at most one less than the count of
lines. -/
def wordDown (lines : Nat) (scroll n : UInt16) : UInt16 :=
  min (Saturating.add scroll n) (Saturating.sub (Saturating.ofCount lines) 1)

/-- Scrolling up as words are computed with. -/
def wordUp (scroll n : UInt16) : UInt16 := Saturating.sub scroll n

/-- A word stands for the amount of an area, also after it is scrolled. -/
theorem toNat_wordDown {a : StatusArea} {w : UInt16} (h : w.toNat = a.scroll) (n : UInt16) :
    (wordDown a.lineCount w n).toNat = (a.scrollDown n.toNat).scroll := by
  have hone : (1 : UInt16).toNat = 1 := rfl
  rw [wordDown, Saturating.toNat_min, Saturating.toNat_add, Saturating.toNat_sub,
    Saturating.toNat_ofCount, h, hone, ← detailLines_eq]
  rfl

theorem toNat_wordUp {a : StatusArea} {w : UInt16} (h : w.toNat = a.scroll) (n : UInt16) :
    (wordUp w n).toNat = (a.scrollUp n.toNat).scroll := by
  rw [wordUp, Saturating.toNat_sub, h]
  rfl

/-- The amount of an area, and what scrolling makes of it. -/
structure ScrollsExactly (a : StatusArea) : Prop where
  /-- The amount is below the number of lines of the details, and zero if there are none. -/
  scroll_le : a.scroll ≤ max (min a.lineCount maxScroll) 1 - 1
  /-- Scrolling down adds to it, as integers are added, up to that bound. -/
  down_eq : ∀ n : Nat, ((a.scrollDown n).scroll : Int) =
    min ((a.scroll : Int) + n) (max (min (a.lineCount : Int) maxScroll) 1 - 1)
  /-- Scrolling up takes from it, down to zero. -/
  up_eq : ∀ n : Nat, ((a.scrollUp n).scroll : Int) = max ((a.scroll : Int) - n) 0
  /-- A word stands for the amount, and what is computed with it are the words for these. -/
  words : ∃ w : UInt16, w.toNat = a.scroll ∧ ∀ n : UInt16,
    (wordDown a.lineCount w n).toNat = (a.scrollDown n.toNat).scroll ∧
      (wordUp w n).toNat = (a.scrollUp n.toNat).scroll

theorem scrollsExactly_of_le {a : StatusArea} (h : a.scroll ≤ scrollLimit a.lineCount) :
    a.ScrollsExactly where
  scroll_le := h
  down_eq n := by
    rw [scroll_scrollDown, scrollLimit]
    omega
  up_eq n := by
    have hup : (a.scrollUp n).scroll = a.scroll - n := rfl
    rw [hup]
    omega
  words := by
    have hlt : a.scroll < maxScroll := Nat.lt_of_le_of_lt h (scrollLimit_lt _)
    have hword : (UInt16.ofNat a.scroll).toNat = a.scroll :=
      UInt16.toNat_ofNat_of_lt' (Nat.lt_trans hlt (Nat.lt_succ_self maxScroll))
    exact ⟨_, hword, fun n ↦ ⟨toNat_wordDown hword n, toNat_wordUp hword n⟩⟩

end StatusArea
end ClusterConsole
